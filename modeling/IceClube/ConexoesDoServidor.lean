import IceClube.Rotas
import IceClube.Tracks
import IceClube.Translation

/-! The connection pool of the web server. Three routes take a connection, send all statements of
their transaction on it and give it back; a statement of any other route takes one for itself.
What MySQL answers is left open, and it may close a connection at any time. -/
namespace IceClube

open Coop Prog

/-- `E` are the statements of the other routes. -/
inductive OpPool (E : Type) where
  | getConnection
  /-- The one that `pedido_manual` sends before its `try`. -/
  | beginTransaction (k : Nat)
  | sql (k : Nat) (q : Sql)
  | rollback (k : Nat)
  | release (k : Nat)
  | dbQuery (q : E)

variable {E : Type} {R : E → Type}

@[reducible] def OpPool.Res (R : E → Type) : OpPool E → Type
  | .getConnection => Nat
  | .sql _ q => q.Res
  | .dbQuery q => R q
  | _ => Unit

structure MySqlDoPool (R : E → Type) where
  conexao : Except String Unit
  sql : (q : Sql) → Except String q.Res
  rollback : Except String Unit
  outra : (q : E) → Except String (R q)

/-- `mysql2` opens a connection when it is first asked for, up to `connectionLimit` of them; a place
that has none yet counts as one that is open and free. -/
structure PoolDoServidor (R : E → Type) where
  /-- Each of the pool's connections, given out or not. -/
  abertas : List Nat
  livres : List Nat
  proxima : Nat
  mysql : MySqlDoPool R

/-- What changes on its own: the answers, and a connection that is closed and replaced. -/
inductive AcasoDoPool (R : E → Type) where
  | responde (mysql : MySqlDoPool R)
  | fecha (k : Nat)

namespace PoolDoServidor

def aberto (n : Nat) (mysql : MySqlDoPool R) : PoolDoServidor R :=
  ⟨List.range n, List.range n, n, mysql⟩

def semConexao : String := "No connections available."

def naConexao {α : Type} (s : PoolDoServidor R) (k : Nat) (answer : Except String α) :
    Except String α :=
  if k ∈ s.abertas then answer
  else .error "Can't add new command when connection is in closed state"

def fechar (k : Nat) (s : PoolDoServidor R) : PoolDoServidor R :=
  if k ∈ s.abertas then
    { s with
      abertas := s.proxima :: s.abertas.erase k
      livres := s.proxima :: s.livres.erase k
      proxima := s.proxima + 1 }
  else s

def muda : AcasoDoPool R → PoolDoServidor R → PoolDoServidor R
  | .responde mysql, s => { s with mysql := mysql }
  | .fecha k, s => s.fechar k

end PoolDoServidor

/-- With no connection free the pool keeps its callers waiting; here it refuses them, and what
holds of the runs in which it may do so holds of those in which it never does. -/
def OpPool.exec : Exec String (OpPool.Res R) (PoolDoServidor R)
  | .getConnection, s =>
    match s.livres, s.mysql.conexao with
    | k :: livres, .ok _ => (.ok k, { s with livres := livres })
    | _, .error e => (.error e, s)
    | [], .ok _ => (.error PoolDoServidor.semConexao, s)
  | .beginTransaction k, s => (s.naConexao k (s.mysql.sql .beginTransaction), s)
  | .sql k q, s => (s.naConexao k (s.mysql.sql q), s)
  | .rollback k, s => (s.naConexao k s.mysql.rollback, s)
  | .release k, s => (.ok (), if k ∈ s.abertas then { s with livres := k :: s.livres } else s)
  | .dbQuery q, s =>
    (if s.livres = [] then .error PoolDoServidor.semConexao else s.mysql.outra q, s)

section Rotas

abbrev Atendimento (R : E → Type) := Prog String (OpPool.Res R) Resposta

/-- A statement of a transaction; the connection is there already. -/
def enviar (k : Nat) : (q : Sql) → Prog String (OpPool.Res R) (Except String q.Res)
  | .getConnection => done (.ok ())
  | q => attempt (OpPool.sql k q)

/-- `try … finally { conn.release() }`. -/
def comRelease (k : Nat) (tentar : Atendimento R) : Atendimento R := do
  let fim ← outcome tentar
  ask (OpPool.release k)
  answered fim

/-- `rollback` as the route calls it, where the transaction ends in one. -/
def concluir (rollback : Prog String (OpPool.Res R) Unit) : Fim → Atendimento R
  | .commit resposta => pure resposta
  | .rollback resposta => do
    rollback
    pure resposta

/-- The transaction of `t` on a connection, with the `catch` of its route. -/
def transacaoEm (k : Nat) (t : Tx) (rollback : Prog String (OpPool.Res R) Unit) : Atendimento R :=
  let tentar : Atendimento R := do
    let fim ← through (enviar k) t.corpo
    concluir rollback fim
  comRelease k (tentar.handle fun mensagem => do
    rollback
    pure (t.erro mensagem))

/-- `POST /valido`: the connection is taken inside the `try`. -/
def validoNoPool (corpo : CorpoValido) : Atendimento R := do
  if corpo.id = 0 then pure ⟨400, "ID do pedido inválido", none⟩
  else
    match ← attempt OpPool.getConnection with
    | .error mensagem => pure ((Tx.valido corpo).erro mensagem)
    | .ok k => transacaoEm k (.valido corpo) (ask (OpPool.rollback k))

/-- `POST /api/lancamentos`. -/
def lancamentosNoPool (corpo : CorpoLancamento) : Atendimento R := do
  if corpo.descricao = "" ∨ corpo.dataLancamento = "" then
    pure ⟨400, "Descrição e data de lançamento são obrigatórios.", none⟩
  else
    let k ← ask OpPool.getConnection
    transacaoEm k (.lancamento corpo) (ask (OpPool.rollback k))

/-- `POST /api/pedido_manual`; a rejected ROLLBACK is ignored. -/
def pedidoManualNoPool (corpo : CorpoPedido) : Atendimento R :=
  match corpo.recusa with
  | some resposta => pure resposta
  | none => do
    let k ← ask OpPool.getConnection
    ask (OpPool.beginTransaction k)
    transacaoEm k (.pedidoManual corpo) do
      let _ ← attempt (OpPool.rollback k)
      pure ()

inductive ReqPool (R : E → Type) where
  | valido (corpo : CorpoValido)
  | lancamentos (corpo : CorpoLancamento)
  | pedidoManual (corpo : CorpoPedido)
  | outra (rota : Prog String R Resposta)

def ReqPool.rota : ReqPool R → Atendimento R
  | valido corpo => validoNoPool corpo
  | lancamentos corpo => lancamentosNoPool corpo
  | pedidoManual corpo => pedidoManualNoPool corpo
  | outra rota => through (fun q => attempt (OpPool.dbQuery q)) rota

def servidorComPool (R : E → Type) :
    System (ReqPool R) (AcasoDoPool R) String (OpPool.Res R) Resposta (PoolDoServidor R) where
  exec := OpPool.exec
  sync _ := false
  listeners r := [r.rota]
  drift := PoolDoServidor.muda

end Rotas

section Vez

/-- What a handler holds: nothing, a connection, or a connection that it leaves behind because
its BEGIN was rejected before the `try`. -/
inductive Vez where
  | sem
  | com (k : Nat)
  | perdida (k : Nat)
  deriving DecidableEq, Repr

def Vez.conexao : Vez → Option Nat
  | sem => none
  | com k | perdida k => some k

def Vez.apos : (o : OpPool E) → Except String (o.Res R) → Vez → Vez
  | .getConnection, .ok k, _ => .com k
  | .beginTransaction k, .error _, _ => .perdida k
  | .release _, _, _ => .sem
  | _, _, v => v

/-- A handler that holds a connection sends its statements on it and asks for no other. -/
def OpPool.cabe : OpPool E → Vez → Prop
  | .getConnection, v | .dbQuery _, v => v = .sem
  | .beginTransaction k, v | .sql k _, v | .rollback k, v | .release k, v => v = .com k

def Vez.encerra (_ : Except String Resposta) (v : Vez) : Prop := v = .sem ∨ ∃ k, v = .perdida k

def contratoDoPool (R : E → Type) : Contract String (OpPool.Res R) Vez :=
  .tracking OpPool.cabe Vez.apos

variable {k : Nat}

/-- On its connection a handler keeps it. -/
theorem meets_through_enviar {α : Type} (p : Consulta α) :
    Meets (contratoDoPool R) (through (enviar k) p) (fun _ v => v = .com k) (.com k) := by
  refine meets_through_still (fun q => ?_) p
  cases q with
  | getConnection => exact ⟨_, rfl, rfl⟩
  | _ => exact ⟨rfl, fun answer v' same => ⟨answer, rfl, same⟩⟩

/-- The `finally` gives it back. -/
theorem meets_comRelease {tentar : Atendimento R}
    (kept : Meets (contratoDoPool R) tentar (fun _ v => v = .com k) (.com k)) :
    Meets (contratoDoPool R) (comRelease k tentar) Vez.encerra (.com k) := by
  rw [comRelease, meets_bind]
  refine meets_mono (meets_outcome kept) fun r v ended => ?_
  obtain ⟨fim, rfl, rfl⟩ := ended
  rw [then_ok, meets_bind, meets_ask]
  refine ⟨rfl, fun answer v' given => ?_⟩
  have back : v' = .sem := given.trans (by cases answer <;> rfl)
  cases answer with
  | error e => exact .inl back
  | ok _ =>
    rw [then_ok]
    cases fim <;> exact .inl back

theorem meets_transacaoEm (t : Tx) {rollback : Prog String (OpPool.Res R) Unit}
    (kept : Meets (contratoDoPool R) rollback (fun _ v => v = .com k) (.com k)) :
    Meets (contratoDoPool R) (transacaoEm k t rollback) Vez.encerra (.com k) := by
  have depois (resposta : Resposta) : Meets (contratoDoPool R)
      (rollback >>= fun _ => (pure resposta : Atendimento R)) (fun _ v => v = .com k) (.com k) := by
    rw [meets_bind]
    refine meets_mono kept fun r v same => ?_
    cases r <;> exact same
  refine meets_comRelease ?_
  rw [meets_handle, meets_bind]
  refine meets_mono (meets_through_enviar t.corpo) fun r v same => ?_
  subst same
  cases r with
  | error e => exact depois _
  | ok fim =>
    rw [then_ok]
    refine meets_mono (Q := fun _ v => v = .com k) ?_ fun r v same => ?_
    · cases fim with
      | commit resposta => rfl
      | rollback resposta => exact depois resposta
    · subst same
      cases r with
      | ok resposta => rfl
      | error e => exact depois _

/-- A ROLLBACK leaves the connection with its handler, rejected or not. -/
theorem meets_rollback :
    Meets (contratoDoPool R) (ask (OpPool.rollback k)) (fun _ v => v = .com k) (.com k) :=
  (meets_ask ..).mpr ⟨rfl, fun _ _ same => same⟩

theorem meets_rota (r : ReqPool R) :
    Meets (contratoDoPool R) r.rota Vez.encerra .sem := by
  cases r with
  | valido corpo =>
    rw [ReqPool.rota, validoNoPool]
    split
    · exact .inl rfl
    · refine ⟨rfl, fun answer v given => ?_⟩
      cases answer with
      | error e => exact .inl given
      | ok k =>
        obtain rfl : v = .com k := given
        exact meets_transacaoEm _ meets_rollback
  | lancamentos corpo =>
    rw [ReqPool.rota, lancamentosNoPool]
    split
    · exact .inl rfl
    · refine ⟨rfl, fun answer v given => ?_⟩
      cases answer with
      | error e => exact .inl given
      | ok k =>
        obtain rfl : v = .com k := given
        exact meets_transacaoEm _ meets_rollback
  | pedidoManual corpo =>
    rw [ReqPool.rota, pedidoManualNoPool]
    split
    · exact .inl rfl
    · refine ⟨rfl, fun answer v given => ?_⟩
      cases answer with
      | error e => exact .inl given
      | ok k =>
        obtain rfl : v = .com k := given
        refine ⟨rfl, fun answer v begun => ?_⟩
        cases answer with
        | error e => exact .inr ⟨k, begun⟩
        | ok _ =>
          obtain rfl : v = .com k := begun
          exact meets_transacaoEm _ ⟨rfl, fun _ _ same => same⟩
  | outra rota =>
    refine meets_mono (meets_through_still (fun q => ?_) rota) fun _ _ same => .inl same
    exact ⟨rfl, fun answer v' same => ⟨answer, rfl, same⟩⟩

end Vez

section Reparticao

/-- Every open connection is free or with one handler. -/
structure Repartido (n : Nat) (vs : Nat → Vez) (s : PoolDoServidor R) : Prop where
  tamanho : s.abertas.length = n
  distintas : s.abertas.Nodup
  umaVez : s.livres.Nodup
  abertas : ∀ k ∈ s.livres, k ∈ s.abertas
  alguem : ∀ k ∈ s.abertas, k ∈ s.livres ∨ ∃ task, (vs task).conexao = some k
  ninguem : ∀ k ∈ s.livres, ∀ task, (vs task).conexao ≠ some k
  so_um : ∀ task task' k, (vs task).conexao = some k → (vs task').conexao = some k → task = task'
  velhas : ∀ k ∈ s.abertas, k < s.proxima
  conhecidas : ∀ task k, (vs task).conexao = some k → k < s.proxima

variable {n k : Nat} {vs : Nat → Vez} {s : PoolDoServidor R} {task : Nat}

theorem repartido_aberto (n : Nat) (mysql : MySqlDoPool R) :
    Repartido n (fun _ => .sem) (PoolDoServidor.aberto n mysql) where
  tamanho := List.length_range
  distintas := List.nodup_range
  umaVez := List.nodup_range
  abertas _ member := member
  alguem _ member := .inl member
  ninguem _ _ _ held := by cases held
  so_um _ _ _ held := by cases held
  velhas _ member := List.mem_range.mp member
  conhecidas _ _ held := by cases held

theorem Repartido.mantida (shared : Repartido n vs s) {v : Vez}
    (same : v.conexao = (vs task).conexao) : Repartido n (Function.update vs task v) s := by
  have held (other : Nat) : (Function.update vs task v other).conexao = (vs other).conexao := by
    by_cases mine : other = task
    · subst mine
      rw [Function.update_self, same]
    · rw [Function.update_of_ne mine]
  obtain ⟨tamanho, distintas, umaVez, abertas, alguem, ninguem, so_um, velhas, conhecidas⟩ := shared
  refine ⟨tamanho, distintas, umaVez, abertas, ?_, ?_, ?_, velhas, ?_⟩ <;> simp only [held]
  · exact alguem
  · exact ninguem
  · exact so_um
  · exact conhecidas

theorem Repartido.dada (shared : Repartido n vs s) {livres : List Nat}
    (free : s.livres = k :: livres) (empty : vs task = .sem) :
    Repartido n (Function.update vs task (.com k)) { s with livres := livres } := by
  obtain ⟨tamanho, distintas, umaVez, abertas, alguem, ninguem, so_um, velhas, conhecidas⟩ := shared
  rw [free] at umaVez abertas alguem ninguem
  obtain ⟨fresh, rest⟩ := List.nodup_cons.mp umaVez
  have mine : (Function.update vs task (.com k) task).conexao = some k := by
    rw [Function.update_self]
    rfl
  have others {other k' : Nat} (held : (Function.update vs task (.com k) other).conexao = some k') :
      other = task ∧ k' = k ∨ other ≠ task ∧ (vs other).conexao = some k' := by
    by_cases here : other = task
    · subst here
      exact .inl ⟨rfl, Option.some.inj (held.symm.trans mine)⟩
    · rw [Function.update_of_ne here] at held
      exact .inr ⟨here, held⟩
  refine ⟨tamanho, distintas, rest, fun k' member => abertas k' (List.mem_cons_of_mem _ member),
    fun k' member => ?_, fun k' member other held => ?_, fun first second k' one two => ?_, velhas,
    fun other k' held => ?_⟩
  · rcases alguem k' member with listed | ⟨other, held⟩
    · rcases List.mem_cons.mp listed with rfl | listed
      · exact .inr ⟨task, mine⟩
      · exact .inl listed
    · have away : other ≠ task := fun here => by
        rw [here, empty] at held
        cases held
      exact .inr ⟨other, by rwa [Function.update_of_ne away]⟩
  · rcases others held with ⟨rfl, rfl⟩ | ⟨-, held⟩
    · exact fresh member
    · exact ninguem k' (List.mem_cons_of_mem _ member) other held
  · have taken (other : Nat) : (vs other).conexao ≠ some k := ninguem k List.mem_cons_self other
    rcases others one with ⟨here, rfl⟩ | ⟨-, before⟩
    · rcases others two with ⟨here', -⟩ | ⟨-, before⟩
      · rw [here, here']
      · exact absurd before (taken _)
    · rcases others two with ⟨-, rfl⟩ | ⟨-, before'⟩
      · exact absurd before (taken _)
      · exact so_um first second k' before before'
  · rcases others held with ⟨rfl, rfl⟩ | ⟨-, held⟩
    · exact velhas k' (abertas k' List.mem_cons_self)
    · exact conhecidas other k' held

theorem Repartido.devolvida (shared : Repartido n vs s) (held : vs task = .com k) :
    Repartido n (Function.update vs task .sem)
      (if k ∈ s.abertas then { s with livres := k :: s.livres } else s) := by
  obtain ⟨tamanho, distintas, umaVez, abertas, alguem, ninguem, so_um, velhas, conhecidas⟩ := shared
  have mine : (vs task).conexao = some k := by
    rw [held]
    rfl
  have others {other k' : Nat} (held : (Function.update vs task .sem other).conexao = some k') :
      other ≠ task ∧ (vs other).conexao = some k' := by
    by_cases here : other = task
    · subst here
      rw [Function.update_self] at held
      cases held
    · rw [Function.update_of_ne here] at held
      exact ⟨here, held⟩
  have left {k' : Nat} (other : k' ≠ k) (some_one : ∃ task, (vs task).conexao = some k') :
      ∃ task', (Function.update vs task .sem task').conexao = some k' := by
    obtain ⟨task', held'⟩ := some_one
    have away : task' ≠ task := fun here => other (by
      rw [here, mine] at held'
      exact (Option.some.inj held').symm)
    exact ⟨task', by rwa [Function.update_of_ne away]⟩
  have apart (first second k' : Nat)
      (one : (Function.update vs task .sem first).conexao = some k')
      (two : (Function.update vs task .sem second).conexao = some k') : first = second :=
    so_um first second k' (others one).2 (others two).2
  have known (other k' : Nat) (held : (Function.update vs task .sem other).conexao = some k') :
      k' < s.proxima := conhecidas other k' (others held).2
  split
  next here =>
    refine ⟨tamanho, distintas, List.nodup_cons.mpr ⟨fun listed => ninguem k listed task mine,
      umaVez⟩, fun k' member => ?_, fun k' member => ?_, fun k' member other held => ?_, apart,
      velhas, known⟩
    · rcases List.mem_cons.mp member with rfl | listed
      · exact here
      · exact abertas k' listed
    · by_cases same : k' = k
      · exact .inl (same ▸ List.mem_cons_self)
      · rcases alguem k' member with listed | some_one
        · exact .inl (List.mem_cons_of_mem _ listed)
        · exact .inr (left same some_one)
    · obtain ⟨away, before⟩ := others held
      rcases List.mem_cons.mp member with rfl | listed
      · exact away (so_um other task k' before mine)
      · exact ninguem k' listed other before
  next closed =>
    refine ⟨tamanho, distintas, umaVez, abertas, fun k' member => ?_,
      fun k' listed other held => ninguem k' listed other (others held).2, apart, velhas, known⟩
    have same : k' ≠ k := fun here => closed (here ▸ member)
    rcases alguem k' member with listed | some_one
    · exact .inl listed
    · exact .inr (left same some_one)

/-- A closed connection makes room for a new one, which is free. -/
theorem Repartido.fechada (shared : Repartido n vs s) (k : Nat) : Repartido n vs (s.fechar k) := by
  rw [PoolDoServidor.fechar]
  split
  next here =>
    obtain ⟨tamanho, distintas, umaVez, abertas, alguem, ninguem, so_um, velhas, conhecidas⟩ :=
      shared
    have fresh : s.proxima ∉ s.abertas := fun member => Nat.lt_irrefl _ (velhas _ member)
    have old {k' : Nat} (member : k' ∈ s.abertas.erase k) : k' ≠ k ∧ k' ∈ s.abertas :=
      distintas.mem_erase_iff.mp member
    refine ⟨?_, ?_, ?_, fun k' member => ?_, fun k' member => ?_, fun k' member other held => ?_,
      so_um, fun k' member => ?_, fun other k' held => Nat.lt_succ_of_lt (conhecidas other k' held)⟩
    · have some_left : 0 < s.abertas.length := List.length_pos_of_mem here
      rw [List.length_cons, List.length_erase_of_mem here]
      omega
    · exact List.nodup_cons.mpr ⟨fun member => fresh (old member).2, distintas.erase k⟩
    · exact List.nodup_cons.mpr ⟨fun member => fresh (abertas _ (List.mem_of_mem_erase member)),
        umaVez.erase k⟩
    · rcases List.mem_cons.mp member with rfl | listed
      · exact List.mem_cons_self
      · obtain ⟨other, listed⟩ := umaVez.mem_erase_iff.mp listed
        exact List.mem_cons_of_mem _ (distintas.mem_erase_iff.mpr ⟨other, abertas k' listed⟩)
    · rcases List.mem_cons.mp member with rfl | member
      · exact .inl List.mem_cons_self
      · obtain ⟨other, member⟩ := old member
        refine (alguem k' member).imp (fun listed => ?_) id
        exact List.mem_cons_of_mem _ (umaVez.mem_erase_iff.mpr ⟨other, listed⟩)
    · rcases List.mem_cons.mp member with rfl | listed
      · exact Nat.lt_irrefl _ (conhecidas other _ held)
      · exact ninguem k' (List.mem_of_mem_erase listed) other held
    · rcases List.mem_cons.mp member with rfl | member
      · exact Nat.lt_succ_self _
      · exact Nat.lt_succ_of_lt (velhas k' (old member).2)
  next => exact shared

theorem Repartido.muda (shared : Repartido n vs s) (acaso : AcasoDoPool R) :
    Repartido n vs (PoolDoServidor.muda acaso s) := by
  cases acaso with
  | responde mysql => exact { shared with }
  | fecha k => exact shared.fechada k

theorem Repartido.exec (shared : Repartido n vs s) {o : OpPool E} (allowed : o.cabe (vs task)) :
    Repartido n (Function.update vs task (Vez.apos o (OpPool.exec o s).1 (vs task)))
      (OpPool.exec o s).2 := by
  cases o with
  | getConnection =>
    rw [OpPool.exec]
    split
    next k livres _ free _ => exact shared.dada free allowed
    next => exact shared.mantida rfl
    next => exact shared.mantida rfl
  | beginTransaction k =>
    have held : vs task = .com k := allowed
    refine shared.mantida ?_
    rw [held]
    cases (OpPool.exec (.beginTransaction k) s).1 <;> rfl
  | release k => exact shared.devolvida allowed
  | _ => exact shared.mantida rfl

theorem abertas_exec (o : OpPool E) (s : PoolDoServidor R) :
    (OpPool.exec o s).2.abertas = s.abertas := by
  cases o with
  | getConnection =>
    rw [OpPool.exec]
    split <;> rfl
  | release k =>
    rw [OpPool.exec]
    split <;> rfl
  | _ => rfl

end Reparticao

section Corridas

open System

abbrev vezes (l : List (Entry (OpPool E) (PoolDoServidor R))) : Nat → Vez :=
  view OpPool.exec Vez.apos .sem l

/-- A handler with a connection is at work on it, and one that left it behind has ended. -/
def Vez.combina : Vez → Atendimento R → Prop
  | .com k, p => ∃ o next, p = .call o next ∧ o.cabe (.com k)
  | .perdida _, p => p.Ended
  | .sem, _ => True

variable (n : Nat) (mysql : MySqlDoPool R)

/-- A run of the server from a pool of `n` connections. -/
def servidorApos (passos : List (Action (ReqPool R) (AcasoDoPool R))) :
    Config String (OpPool.Res R) Resposta (PoolDoServidor R) :=
  (servidorComPool R).execute passos ⟨.aberto n mysql, []⟩

def usosDe (passos : List (Action (ReqPool R) (AcasoDoPool R))) :
    List (Entry (OpPool E) (PoolDoServidor R)) :=
  (servidorComPool R).log passos ⟨.aberto n mysql, []⟩

theorem acompanha {J : (Nat → Vez) → PoolDoServidor R → Prop}
    (calls : ∀ vs s task o, J vs s → OpPool.cabe o (vs task) →
      J (Function.update vs task (Vez.apos o (OpPool.exec o s).1 (vs task))) (OpPool.exec o s).2)
    {l : List (Entry (OpPool E) (PoolDoServidor R))}
    {c : Config String (OpPool.Res R) Resposta (PoolDoServidor R)}
    (passos : List (Action (ReqPool R) (AcasoDoPool R)))
    (drifts : ∀ acaso, .drift acaso ∈ passos → ∀ vs s, J vs s → J vs (PoolDoServidor.muda acaso s))
    (tracks : Tracks (servidorComPool R) OpPool.cabe Vez.apos .sem Vez.encerra J l c) :
    Lawful (fun past e => e.op.cabe (vezes past e.task)) l ((servidorComPool R).log passos c) ∧
      Tracks (servidorComPool R) OpPool.cabe Vez.apos .sem Vez.encerra J
        (l ++ (servidorComPool R).log passos c) ((servidorComPool R).execute passos c) :=
  execute_tracks (fun _ => rfl) (fun r _ member => List.mem_singleton.mp member ▸ meets_rota r)
    calls passos drifts tracks

theorem acompanha_repartido (passos : List (Action (ReqPool R) (AcasoDoPool R))) :
    Lawful (fun past e => e.op.cabe (vezes past e.task)) [] (usosDe n mysql passos) ∧
      Tracks (servidorComPool R) OpPool.cabe Vez.apos .sem Vez.encerra (Repartido n)
        (usosDe n mysql passos) (servidorApos n mysql passos) := by
  have run := acompanha (fun _ _ _ _ shared allowed => shared.exec allowed) passos
    (fun acaso _ _ _ shared => shared.muda acaso)
    (tracks_empty (M := servidorComPool R) (repartido_aberto n mysql))
  simpa [usosDe, servidorApos] using run

/-- However the handlers interleave, whatever MySQL answers or rejects and whichever connections
it closes: each of the pool's connections is free or with one handler; a statement of a transaction runs on
the connection of its handler; and a handler with a connection is at work on it and waits for no
other, or it is a manual order whose BEGIN was rejected and which has left it behind. -/
theorem sempre_repartido (passos : List (Action (ReqPool R) (AcasoDoPool R))) :
    Repartido n (vezes (usosDe n mysql passos)) (servidorApos n mysql passos).state ∧
    (∀ past e rest, usosDe n mysql passos = past ++ e :: rest →
      e.op.cabe (vezes past e.task)) ∧
    ∀ task p, (servidorApos n mysql passos).tasks[task]? = some p →
      (vezes (usosDe n mysql passos) task).combina p := by
  obtain ⟨lawful, tracks⟩ := acompanha_repartido n mysql passos
  refine ⟨tracks.holds, fun past e rest split => ?_, fun task p found => ?_⟩
  · have fits := lawful_iff.mp lawful past e rest split
    rwa [List.nil_append] at fits
  · have waits {o next} (found : (servidorApos n mysql passos).tasks[task]? = some (.call o next)) :
        o.cabe (vezes (usosDe n mysql passos) task) := tracks.waits found
    have at_end (r : Except String Resposta) (ended : p = answered r) :
        Vez.encerra r (vezes (usosDe n mysql passos) task) := by
      subst ended
      cases r with
      | ok a => exact tracks.returned found
      | error e => exact tracks.failed found
    cases holds : vezes (usosDe n mysql passos) task with
    | sem => trivial
    | com k =>
      rw [holds] at waits at_end
      have busy (r : Except String Resposta) : p ≠ answered r := fun ended => by
        rcases at_end r ended with empty | ⟨_, lost⟩
        · cases empty
        · cases lost
      cases p with
      | call o next => exact ⟨o, next, rfl, waits found⟩
      | done a => exact absurd rfl (busy (.ok a))
      | fail e => exact absurd rfl (busy (.error e))
    | perdida k =>
      rw [holds] at waits
      cases p with
      | call o next =>
        have allowed := waits found
        cases o <;> cases allowed
      | done a => trivial
      | fail e => trivial

/-- Once each of the pool's connections was left behind, and until MySQL closes one, no statement of any
route gets a connection. -/
theorem fora_do_ar (antes depois : List (Action (ReqPool R) (AcasoDoPool R)))
    (perdidas : ∀ k ∈ (servidorApos n mysql antes).state.abertas,
      ∃ task, vezes (usosDe n mysql antes) task = .perdida k)
    (firmes : ∀ k, .drift (.fecha k) ∉ depois) :
    (servidorApos n mysql (antes ++ depois)).state.livres = [] := by
  obtain ⟨-, told, holds⟩ := acompanha_repartido n mysql antes
  let J : (Nat → Vez) → PoolDoServidor R → Prop := fun vs s =>
    Repartido n vs s ∧ ∀ k ∈ s.abertas, ∃ task, vs task = .perdida k
  have run := acompanha (J := J) (fun vs s task o before allowed => ?_) depois
    (fun acaso here vs s before => ?_) ⟨told, holds, perdidas⟩
  · obtain ⟨-, -, shared, lost⟩ := run
    rw [servidorApos, execute_append]
    refine List.eq_nil_iff_forall_not_mem.mpr fun k free => ?_
    obtain ⟨task, left⟩ := lost k (shared.abertas k free)
    exact shared.ninguem k free task (congrArg Vez.conexao left)
  · refine ⟨before.1.exec allowed, fun k member => ?_⟩
    rw [abertas_exec] at member
    obtain ⟨other, left⟩ := before.2 k member
    have away : other ≠ task := fun here => by
      rw [← here, left] at allowed
      cases o <;> cases allowed
    exact ⟨other, by rwa [Function.update_of_ne away]⟩
  · cases acaso with
    | responde mysql' => exact ⟨before.1.muda _, before.2⟩
    | fecha k => exact absurd here (firmes k)

abbrev NenhumaOutra : Empty → Type := fun _ => Unit

def recusaTudo : MySqlDoPool NenhumaOutra where
  conexao := .ok ()
  sql _ := .error Tx.rejeicao
  rollback := .ok ()
  outra q := q.elim

def pedidoDeUm : CorpoPedido where
  clienteNumero := "5511999990000"
  formaPagamento := "pix"
  itens := .lista [⟨some 1, some 2⟩]

def doisPedidos : List (Action (ReqPool NenhumaOutra) (AcasoDoPool NenhumaOutra)) :=
  [.arrive (.pedidoManual pedidoDeUm), .arrive (.pedidoManual pedidoDeUm),
    .step 0, .step 1, .step 0, .step 1]

theorem fora_do_ar_doisPedidos :
    (servidorApos 2 recusaTudo
      (doisPedidos ++ [.drift (.responde recusaTudo)])).state.livres = [] := by
  refine fora_do_ar 2 recusaTudo doisPedidos _ (fun k open_ => ?_) fun k closed => ?_
  · have both : k = 0 ∨ k = 1 := by
      revert open_
      revert k
      decide +kernel
    rcases both with rfl | rfl
    · exact ⟨0, by decide +kernel⟩
    · exact ⟨1, by decide +kernel⟩
  · cases List.mem_singleton.mp closed

end Corridas
end IceClube
