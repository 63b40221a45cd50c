import IceClube.ConexoesDoServidor

/-! The three transactions of the web server run statement by statement on a connection, with
nothing in between: they come to the one step that a transaction is in the model of the routes. -/
namespace IceClube

open Coop Prog

/-- A connection to the database, with what its transaction started from, if it is in one. -/
structure Conexao where
  banco : Faulty Db
  antes : Option Db := none

namespace Conexao

/-- A rejected BEGIN or COMMIT leaves the transaction as it is; a connection is there once it was
given out. -/
def statement : Exec String Sql.Res Conexao
  | .getConnection, x => (.ok (), x)
  | .beginTransaction, x =>
    let r := Faulty.exec Sql.sem Tx.rejeicao .beginTransaction x.banco
    (r.1, ⟨r.2, if r.1.isOk then some x.banco.state else x.antes⟩)
  | .commit, x =>
    let r := Faulty.exec Sql.sem Tx.rejeicao .commit x.banco
    (r.1, ⟨r.2, if r.1.isOk then none else x.antes⟩)
  | q, x =>
    let r := Faulty.exec Sql.sem Tx.rejeicao q x.banco
    (r.1, ⟨r.2, x.antes⟩)

def desfeita (x : Conexao) : Conexao :=
  ⟨⟨(x.antes.getD x.banco.state).desfeito x.banco.state, x.banco.faults⟩, none⟩

end Conexao

def OpPool.sozinho : Exec String (OpPool.Res NenhumaOutra) Conexao
  | .getConnection, x =>
    match Faulty.exec Sql.sem Tx.rejeicao .getConnection x.banco with
    | (.ok _, w) => (.ok 0, ⟨w, x.antes⟩)
    | (.error e, w) => (.error e, ⟨w, x.antes⟩)
  | .beginTransaction _, x => Conexao.statement .beginTransaction x
  | .sql _ q, x => Conexao.statement q x
  | .rollback _, x => (.ok (), x.desfeita)
  | .release _, x => (.ok (), x)
  | .dbQuery q, _ => q.elim

section Fases

inductive FaseTx where
  | fora | dentro | gravada
  deriving DecidableEq, Repr

def FaseTx.apos : (q : Sql) → Except String q.Res → FaseTx → FaseTx
  | .beginTransaction, .ok _, _ => .dentro
  | .commit, .ok _, _ => .gravada
  | _, _, f => f

/-- Statements come after the BEGIN, and none comes after the COMMIT. -/
def Sql.naFase : Sql → FaseTx → Prop
  | .getConnection, _ => False
  | .beginTransaction, f => f = .fora
  | _, f => f = .dentro

def contratoDeFases : Contract String Sql.Res FaseTx where
  pre := Sql.naFase
  post q f answer f' := f' = FaseTx.apos q answer f

def FaseTx.encerra (r : Except String Fim) (f : FaseTx) : Prop :=
  f = .gravada ↔ ∃ resposta, r = .ok (.commit resposta)

/-- What the connection shows of the phase of a transaction that found the database as `d`. -/
def Conexao.mostra (d : Db) (x : Conexao) : FaseTx → Prop
  | .fora => x.antes = none ∧ x.banco.state = d
  | .dentro => x.antes = some d
  | .gravada => x.antes = none

def Sql.SoDentro : Sql → Prop
  | .getConnection | .beginTransaction | .commit => False
  | _ => True

theorem meets_dentro {α : Type} {p : Consulta α} (calls : p.Calls Sql.SoDentro) :
    Meets contratoDeFases p (fun _ f => f = .dentro) .dentro := by
  refine calls_frame (J := fun f => f = FaseTx.dentro) calls (fun q f between here => ?_) rfl
  subst here
  cases q with
  | getConnection | beginTransaction | commit => exact between.elim
  | _ => exact ⟨rfl, fun answer f' after => after.trans (by cases answer <;> rfl)⟩

theorem encerra_erro {f : FaseTx} (unsaved : f ≠ .gravada) (e : String) :
    FaseTx.encerra (.error e) f := by
  refine iff_of_false unsaved ?_
  rintro ⟨_, ended⟩
  cases ended

theorem meets_segue {α : Type} {p : Consulta α} {f : α → Consulta Fim}
    (calls : p.Calls Sql.SoDentro)
    (rest : ∀ a, Meets contratoDeFases (f a) FaseTx.encerra .dentro) :
    Meets contratoDeFases (p >>= f) FaseTx.encerra .dentro := by
  rw [meets_bind]
  refine meets_mono (meets_dentro calls) fun r fase here => ?_
  subst here
  cases r with
  | ok a => exact rest a
  | error e => exact encerra_erro (by decide) e

theorem meets_gravar (resposta : Resposta) : Meets contratoDeFases
    (query .commit >>= fun _ => pure (.commit resposta)) FaseTx.encerra .dentro := by
  rw [meets_bind, meets_ask]
  refine ⟨rfl, fun answer f after => ?_⟩
  cases answer with
  | ok _ => exact ⟨fun _ => ⟨resposta, rfl⟩, fun _ => after⟩
  | error e =>
    obtain rfl : f = .dentro := after
    exact encerra_erro (by decide) e

theorem meets_desistir (resposta : Resposta) :
    Meets contratoDeFases (pure (.rollback resposta)) FaseTx.encerra .dentro := by
  refine iff_of_false (by decide) ?_
  rintro ⟨_, ended⟩
  cases ended

theorem meets_comecar {p : Consulta Fim} (rest : Meets contratoDeFases p FaseTx.encerra .dentro) :
    Meets contratoDeFases (query .beginTransaction >>= fun _ => p) FaseTx.encerra .fora := by
  rw [meets_bind, meets_ask]
  refine ⟨rfl, fun answer f after => ?_⟩
  cases answer with
  | ok _ =>
    obtain rfl : f = .dentro := after
    exact rest
  | error e =>
    obtain rfl : f = .fora := after
    exact encerra_erro (by decide) e

theorem dentro_ask {q : Sql} (between : q.SoDentro) : (query q).Calls Sql.SoDentro :=
  (calls_ask _).mpr between

/-- What follows the connection in `corpoValido`. -/
def transacaoValido (corpo : CorpoValido) : Consulta Fim := do
  query .beginTransaction
  if corpo.valido = some 0 then do
    query (.updateValido corpo.valido .finalizado corpo.id)
    query .commit
    pure (.commit ⟨200, "OK", none⟩)
  else do
    let pedido ← query (.selectPedido corpo.id)
    if pedido.isNone then pure (.rollback ⟨404, "Pedido não encontrado", none⟩)
    else do
      let itens ← query (.selectItensEstoque corpo.id)
      match insuficiente itens with
      | some item =>
        let texto := s!"Estoque insuficiente para o produto {item.nome} (ID: {item.produtoId})"
        pure (.rollback ⟨400, texto, none⟩)
      | none => do
        query (.updateValido corpo.valido .novo corpo.id)
        query .commit
        pure (.commit ⟨200, "OK", none⟩)

theorem corpoValido_eq (corpo : CorpoValido) :
    corpoValido corpo = query .getConnection >>= fun _ => transacaoValido corpo := rfl

theorem fases_valido (corpo : CorpoValido) :
    Meets contratoDeFases (transacaoValido corpo) FaseTx.encerra .fora := by
  refine meets_comecar ?_
  split
  · exact meets_segue (dentro_ask trivial) fun _ => meets_gravar _
  · refine meets_segue (dentro_ask trivial) fun pedido => ?_
    split
    · exact meets_desistir _
    · refine meets_segue (dentro_ask trivial) fun itens => ?_
      split
      · exact meets_desistir _
      · exact meets_segue (dentro_ask trivial) fun _ => meets_gravar _

theorem dentro_devolver (dataLancamento : String) (pedidoId : Nat) :
    (devolver dataLancamento pedidoId).Calls Sql.SoDentro := by
  have retornar (item : PedidoItem) :
      (retornar dataLancamento pedidoId item).Calls Sql.SoDentro := by
    refine calls_bind (dentro_ask trivial) fun estoque => ?_
    split
    · trivial
    · refine calls_bind (dentro_ask trivial) fun _ => ?_
      exact calls_bind (dentro_ask trivial) fun _ => trivial
  refine calls_bind (dentro_ask trivial) fun pedido => ?_
  split
  · trivial
  · refine calls_bind (dentro_ask trivial) fun _ => calls_bind (dentro_ask trivial) fun itens => ?_
    split
    · trivial
    · exact calls_each retornar itens

theorem fases_lancamento (corpo : CorpoLancamento) :
    Meets contratoDeFases (corpoLancamento corpo) FaseTx.encerra .fora := by
  refine meets_comecar (meets_segue (dentro_ask trivial) fun id => ?_)
  cases naoZero corpo.pedidoId with
  | none => exact meets_gravar _
  | some pedidoId => exact meets_segue (dentro_devolver _ _) fun _ => meets_gravar _

theorem dentro_verificarEstoque (linhas : List Linha) :
    (verificarEstoque linhas).Calls Sql.SoDentro := by
  induction linhas with
  | nil => trivial
  | cons linha linhas ih =>
    refine calls_bind (dentro_ask trivial) fun estoque => ?_
    split
    · exact ih
    · trivial

theorem dentro_calcularTotal (total : Option ℚ) (linhas : List Linha) :
    (calcularTotal total linhas).Calls Sql.SoDentro := by
  induction linhas generalizing total with
  | nil => trivial
  | cons linha linhas ih =>
    refine calls_bind (dentro_ask trivial) fun produto => ?_
    split
    · trivial
    · exact ih _

theorem fases_pedido (corpo : CorpoPedido) :
    Meets contratoDeFases (corpoPedido corpo) FaseTx.encerra .dentro := by
  have inserir (pedidoId : Nat) (linha : Linha) :
      (inserirItem pedidoId linha).Calls Sql.SoDentro := by
    rw [inserirItem]
    split
    · exact dentro_ask trivial
    · trivial
  refine meets_segue (dentro_verificarEstoque _) fun recusa => ?_
  cases recusa with
  | some resposta => exact meets_desistir resposta
  | none =>
    refine meets_segue (dentro_calcularTotal _ _) fun valorTotal => ?_
    split
    · cases valorTotal with
      | none => exact encerra_erro (by decide) _
      | some valorTotal =>
        refine meets_segue (dentro_ask trivial) fun vendaId => ?_
        refine meets_segue (dentro_ask trivial) fun pedidoId => ?_
        exact meets_segue (calls_each (inserir pedidoId) _) fun _ => meets_gravar _
    · exact meets_desistir _

end Fases

section Desfecho

variable {d : Db}

/-- A statement on the connection moves the phase of its transaction. -/
theorem mostra_statement (q : Sql) (x : Conexao) (f : FaseTx) (seen : x.mostra d f)
    (pre : q.naFase f) : ∃ f', f' = FaseTx.apos q (Conexao.statement q x).1 f ∧
      (Conexao.statement q x).2.mostra d f' := by
  refine ⟨_, rfl, ?_⟩
  cases q with
  | getConnection => exact pre.elim
  | beginTransaction =>
    obtain rfl : f = .fora := pre
    obtain ⟨none, same⟩ := seen
    cases fault : x.banco.faults.headD false with
    | true =>
      simp only [Conexao.statement, Faulty.exec_rejected _ fault]
      exact ⟨none, same⟩
    | false =>
      simp only [Conexao.statement, Faulty.exec_answered _ fault]
      exact congrArg some same
  | commit =>
    obtain rfl : f = .dentro := pre
    cases fault : x.banco.faults.headD false with
    | true =>
      simp only [Conexao.statement, Faulty.exec_rejected _ fault]
      exact seen
    | false =>
      simp only [Conexao.statement, Faulty.exec_answered _ fault]
      rfl
  | _ =>
    obtain rfl : f = .dentro := pre
    exact seen

theorem Conexao.mostra_desfeita {x : Conexao} {f : FaseTx} (seen : x.mostra d f)
    (unsaved : f ≠ .gravada) :
    x.desfeita = ⟨⟨d.desfeito x.banco.state, x.banco.faults⟩, none⟩ := by
  cases f with
  | fora =>
    obtain ⟨none, same⟩ := seen
    rw [desfeita, none, Option.getD_none, same]
  | dentro =>
    have began : x.antes = some d := seen
    rw [desfeita, began, Option.getD_some]
  | gravada => exact absurd rfl unsaved

/-- Apart from the connection, statements are answered as by the database. -/
theorem statement_banco (q : Sql) (x : Conexao) (given : q ≠ .getConnection) :
    (Conexao.statement q x).1 = (Faulty.exec Sql.sem Tx.rejeicao q x.banco).1 ∧
      (Conexao.statement q x).2.banco = (Faulty.exec Sql.sem Tx.rejeicao q x.banco).2 := by
  cases q with
  | getConnection => exact absurd rfl given
  | _ => exact ⟨rfl, rfl⟩

theorem run_enviar {α : Type} (k : Nat) (p : Consulta α) (x : Conexao) :
    (through (enviar k) p).run OpPool.sozinho x = p.run Conexao.statement x := by
  refine run_through (fun q x => ?_) p x
  cases q <;> rfl

/-- How the transaction of `t` ends that was begun with the database as `d`. -/
def Tx.desfecho (t : Tx) (d : Db) : Except String Fim × Faulty Db → Resposta × Faulty Db
  | (.ok (.commit resposta), w) => (resposta, w)
  | (.ok (.rollback resposta), w) => (resposta, ⟨d.desfeito w.state, w.faults⟩)
  | (.error mensagem, w) => (t.erro mensagem, ⟨d.desfeito w.state, w.faults⟩)

theorem executar_eq (t : Tx) (w : Faulty Db) :
    t.executar w = t.desfecho w.state (t.corpo.run (Faulty.exec Sql.sem Tx.rejeicao) w) := by
  rw [Tx.executar]
  split <;> simp only [Tx.desfecho, *]

def Tx.aposConexao : Tx → Consulta Fim
  | .valido corpo => transacaoValido corpo
  | .lancamento corpo => corpoLancamento corpo
  | .pedidoManual corpo => corpoPedido corpo

/-- The BEGIN of `pedido_manual` comes before its `try`. -/
def Tx.fase : Tx → FaseTx
  | .pedidoManual _ => .dentro
  | _ => .fora

theorem fases_tx (t : Tx) : Meets contratoDeFases t.aposConexao FaseTx.encerra t.fase := by
  cases t with
  | valido corpo => exact fases_valido corpo
  | lancamento corpo => exact fases_lancamento corpo
  | pedidoManual corpo => exact fases_pedido corpo

theorem run_corpo (t : Tx) (x : Conexao) :
    t.corpo.run Conexao.statement x = t.aposConexao.run Conexao.statement x := by
  cases t <;> rfl

theorem tx_calls (t : Tx) : t.aposConexao.Calls (· ≠ .getConnection) := by
  refine meets_calls (fun q f pre => ?_) (fun q f answer => ⟨_, rfl⟩) (fases_tx t)
  rintro rfl
  exact pre

theorem run_comRelease (k : Nat) (p : Atendimento NenhumaOutra) (x : Conexao) :
    (comRelease k p).run OpPool.sozinho x = p.run OpPool.sozinho x := by
  rw [comRelease, run_bind, run_outcome]
  cases ended : p.run OpPool.sozinho x with
  | mk r y => cases r <;> rfl

variable {rollback : Prog String (OpPool.Res NenhumaOutra) Unit}

/-- The whole transaction, with what its route does where it is not committed. -/
theorem run_transacaoEm (undoes : ∀ x, rollback.run OpPool.sozinho x = (.ok (), x.desfeita))
    (k : Nat) (t : Tx) {x : Conexao} (seen : x.mostra d t.fase) {r : Resposta × Faulty Db}
    (desfecho : t.desfecho d (t.aposConexao.run (Faulty.exec Sql.sem Tx.rejeicao) x.banco) = r) :
    (transacaoEm k t rollback).run OpPool.sozinho x = (.ok r.1, ⟨r.2, none⟩) := by
  obtain ⟨f, ends, shown⟩ := meets_run (Conexao.mostra d) mostra_statement (fases_tx t) seen
  obtain ⟨answer, state⟩ := run_view Conexao.banco statement_banco (tx_calls t) x
  rw [transacaoEm, run_comRelease, run_handle, run_bind, run_enviar, run_corpo]
  subst desfecho
  generalize t.aposConexao.run Conexao.statement x = ran at *
  generalize t.aposConexao.run (Faulty.exec Sql.sem Tx.rejeicao) x.banco = plain at *
  obtain ⟨fim, y⟩ := ran
  obtain ⟨_, w⟩ := plain
  obtain rfl : fim = _ := answer
  obtain rfl : y.banco = w := state
  have desfeita (unsaved : f ≠ .gravada) :
      y.desfeita = ⟨⟨d.desfeito y.banco.state, y.banco.faults⟩, none⟩ :=
    Conexao.mostra_desfeita shown unsaved
  cases fim with
  | error mensagem =>
    have unsaved : f ≠ .gravada := fun saved => by
      obtain ⟨_, ended⟩ := ends.mp saved
      cases ended
    show (rollback >>= fun _ => pure (t.erro mensagem)).run OpPool.sozinho y = _
    rw [run_bind, undoes, desfeita unsaved]
    rfl
  | ok fim =>
    cases fim with
    | commit resposta =>
      obtain rfl : f = .gravada := ends.mpr ⟨resposta, rfl⟩
      have closed : y.antes = none := shown
      show (Except.ok resposta, y) = (Except.ok resposta, (⟨y.banco, none⟩ : Conexao))
      rw [← closed]
    | rollback resposta =>
      have unsaved : f ≠ .gravada := fun saved => by
        obtain ⟨_, ended⟩ := ends.mp saved
        cases ended
      simp only [concluir, run_bind, undoes, desfeita unsaved]
      rfl

end Desfecho

section Rotas

/-- What a route that took its transaction in one step answers and leaves. -/
def emUmPasso (r : Except String Resposta × Faulty Db) : Except String Resposta × Conexao :=
  (r.1, ⟨r.2, none⟩)

variable (w : Faulty Db)

theorem run_rollback (k : Nat) (x : Conexao) :
    (ask (OpPool.rollback k)).run OpPool.sozinho x = (.ok (), x.desfeita) := rfl

section Recusada

variable {w} (fault : w.faults.headD false = true)
include fault

theorem sozinho_recusada (antes : Option Db) : OpPool.sozinho .getConnection ⟨w, antes⟩ =
    (.error Tx.rejeicao, ⟨⟨w.state, w.faults.tail⟩, antes⟩) := by
  simp only [OpPool.sozinho, Faulty.exec_rejected _ fault]

theorem dbQuery_recusada {α : Type} (q : Sql) (f : q.Res → Rota α) :
    (dbQuery q >>= f).run Op.exec w = (.error Tx.rejeicao, ⟨w.state, w.faults.tail⟩) := by
  show (answered (Op.exec (.sql q) w).1 >>= f).run Op.exec (Op.exec (.sql q) w).2 = _
  rw [Op.exec, Faulty.exec_rejected q fault]
  rfl

end Recusada

section Dada

variable {w} (fault : w.faults.headD false = false)
include fault

theorem sozinho_dada (antes : Option Db) : OpPool.sozinho .getConnection ⟨w, antes⟩ =
    (.ok 0, ⟨⟨w.state, w.faults.tail⟩, antes⟩) := by
  simp only [OpPool.sozinho, Faulty.exec_answered _ fault]
  rfl

theorem dbQuery_dada {α : Type} (q : Sql) (f : q.Res → Rota α) : (dbQuery q >>= f).run Op.exec w =
    (f (q.sem w.state).1).run Op.exec ⟨(q.sem w.state).2, w.faults.tail⟩ := by
  show (answered (Op.exec (.sql q) w).1 >>= f).run Op.exec (Op.exec (.sql q) w).2 = _
  rw [Op.exec, Faulty.exec_answered q fault]
  rfl

end Dada

/-- The transaction of a route on the connection that it took. -/
theorem transacao_sozinha (undoes : ∀ x, rollback.run OpPool.sozinho x = (.ok (), x.desfeita))
    (k : Nat) (t : Tx) {x : Conexao} (seen : x.mostra w.state t.fase)
    (executar : t.executar w =
      t.desfecho w.state (t.aposConexao.run (Faulty.exec Sql.sem Tx.rejeicao) x.banco)) :
    (transacaoEm k t rollback).run OpPool.sozinho x = emUmPasso ((transacao t).run Op.exec w) :=
  run_transacaoEm undoes k t seen executar.symm

theorem valido_sozinho (corpo : CorpoValido) :
    (validoNoPool corpo).run OpPool.sozinho ⟨w, none⟩ =
      emUmPasso ((valido corpo).run Op.exec w) := by
  rw [validoNoPool, valido]
  split
  · rfl
  · rw [run_bind, attempt, run]
    cases fault : w.faults.headD false with
    | true =>
      have executar : (Tx.valido corpo).executar w =
          ((Tx.valido corpo).erro Tx.rejeicao, ⟨w.state, w.faults.tail⟩) := by
        rw [executar_eq, Tx.corpo, corpoValido_eq, run_ask_rejected fault, Tx.desfecho,
          Db.desfeito_self]
      rw [sozinho_recusada fault]
      show _ = emUmPasso (.ok ((Tx.valido corpo).executar w).1, ((Tx.valido corpo).executar w).2)
      rw [executar]
      rfl
    | false =>
      rw [sozinho_dada fault]
      refine transacao_sozinha w (run_rollback 0) 0 (.valido corpo) ⟨rfl, rfl⟩ ?_
      rw [executar_eq, Tx.corpo, corpoValido_eq, run_ask_answered fault]
      rfl

theorem lancamentos_sozinho (corpo : CorpoLancamento) :
    (lancamentosNoPool corpo).run OpPool.sozinho ⟨w, none⟩ =
      emUmPasso ((lancamentos corpo).run Op.exec w) := by
  rw [lancamentosNoPool, lancamentos]
  split
  · rfl
  · rw [ask, bind_call, run]
    cases fault : w.faults.headD false with
    | true =>
      rw [sozinho_recusada fault, dbQuery_recusada fault]
      rfl
    | false =>
      rw [sozinho_dada fault, dbQuery_dada fault]
      exact transacao_sozinha _ (run_rollback 0) 0 (.lancamento corpo) ⟨rfl, rfl⟩ (executar_eq ..)

theorem pedidoManual_sozinho (corpo : CorpoPedido) :
    (pedidoManualNoPool corpo).run OpPool.sozinho ⟨w, none⟩ =
      emUmPasso ((pedidoManual corpo).run Op.exec w) := by
  rw [pedidoManualNoPool, pedidoManual]
  cases corpo.recusa with
  | some resposta => rfl
  | none =>
    show run OpPool.sozinho (ask OpPool.getConnection >>= _) _ = _
    rw [ask, bind_call, run]
    cases fault : w.faults.headD false with
    | true =>
      rw [sozinho_recusada fault]
      show _ = emUmPasso ((dbQuery .getConnection >>= _).run Op.exec w)
      rw [dbQuery_recusada fault]
      rfl
    | false =>
      rw [sozinho_dada fault]
      show _ = emUmPasso ((dbQuery .getConnection >>= _).run Op.exec w)
      rw [dbQuery_dada fault]
      show run OpPool.sozinho (ask (OpPool.beginTransaction 0) >>= _) _ =
        emUmPasso ((dbQuery .beginTransaction >>= _).run Op.exec ⟨w.state, w.faults.tail⟩)
      rw [ask, bind_call, run]
      cases begun : w.faults.tail.headD false with
      | true =>
        rw [dbQuery_recusada begun, OpPool.sozinho, Conexao.statement, Faulty.exec_rejected _ begun]
        rfl
      | false =>
        rw [dbQuery_dada begun, OpPool.sozinho, Conexao.statement, Faulty.exec_answered _ begun]
        refine transacao_sozinha _ (fun _ => ?_) 0 (.pedidoManual corpo) ?_ (executar_eq ..)
        all_goals rfl

def Tx.noPool : Tx → Atendimento NenhumaOutra
  | .valido corpo => validoNoPool corpo
  | .lancamento corpo => lancamentosNoPool corpo
  | .pedidoManual corpo => pedidoManualNoPool corpo

def Tx.rota : Tx → Rota Resposta
  | .valido corpo => IceClube.valido corpo
  | .lancamento corpo => lancamentos corpo
  | .pedidoManual corpo => IceClube.pedidoManual corpo

theorem rota_sozinha (t : Tx) :
    t.noPool.run OpPool.sozinho ⟨w, none⟩ = emUmPasso (t.rota.run Op.exec w) := by
  cases t with
  | valido corpo => exact valido_sozinho w corpo
  | lancamento corpo => exact lancamentos_sozinho w corpo
  | pedidoManual corpo => exact pedidoManual_sozinho w corpo

end Rotas

def umaPorUma {Op S : Type} {Res : Op → Type} (exec : Exec String Res S) :
    List (Prog String Res Resposta) → S → List (Except String Resposta) × S
  | [], s => ([], s)
  | p :: ps, s =>
    let um := p.run exec s
    let resto := umaPorUma exec ps um.2
    (um.1 :: resto.1, resto.2)

/-- Statement by statement, whatever is rejected, the routes answer and store what they do when
each transaction is one step, and none is left open. -/
theorem transacao_inteira (ts : List Tx) (w : Faulty Db) :
    umaPorUma OpPool.sozinho (ts.map Tx.noPool) ⟨w, none⟩ =
      ((umaPorUma Op.exec (ts.map Tx.rota) w).1,
        ⟨(umaPorUma Op.exec (ts.map Tx.rota) w).2, none⟩) := by
  induction ts generalizing w with
  | nil => rfl
  | cons t ts ih =>
    simp only [List.map_cons, umaPorUma, rota_sozinha, emUmPasso, ih]

end IceClube
