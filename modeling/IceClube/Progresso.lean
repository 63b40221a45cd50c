import Mathlib.Data.Fintype.Basic
import IceClube.Passos

/-! The stored status of an order along every run of the server: when it only moves
forward, and when it does not. -/
namespace IceClube

open Coop

instance : Fintype Status where
  elems := {.novo, .embalado, .entrega, .rua, .finalizado, .falha, .incorreto, .devolvido}
  complete s := by cases s <;> decide

namespace Status

/-- The pipeline an order moves along. -/
def percurso : List Status := [.novo, .embalado, .entrega, .rua, .finalizado]

def ativos : List Status := [.novo, .embalado, .entrega, .rua]

def encerrados : List Status := [.finalizado, .falha, .incorreto, .devolvido]

def Recua (antes depois : Status) : Prop :=
  antes ∈ percurso ∧ depois ∈ percurso ∧ percurso.idxOf depois < percurso.idxOf antes

def Reabre (antes depois : Status) : Prop := antes ∈ encerrados ∧ depois ∈ ativos

/-- Neither a step back along the pipeline nor a closed order opened again. -/
def Avanca (antes depois : Status) : Prop := ¬ Recua antes depois ∧ ¬ Reabre antes depois

/-- At most one transition of the table `transicoes`. -/
def UmPasso (antes depois : Status) : Prop := depois = antes ∨ transicoes antes = some depois

instance (antes depois : Status) : Decidable (Recua antes depois) :=
  inferInstanceAs (Decidable (_ ∧ _))

instance (antes depois : Status) : Decidable (Reabre antes depois) :=
  inferInstanceAs (Decidable (_ ∧ _))

instance (antes depois : Status) : Decidable (Avanca antes depois) :=
  inferInstanceAs (Decidable (_ ∧ _))

instance (antes depois : Status) : Decidable (UmPasso antes depois) :=
  inferInstanceAs (Decidable (_ ∨ _))

theorem avanca_refl : ∀ s : Status, Avanca s s := by decide

theorem avanca_trans : ∀ a b c : Status, Avanca a b → Avanca b c → Avanca a c := by decide

theorem avanca_umPasso : ∀ a b : Status, UmPasso a b → Avanca a b := by decide

theorem avanca_rua : ∀ s : Status, Avanca s .rua ↔ s ∈ ativos := by decide

theorem avanca_novo : ∀ s : Status, Avanca s .novo ↔ s = .novo := by decide

theorem avanca_finalizado : ∀ s : Status, Avanca s .finalizado := by decide

theorem avanca_devolvido : ∀ s : Status, Avanca s .devolvido := by decide

end Status

/-- No order is lost and every order's status moves forward or stays. -/
def Db.Avanca (db db' : Db) : Prop :=
  ∀ id p, db.pedidosDiarios.get id = some p →
    ∃ p', db'.pedidosDiarios.get id = some p' ∧ p.status.Avanca p'.status

namespace Db

theorem avanca_refl (db : Db) : db.Avanca db :=
  fun _ p found => ⟨p, found, Status.avanca_refl _⟩

theorem avanca_trans (a b c : Db) (first : a.Avanca b) (second : b.Avanca c) : a.Avanca c := by
  intro id p found
  obtain ⟨p', found', step⟩ := first id p found
  obtain ⟨p'', found'', step'⟩ := second id p' found'
  exact ⟨p'', found'', Status.avanca_trans _ _ _ step step'⟩

theorem avanca_of_eq {db db' : Db} (same : db'.pedidosDiarios = db.pedidosDiarios) :
    db.Avanca db' := by
  intro id p found
  exact ⟨p, by rw [same, found], Status.avanca_refl _⟩

theorem avanca_of_insert {db db' : Db} {row : Pedido}
    (inserted : db'.pedidosDiarios = db.pedidosDiarios.insert row) : db.Avanca db' := by
  intro id p found
  exact ⟨p, by rw [inserted, Table.get_insert_of_get row found], Status.avanca_refl _⟩

theorem avanca_modify {db db' : Db} (id : Nat) {f : Pedido → Pedido} (status : Status)
    (written : db'.pedidosDiarios = db.pedidosDiarios.modify id f)
    (value : ∀ p, (f p).status = status) :
    db.Avanca db' ↔ ∀ p, db.pedidosDiarios.get id = some p → p.status.Avanca status := by
  constructor
  · intro forward p found
    obtain ⟨p', found', step⟩ := forward id p found
    rw [written, Table.get_modify, if_pos rfl, found, Option.map_some, Option.some.injEq] at found'
    rwa [← found', value] at step
  · intro fine other p found
    rw [written, Table.get_modify]
    by_cases same : other = id
    · subst same
      exact ⟨f p, by rw [if_pos rfl, found, Option.map_some], by rw [value]; exact fine p found⟩
    · exact ⟨p, by rw [if_neg same, found], Status.avanca_refl _⟩

end Db

/-- What a step must find for the statuses to move forward, and one transition at a time
under `/alterar_status`. The last two statements belong to transactions and are never
issued alone. -/
def Op.Pontual (db : Db) : Op → Prop
  | .sql (.updateStatus status id) =>
    ∀ p, db.pedidosDiarios.get id = some p → p.status.UmPasso status
  | .sql (.updateRua id) => ∀ p, db.pedidosDiarios.get id = some p → p.status ∈ Status.ativos
  | .tx (.valido corpo) =>
    corpo.valido = some 0 ∨
      ∀ p, db.pedidosDiarios.get corpo.id = some p → p.status = .novo
  | .sql (.updateValido _ status id) =>
    ∀ p, db.pedidosDiarios.get id = some p → p.status.Avanca status
  | _ => True

/-- An UPDATE of `/alterar_status` moves its order by at most one transition. -/
def Servidor.AlteraUmPasso (c : Servidor) (a : Passo) : Prop :=
  ∀ status id, c.Efetua a (.sql (.updateStatus status id)) →
    ∀ p, c.db.pedidosDiarios.get id = some p → p.status.UmPasso status

section Passo

/-- What a call must find for the statuses to move forward. -/
def Op.Adiante (db : Db) : Op → Prop
  | .sql (.updateStatus status id) =>
    ∀ p, db.pedidosDiarios.get id = some p → p.status.Avanca status
  | o => o.Pontual db

theorem adiante_iff {db : Db} {o : Op}
    (other : ¬ ∃ status id, o = .sql (.updateStatus status id)) :
    o.Adiante db ↔ o.Pontual db := by
  rw [Op.Adiante]
  exact fun status id eq => other ⟨status, id, eq⟩

theorem avanca_sql (db : Db) (q : Sql) : db.Avanca (q.sem db).2 ↔ (Op.sql q).Adiante db := by
  cases q with
  | updateStatus status id => exact Db.avanca_modify id status rfl fun _ => rfl
  | updateRua id =>
    rw [Db.avanca_modify id .rua rfl fun _ => rfl]
    simp only [Op.Adiante, Op.Pontual, Status.avanca_rua]
  | updateValido valido status id =>
    exact Db.avanca_modify id status rfl fun _ => rfl
  | insertEntregaSelect entregadorId pedidoId =>
    refine iff_of_true (Db.avanca_of_eq ?_) trivial
    simp only [Sql.sem]
    split <;> rfl
  | insertPedido clienteNumero vendaId => exact iff_of_true (Db.avanca_of_insert rfl) trivial
  | _ => exact iff_of_true (Db.avanca_of_eq rfl) trivial

theorem avanca_tx (t : Tx) (db db' : Db) (written : t.Grava db db') :
    db.Avanca db' ↔ (Op.tx t).Adiante db := by
  cases t with
  | valido corpo =>
    rw [Tx.Grava] at written
    rw [Db.avanca_modify corpo.id (if corpo.valido = some 0 then .finalizado else .novo)
      (congrArg Db.pedidosDiarios written) fun _ => rfl]
    by_cases denied : corpo.valido = some 0
    · simp [denied, Op.Adiante, Op.Pontual, Status.avanca_finalizado]
    · simp [denied, Op.Adiante, Op.Pontual, Status.avanca_novo]
  | lancamento corpo =>
    refine iff_of_true ?_ trivial
    have written := (congrArg Db.pedidosDiarios written).trans (pedidos_comLancamento corpo db)
    cases named : naoZero corpo.pedidoId with
    | none =>
      rw [named] at written
      exact Db.avanca_of_eq written
    | some pedidoId =>
      rw [named] at written
      rw [Db.avanca_modify pedidoId .devolvido written fun _ => rfl]
      exact fun p _ => Status.avanca_devolvido p.status
  | pedidoManual corpo =>
    refine iff_of_true ?_ trivial
    obtain ⟨total, rfl⟩ := written
    exact Db.avanca_of_insert (pedidos_comPedido corpo total db)

/-- The step law: forward everywhere and one transition under `/alterar_status`. -/
theorem avanca_step (c : Servidor) (a : Passo) :
    (c.db.Avanca (Servidor.db (servidor.advance a c)) ∧ c.AlteraUmPasso a) ↔
      ∀ o, c.Efetua a o → o.Pontual c.db := by
  rw [Servidor.step_iff (C := Op.Adiante c.db) (fun _ _ => Db.avanca_refl _)
    (avanca_sql c.db) fun t db' => avanca_tx t c.db db']
  constructor
  · rintro ⟨forward, one⟩ o effect
    by_cases altered : ∃ status id, o = .sql (.updateStatus status id)
    · obtain ⟨status, id, rfl⟩ := altered
      exact one status id effect
    · exact (adiante_iff altered).mp (forward o effect)
  · intro fine
    refine ⟨fun o effect => ?_, fun status id effect => fine _ effect⟩
    by_cases altered : ∃ status id, o = .sql (.updateStatus status id)
    · obtain ⟨status, id, rfl⟩ := altered
      exact fun p found => Status.avanca_umPasso _ _ (fine _ effect p found)
    · exact (adiante_iff altered).mpr (fine o effect)

end Passo

/-- Between any two moments of the run the statuses move forward, and every UPDATE of
`/alterar_status` moves its order by at most one transition. -/
def Progride (c : Servidor) (passos : List Passo) : Prop :=
  (∀ pre mid post, passos = pre ++ mid ++ post →
    Db.Avanca (Servidor.db (servidor.execute pre c))
      (Servidor.db (servidor.execute (pre ++ mid) c))) ∧
  servidor.Runs (fun c a => Servidor.AlteraUmPasso c a) passos c

theorem progride_iff (c : Servidor) (passos : List Passo) :
    Progride c passos ↔
      servidor.Runs (fun c a => ∀ o, Servidor.Efetua c a o → o.Pontual c.state.state) passos c := by
  have moments : (∀ pre mid post, passos = pre ++ mid ++ post →
      Db.Avanca (Servidor.db (servidor.execute pre c))
        (Servidor.db (servidor.execute (pre ++ mid) c))) ↔ _ :=
    System.runs_preorder (R := fun s s' : Faulty Db => s.state.Avanca s'.state)
      (fun s => s.state.avanca_refl) fun s s' s'' => Db.avanca_trans s.state s'.state s''.state
  rw [Progride, moments, System.runs_and]
  exact System.runs_iff avanca_step

def pedidoNaRua : Db :=
  { pedidosDiarios :=
      .ofList [{ clienteNumero := "5511999990000", status := .rua, valido := some 1 }] }

def paginaVelha : List Passo := [.arrive (.alterarStatus ⟨1, some .novo⟩), .step 0]

theorem pagina_velha_recua : ¬ Progride ⟨⟨pedidoNaRua, []⟩, []⟩ paginaVelha := by
  intro progress
  obtain ⟨p', found, forward⟩ := progress.1 [] paginaVelha [] rfl 1 _ rfl
  have stored : (Servidor.db (servidor.execute paginaVelha
      ⟨⟨pedidoNaRua, []⟩, []⟩)).pedidosDiarios.get 1 =
        some { clienteNumero := "5511999990000", status := .embalado, valido := some 1 } := rfl
  rw [List.nil_append, stored, Option.some.injEq] at found
  subst found
  exact absurd forward (by decide)

end IceClube
