import IceClube.Passos

/-! Open deliveries: when an order has at most one of them at every moment of a run. -/
namespace IceClube

open Coop

def StatusEntrega.Aberta (status : StatusEntrega) : Prop :=
  status ≠ .finalizado ∧ status ≠ .falha

instance (status : StatusEntrega) : Decidable status.Aberta :=
  inferInstanceAs (Decidable (_ ∧ _))

def UmaAberta (entregas : Table Entrega) : Prop :=
  ∀ i j e e', entregas.get i = some e → entregas.get j = some e' →
    e.pedidoId = e'.pedidoId → e.status.Aberta → e'.status.Aberta → i = j

def SemAberta (entregas : Table Entrega) (pedidoId : Nat) : Prop :=
  ∀ i e, entregas.get i = some e → e.pedidoId = pedidoId → ¬ e.status.Aberta

/-- A new row keeps the law exactly when it is closed or the first open one. -/
theorem umaAberta_insert {entregas : Table Entrega} (row : Entrega)
    (law : UmaAberta entregas) :
    UmaAberta (entregas.insert row) ↔
      (row.status.Aberta → SemAberta entregas row.pedidoId) := by
  have new : (entregas.insert row).get entregas.next = some row := by
    rw [Table.get_insert, if_pos rfl]
  constructor
  · intro kept fresh i e found same opened
    have old := Table.get_insert_of_get row found
    have := kept i entregas.next e row old new same opened fresh
    exact absurd (Table.lt_next found) (by omega)
  · intro first i j e e' found found' same opened opened'
    rw [Table.get_insert] at found found'
    by_cases newest : i = entregas.next
    · rw [if_pos newest, Option.some.injEq] at found
      subst found
      by_cases newest' : j = entregas.next
      · rw [newest, newest']
      · rw [if_neg newest'] at found'
        exact absurd opened' (first opened j e' found' same.symm)
    · rw [if_neg newest] at found
      by_cases newest' : j = entregas.next
      · rw [if_pos newest', Option.some.injEq] at found'
        subst found'
        exact absurd opened (first opened' i e found same)
      · rw [if_neg newest'] at found'
        exact law i j e e' found found' same opened opened'

/-- What an insertion must find: no open delivery of the order, unless its own row is
closed or, for an unknown order, there is none. -/
def Op.PrimeiraAberta (db : Db) : Op → Prop
  | .sql (.insertEntrega pedidoId _ _) =>
    db.statusPadrao.Aberta → SemAberta db.entregas pedidoId
  | .sql (.insertEntregaSelect _ pedidoId) =>
    (db.pedidosDiarios.get pedidoId).isSome → SemAberta db.entregas pedidoId
  | _ => True

theorem umaAberta_sql (db : Db) (q : Sql) (law : UmaAberta db.entregas) :
    UmaAberta (q.sem db).2.entregas ↔ (Op.sql q).PrimeiraAberta db := by
  cases q with
  | insertEntrega pedidoId pedido rota => exact umaAberta_insert _ law
  | insertEntregaSelect entregadorId pedidoId =>
    simp only [Sql.sem, Op.PrimeiraAberta]
    cases db.pedidosDiarios.get pedidoId with
    | none => exact iff_of_true law fun found => by simp at found
    | some pedido =>
      have opened : (entregaAtribuida entregadorId pedidoId pedido).status.Aberta := by
        simp [entregaAtribuida, StatusEntrega.Aberta]
      refine (umaAberta_insert _ law).trans ⟨fun first _ => first opened, fun first _ => ?_⟩
      exact first rfl
  | _ => exact iff_of_true law trivial

theorem umaAberta_step (c : Servidor) (a : Passo) (law : UmaAberta c.db.entregas) :
    UmaAberta (Servidor.db (servidor.advance a c)).entregas ↔
      ∀ o, c.Efetua a o → o.PrimeiraAberta c.db := by
  refine Servidor.step_iff (P := fun db => UmaAberta db.entregas) (fun _ _ => law)
    (fun q => umaAberta_sql _ q law) fun t db' written => ?_
  rw [entregas_tx t written]
  exact iff_of_true law trivial

/-- At every moment of the run an order has at most one open delivery. -/
def SempreUmaAberta (c : Servidor) (passos : List Passo) : Prop :=
  ∀ pre post, passos = pre ++ post →
    UmaAberta (Servidor.db (servidor.execute pre c)).entregas

theorem sempreUmaAberta_iff (c : Servidor) (passos : List Passo) :
    SempreUmaAberta c passos ↔
      UmaAberta c.state.state.entregas ∧
        servidor.Runs (fun c a => ∀ o, Servidor.Efetua c a o → o.PrimeiraAberta c.state.state)
          passos c :=
  System.always_iff_runs (M := servidor)
    (I := fun s : Faulty Db => UmaAberta s.state.entregas) umaAberta_step

def pedidoEmEntrega : Db :=
  { pedidosDiarios :=
      .ofList [{ clienteNumero := "5511999990000", status := .entrega, valido := some 1 }] }

def doisEntregadores : List Passo :=
  [.arrive (.atribuirEntregas ⟨7, some [1]⟩), .step 0, .step 0,
    .arrive (.atribuirEntregas ⟨8, some [1]⟩), .step 1, .step 1]

theorem dois_entregadores : ¬ SempreUmaAberta ⟨⟨pedidoEmEntrega, []⟩, []⟩ doisEntregadores := by
  intro always
  have same := always doisEntregadores [] rfl 1 2 _ _ rfl rfl rfl (by decide) (by decide)
  contradiction

end IceClube
