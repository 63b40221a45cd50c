import IceClube.Passos
import IceClube.Progresso

/-! Approval and progress are two columns. When an order on its way, or with a delivery,
is an approved one at every moment of a run, and when a denial takes an order out. -/
namespace IceClube

open Coop Prog

/-- The statuses that only an approved order may have. -/
def Status.emRota : List Status := [.embalado, .entrega, .rua]

def TemEntrega (db : Db) (pedidoId : Nat) : Prop :=
  ∃ i e, db.entregas.get i = some e ∧ e.pedidoId = pedidoId

structure Aprovados (db : Db) : Prop where
  percurso : ∀ id p, db.pedidosDiarios.get id = some p → p.status ∈ Status.emRota →
    p.valido = some 1
  entregas : ∀ id p, db.pedidosDiarios.get id = some p → TemEntrega db id → p.valido = some 1
  /-- A delivery names an order that was created. -/
  criados : ∀ id, TemEntrega db id → id < db.pedidosDiarios.next

theorem aprovados_desfeito {db : Db} (approved : Aprovados db) (agora : Nat) (depois : Db) :
    Aprovados (Db.desfeito { db with agora := agora } depois) :=
  ⟨approved.percurso, approved.entregas, fun id owned =>
    (approved.criados id owned).trans_le (Nat.le_max_left _ _)⟩

theorem aprovados_same {db db' : Db} (approved : Aprovados db)
    (pedidos : db'.pedidosDiarios = db.pedidosDiarios)
    (entregas : db'.entregas = db.entregas) : Aprovados db' := by
  obtain ⟨percurso, owned, criados⟩ := approved
  refine ⟨?_, ?_, ?_⟩ <;> simpa only [TemEntrega, pedidos, entregas] using by assumption

theorem aprovados_modify {db db' : Db} {id : Nat} {f : Pedido → Pedido}
    (approved : Aprovados db) (pedidos : db'.pedidosDiarios = db.pedidosDiarios.modify id f)
    (entregas : db'.entregas = db.entregas) :
    Aprovados db' ↔ ∀ p, db.pedidosDiarios.get id = some p →
      ((f p).status ∈ Status.emRota → (f p).valido = some 1) ∧
        (TemEntrega db id → (f p).valido = some 1) := by
  have same : ∀ other, TemEntrega db' other ↔ TemEntrega db other := by
    intro other
    simp only [TemEntrega, entregas]
  constructor
  · intro kept p found
    have written : db'.pedidosDiarios.get id = some (f p) := by
      rw [pedidos, Table.get_modify, if_pos rfl, found, Option.map_some]
    exact ⟨kept.percurso id _ written, fun owned => kept.entregas id _ written ((same id).mpr owned)⟩
  · intro fine
    have row : ∀ other p, db'.pedidosDiarios.get other = some p →
        (p.status ∈ Status.emRota → p.valido = some 1) ∧
          (TemEntrega db other → p.valido = some 1) := by
      intro other p found
      rw [pedidos, Table.get_modify] at found
      by_cases here : other = id
      · subst here
        rw [if_pos rfl, Option.map_eq_some_iff] at found
        obtain ⟨old, stored, rfl⟩ := found
        exact fine old stored
      · rw [if_neg here] at found
        exact ⟨approved.percurso other p found, approved.entregas other p found⟩
    refine ⟨fun other p found => (row other p found).1,
      fun other p found owned => (row other p found).2 ((same other).mp owned), ?_⟩
    intro other owned
    rw [pedidos]
    exact approved.criados other ((same other).mp owned)

/-- A new order awaits approval and has no delivery yet. -/
theorem aprovados_novo {db db' : Db} {row : Pedido} (approved : Aprovados db)
    (pedidos : db'.pedidosDiarios = db.pedidosDiarios.insert row) (new : row.status = .novo)
    (entregas : db'.entregas = db.entregas) : Aprovados db' := by
  have same : ∀ other, TemEntrega db' other ↔ TemEntrega db other := by
    intro other
    simp only [TemEntrega, entregas]
  constructor
  · intro id p found onRoute
    rw [pedidos, Table.get_insert] at found
    by_cases here : id = db.pedidosDiarios.next
    · rw [if_pos here, Option.some.injEq] at found
      subst found
      rw [new] at onRoute
      exact absurd onRoute (by decide)
    · rw [if_neg here] at found
      exact approved.percurso id p found onRoute
  · intro id p found owned
    have created := approved.criados id ((same id).mp owned)
    rw [pedidos, Table.get_insert, if_neg (by omega)] at found
    exact approved.entregas id p found ((same id).mp owned)
  · intro id owned
    have created := approved.criados id ((same id).mp owned)
    rw [pedidos, Table.next_insert]
    omega

/-- A new delivery keeps the law exactly when its order was created and approved. -/
theorem aprovados_entrega {db db' : Db} (row : Entrega) (approved : Aprovados db)
    (pedidos : db'.pedidosDiarios = db.pedidosDiarios)
    (entregas : db'.entregas = db.entregas.insert row) :
    Aprovados db' ↔ row.pedidoId < db.pedidosDiarios.next ∧
      ∀ p, db.pedidosDiarios.get row.pedidoId = some p → p.valido = some 1 := by
  have owned : ∀ id, TemEntrega db' id ↔ TemEntrega db id ∨ row.pedidoId = id := by
    intro id
    simp only [TemEntrega, entregas, Table.get_insert]
    constructor
    · rintro ⟨i, e, found, named⟩
      by_cases newest : i = db.entregas.next
      · rw [if_pos newest, Option.some.injEq] at found
        exact .inr (found ▸ named)
      · rw [if_neg newest] at found
        exact .inl ⟨i, e, found, named⟩
    · rintro (⟨i, e, found, named⟩ | named)
      · exact ⟨i, e, by rw [if_neg (Nat.ne_of_lt (Table.lt_next found)), found], named⟩
      · exact ⟨_, row, if_pos rfl, named⟩
  constructor
  · intro kept
    have here : TemEntrega db' row.pedidoId := (owned _).mpr (.inr rfl)
    have created := kept.criados _ here
    rw [pedidos] at created
    exact ⟨created, fun p found => kept.entregas _ p (by rw [pedidos, found]) here⟩
  · rintro ⟨created, fine⟩
    refine ⟨fun id p found => approved.percurso id p (pedidos ▸ found), ?_, ?_⟩
    · intro id p found has
      rw [pedidos] at found
      rcases (owned id).mp has with old | rfl
      · exact approved.entregas id p found old
      · exact fine p found
    · intro id has
      rw [pedidos]
      rcases (owned id).mp has with old | rfl
      · exact approved.criados id old
      · exact created

def Op.Aprova (db : Db) : Op → Prop
  | .sql (.updateStatus status id) =>
    status ∈ Status.emRota → ∀ p, db.pedidosDiarios.get id = some p → p.valido = some 1
  | .sql (.updateRua id) => ∀ p, db.pedidosDiarios.get id = some p → p.valido = some 1
  | .sql (.insertEntrega id _ _) =>
    id < db.pedidosDiarios.next ∧
      ∀ p, db.pedidosDiarios.get id = some p → p.valido = some 1
  | .sql (.insertEntregaSelect _ id) =>
    ∀ p, db.pedidosDiarios.get id = some p → p.valido = some 1
  | .tx (.valido corpo) =>
    (db.pedidosDiarios.get corpo.id).isSome → TemEntrega db corpo.id → corpo.valido = some 1
  -- Never issued outside a transaction.
  | .sql (.updateValido valido status id) =>
    (db.pedidosDiarios.get id).isSome →
      (status ∈ Status.emRota ∨ TemEntrega db id → valido = some 1)
  | _ => True

theorem aprovados_setStatus {db : Db} (status : Status) (id : Nat) (approved : Aprovados db) :
    Aprovados (db.setStatus status id) ↔
      (status ∈ Status.emRota → ∀ p, db.pedidosDiarios.get id = some p → p.valido = some 1) := by
  have law : Aprovados (db.setStatus status id) ↔ _ := aprovados_modify approved rfl rfl
  rw [law]
  constructor
  · exact fun fine onRoute p found => (fine p found).1 onRoute
  · exact fun fine p found =>
      ⟨fun onRoute => fine onRoute p found, approved.entregas id p found⟩

theorem aprovados_setValido {db : Db} (valido : Option Int) (status : Status) (id : Nat)
    (approved : Aprovados db) :
    Aprovados (db.setValido valido status id) ↔
      ((db.pedidosDiarios.get id).isSome →
        (status ∈ Status.emRota ∨ TemEntrega db id → valido = some 1)) := by
  have law : Aprovados (db.setValido valido status id) ↔ _ :=
    aprovados_modify approved rfl rfl
  rw [law]
  cases db.pedidosDiarios.get id with
  | none => simp
  | some p => simp [or_imp]

theorem aprova_sql (db : Db) (q : Sql) (approved : Aprovados db) :
    Aprovados (q.sem db).2 ↔ (Op.sql q).Aprova db := by
  cases q with
  | updateStatus status id => exact aprovados_setStatus status id approved
  | updateRua id =>
    refine (aprovados_setStatus .rua id approved).trans ⟨fun fine => fine (by decide), ?_⟩
    exact fun fine _ => fine
  | updateValido valido status id => exact aprovados_setValido valido status id approved
  | insertEntrega id pedido rota =>
    exact aprovados_entrega (entregaEnviada id pedido rota db.statusPadrao) approved rfl rfl
  | insertEntregaSelect entregadorId pedidoId =>
    simp only [Sql.sem, Op.Aprova]
    cases found : db.pedidosDiarios.get pedidoId with
    | none => exact iff_of_true approved fun p none => by contradiction
    | some pedido =>
      have law : Aprovados (db.novaEntrega (entregaAtribuida entregadorId pedidoId pedido)) ↔ _ :=
        aprovados_entrega (entregaAtribuida entregadorId pedidoId pedido) approved rfl rfl
      rw [law]
      have created := Table.lt_next found
      simp only [entregaAtribuida, found]
      exact and_iff_right created
  | insertPedido clienteNumero vendaId =>
    exact iff_of_true (aprovados_novo approved rfl rfl rfl) trivial
  | _ => exact iff_of_true (aprovados_same approved rfl rfl) trivial

theorem aprova_tx (t : Tx) (db db' : Db) (written : t.Grava db db') (approved : Aprovados db) :
    Aprovados db' ↔ (Op.tx t).Aprova db := by
  cases t with
  | valido corpo =>
    rw [show db' = _ from written, aprovados_setValido _ _ _ approved, Op.Aprova]
    have off : (if corpo.valido = some 0 then Status.finalizado else .novo) ∉ Status.emRota := by
      split <;> decide
    simp [off]
  | lancamento corpo =>
    refine iff_of_true ?_ trivial
    have pedidos := (congrArg Db.pedidosDiarios written).trans (pedidos_comLancamento corpo db)
    have entregas := entregas_tx _ written
    cases named : naoZero corpo.pedidoId with
    | none =>
      rw [named] at pedidos
      exact aprovados_same approved pedidos entregas
    | some pedidoId =>
      rw [named] at pedidos
      rw [aprovados_modify approved pedidos entregas]
      exact fun p found =>
        ⟨fun onRoute => absurd onRoute (by simp [Status.emRota]), approved.entregas pedidoId p found⟩
  | pedidoManual corpo =>
    refine iff_of_true ?_ trivial
    obtain ⟨total, rfl⟩ := written
    exact aprovados_novo approved (pedidos_comPedido corpo total db) rfl
      (entregas_comPedido corpo total db)

theorem aprova_step (c : Servidor) (a : Passo) (approved : Aprovados c.db) :
    Aprovados (Servidor.db (servidor.advance a c)) ↔ ∀ o, c.Efetua a o → o.Aprova c.db :=
  Servidor.step_iff (aprovados_desfeito approved)
    (fun q => aprova_sql c.db q approved) fun t db' written => aprova_tx t c.db db' written approved

/-- Every `/valido` of an existing order with a value other than 1, none of whose statements
is rejected, succeeds and takes the order out of the active statuses. -/
def Servidor.Nega (c : Servidor) (a : Passo) : Prop :=
  ∀ corpo, c.issued a = some (.tx (.valido corpo)) → corpo.valido ≠ some 1 →
    (c.db.pedidosDiarios.get corpo.id).isSome →
    Calm ((corpoValido corpo).steps Sql.sem c.db) c.state.faults →
      ((Tx.valido corpo).executar c.state).1.status = 200 ∧
        ∀ p, (Servidor.db (servidor.advance a c)).pedidosDiarios.get corpo.id = some p →
          p.status ∉ Status.ativos

/-- The only denial such a request carries is 0. -/
def Servidor.NegaComZero (c : Servidor) (a : Passo) : Prop :=
  ∀ corpo, c.issued a = some (.tx (.valido corpo)) → corpo.valido ≠ some 1 →
    (c.db.pedidosDiarios.get corpo.id).isSome →
    Calm ((corpoValido corpo).steps Sql.sem c.db) c.state.faults → corpo.valido = some 0

theorem nega_step (c : Servidor) (a : Passo) : c.Nega a ↔ c.NegaComZero a := by
  refine forall_congr' fun corpo => forall_congr' fun issued => forall_congr' fun denial =>
    forall_congr' fun found => forall_congr' fun calm => ?_
  have after (commits : (Tx.valido corpo).Confirma c.state) :
      (Servidor.db (servidor.advance a c)).pedidosDiarios.get corpo.id =
        (c.db.pedidosDiarios.get corpo.id).map fun p =>
          { p with valido := corpo.valido,
                   status := if corpo.valido = some 0 then .finalizado else .novo } := by
    have effect : c.Efetua a (.tx (.valido corpo)) := ⟨issued, commits⟩
    rw [show Servidor.db _ = _ from Servidor.efetua_tx effect, Db.setValido, Table.get_modify,
      if_pos rfl]
  obtain ⟨p, stored⟩ := Option.isSome_iff_exists.mp found
  constructor
  · rintro ⟨success, out⟩
    have written := after ((Tx.status_executar _ _).mp success)
    rw [stored, Option.map_some] at written
    by_contra other
    have inactive := out _ written
    rw [if_neg other] at inactive
    exact inactive (by simp [Status.ativos])
  · intro zero
    have commits : (Tx.valido corpo).Confirma c.state := ⟨calm, .inl zero⟩
    refine ⟨(Tx.status_executar _ _).mpr commits, fun p' found' => ?_⟩
    rw [after commits, stored, Option.map_some, Option.some.injEq, if_pos zero] at found'
    subst found'
    simp [Status.ativos]

/-- At every moment of the run the law holds, and every denial is one. -/
def SempreAprovados (c : Servidor) (passos : List Passo) : Prop :=
  (∀ pre post, passos = pre ++ post → Aprovados (Servidor.db (servidor.execute pre c))) ∧
  servidor.Runs (fun c a => Servidor.Nega c a) passos c

theorem sempreAprovados_iff (c : Servidor) (passos : List Passo) :
    SempreAprovados c passos ↔
      Aprovados c.state.state ∧
        servidor.Runs (fun c a =>
          (∀ o, Servidor.Efetua c a o → o.Aprova c.state.state) ∧ Servidor.NegaComZero c a)
          passos c := by
  have moments : (∀ pre post, passos = pre ++ post →
      Aprovados (Servidor.db (servidor.execute pre c))) ↔ _ :=
    System.always_iff_runs (I := fun s : Faulty Db => Aprovados s.state) aprova_step
  rw [SempreAprovados, moments, System.runs_iff nega_step, and_assoc, System.runs_and]

def pedidoPago : CorpoPedido where
  clienteNumero := "5511999990000"
  formaPagamento := "pix"
  itens := .lista [⟨some 1, some 2⟩]

/-- A manual order, and the denial button of the sales page. -/
def negacaoPelaPagina : List Passo :=
  [.arrive (.pedidoManual pedidoPago), .step 0, .step 0, .step 0,
    .arrive (.valido ⟨1, some 2⟩), .step 1]

def dezPicoles : Db :=
  { estoque := .ofList [{ nome := "Picolé", quantidade := 10, medida := "un", valorUnitario := 5 }] }

theorem negacao_pela_pagina : ¬ SempreAprovados ⟨⟨dezPicoles, []⟩, []⟩ negacaoPelaPagina := by
  intro always
  have denial : servidor.Runs (fun c a => Servidor.Nega c a) (negacaoPelaPagina.take 5 ++ [.step 1])
      ⟨⟨dezPicoles, []⟩, []⟩ := always.2
  have out := ((System.runs_append.mp denial).2.1 ⟨1, some 2⟩ rfl (by decide) rfl (by
    rw [show Faulty.faults _ = [] from rfl]
    exact calm_nil _)).2 _ rfl
  exact out (by decide)

end IceClube
