import IceClube.Keys
import IceClube.Passos

/-! Two routes whose statements are committed one by one. When one of them is rejected, those
before it stay. -/
namespace IceClube

open Coop Prog

section Atribuir

variable (entregadorId : Nat)

def Db.comEntrega (pedidoId : Nat) (db : Db) : Db :=
  (Sql.sem (.insertEntregaSelect entregadorId pedidoId) db).2

def Db.atribuida (pedidoId : Nat) (db : Db) : Db :=
  (db.comEntrega entregadorId pedidoId).setStatus .rua pedidoId

/-- The database after the first `k` statements of the loop. -/
def Db.atribuidas : Nat → List Nat → Db → Db
  | k + 2, pedidoId :: pedidos, db => atribuidas k pedidos (db.atribuida entregadorId pedidoId)
  | 1, pedidoId :: _, db => db.comEntrega entregadorId pedidoId
  | _, _, db => db

/-- The loop ends, or stops at its first rejected statement. -/
theorem run_atribuir (pedidos : List Nat) (w : Faulty Db) :
    match firstFault (2 * pedidos.length) w.faults with
    | none => ((each (atribuir entregadorId) pedidos).run Op.exec w).1 = .ok () ∧
        ((each (atribuir entregadorId) pedidos).run Op.exec w).2.state =
          w.state.atribuidas entregadorId (2 * pedidos.length) pedidos
    | some k => ((each (atribuir entregadorId) pedidos).run Op.exec w).1 = .error Tx.rejeicao ∧
        ((each (atribuir entregadorId) pedidos).run Op.exec w).2.state =
          w.state.atribuidas entregadorId k pedidos := by
  induction pedidos generalizing w with
  | nil => exact ⟨rfl, rfl⟩
  | cons pedidoId pedidos ih =>
    have length : 2 * (pedidoId :: pedidos).length = 2 * pedidos.length + 2 := by
      rw [List.length_cons]
      omega
    have loop : each (atribuir entregadorId) (pedidoId :: pedidos) =
        dbQuery (.insertEntregaSelect entregadorId pedidoId) >>= fun _ =>
          dbQuery (.updateRua pedidoId) >>= fun _ => each (atribuir entregadorId) pedidos :=
      bind_assoc ..
    rw [length, loop]
    cases first : w.faults.headD false with
    | true =>
      rw [firstFault_rejected first, run_rejeitada _ _ first]
      exact ⟨rfl, rfl⟩
    | false =>
      rw [firstFault_answered first, run_respondida _ _ first]
      cases second : w.faults.tail.headD false with
      | true =>
        rw [firstFault_rejected second, run_rejeitada _ _ (by exact second)]
        exact ⟨rfl, rfl⟩
      | false =>
        rw [firstFault_answered second, run_respondida _ _ (by exact second)]
        have rest := ih ⟨w.state.atribuida entregadorId pedidoId, w.faults.tail.tail⟩
        cases stop : firstFault (2 * pedidos.length) w.faults.tail.tail with
        | none =>
          simp only [stop] at rest
          exact rest
        | some k =>
          simp only [stop] at rest
          exact rest

def Db.entregasDos (db : Db) (pedidos : List Nat) : List Entrega :=
  pedidos.filterMap fun id => (db.pedidosDiarios.get id).map (entregaAtribuida entregadorId id)

variable {entregadorId : Nat} {db : Db} {pedidoId : Nat} {pedidos : List Nat} {k : Nat}

theorem pedidos_comEntrega :
    (db.comEntrega entregadorId pedidoId).pedidosDiarios = db.pedidosDiarios := by
  simp only [Db.comEntrega, Sql.sem]
  cases db.pedidosDiarios.get pedidoId <;> rfl

theorem entregas_comEntrega : (db.comEntrega entregadorId pedidoId).entregas =
    (db.entregasDos entregadorId [pedidoId]).foldl Table.insert db.entregas := by
  simp only [Db.comEntrega, Sql.sem, Db.entregasDos]
  cases found : db.pedidosDiarios.get pedidoId <;> simp [found, Db.novaEntrega]

theorem pedidos_atribuida : (db.atribuida entregadorId pedidoId).pedidosDiarios =
    db.pedidosDiarios.modify pedidoId fun p => { p with status := .rua } := by
  rw [Db.atribuida, Db.setStatus, pedidos_comEntrega]

theorem entregasDos_atribuida : (db.atribuida entregadorId pedidoId).entregasDos entregadorId pedidos =
    db.entregasDos entregadorId pedidos := by
  apply List.filterMap_congr
  intro id _
  rw [pedidos_atribuida, Table.get_modify]
  split
  · rw [Option.map_map]
    rfl
  · rfl

/-- The first `k` statements hold the first half of them as INSERTs. -/
theorem entregas_atribuidas : (db.atribuidas entregadorId k pedidos).entregas =
    (db.entregasDos entregadorId (pedidos.take ((k + 1) / 2))).foldl Table.insert db.entregas := by
  induction k, pedidos, db using Db.atribuidas.induct entregadorId with
  | case1 k pedidoId pedidos db ih =>
    have half : (k + 2 + 1) / 2 = (k + 1) / 2 + 1 := by omega
    have first : (db.atribuida entregadorId pedidoId).entregas =
        (db.entregasDos entregadorId [pedidoId]).foldl Table.insert db.entregas :=
      entregas_comEntrega
    have rows : db.entregasDos entregadorId (pedidoId :: pedidos.take ((k + 1) / 2)) =
        db.entregasDos entregadorId [pedidoId] ++
          db.entregasDos entregadorId (pedidos.take ((k + 1) / 2)) := by
      rw [← List.singleton_append, Db.entregasDos, List.filterMap_append]
      rfl
    rw [Db.atribuidas, ih, entregasDos_atribuida, first, half, List.take_succ_cons, rows,
      List.foldl_append]
  | case2 pedidoId pedidos db =>
    rw [Db.atribuidas, entregas_comEntrega]
    rfl
  | case3 k pedidos db more one =>
    have none_left : pedidos.take ((k + 1) / 2) = [] := by
      rcases k with _ | _ | k
      · rfl
      · cases pedidos with
        | nil => rfl
        | cons pedidoId pedidos => exact absurd rfl (one pedidoId pedidos rfl)
      · cases pedidos with
        | nil => simp
        | cons pedidoId pedidos => exact absurd rfl (more k pedidoId pedidos rfl)
    rw [none_left]
    simp [Db.atribuidas, Db.entregasDos]

/-- Statements for orders that do not exist change nothing. -/
theorem atribuidas_ausentes
    (missing : ∀ id ∈ pedidos.take ((k + 1) / 2), db.pedidosDiarios.get id = none) :
    db.atribuidas entregadorId k pedidos = db := by
  induction k, pedidos, db using Db.atribuidas.induct entregadorId with
  | case1 k pedidoId pedidos db ih =>
    have half : (k + 2 + 1) / 2 = (k + 1) / 2 + 1 := by omega
    rw [half, List.take_succ_cons, List.forall_mem_cons] at missing
    obtain ⟨absent, others⟩ := missing
    have same : db.atribuida entregadorId pedidoId = db := by
      simp [Db.atribuida, Db.comEntrega, Sql.sem, absent, Db.setStatus, Table.modify_ausente]
    rw [same] at ih
    rw [Db.atribuidas, same, ih others]
  | case2 pedidoId pedidos db =>
    have absent := missing pedidoId (by simp)
    simp [Db.atribuidas, Db.comEntrega, Sql.sem, absent]
  | case3 k pedidos db more one => simp [Db.atribuidas]

theorem pedidos_atribuidas (id : Nat) :
    (db.atribuidas entregadorId (2 * pedidos.length) pedidos).pedidosDiarios.get id =
      if id ∈ pedidos then
        (db.pedidosDiarios.get id).map fun p => { p with status := .rua }
      else db.pedidosDiarios.get id := by
  induction pedidos generalizing db with
  | nil => rfl
  | cons pedidoId pedidos ih =>
    have length : 2 * (pedidoId :: pedidos).length = 2 * pedidos.length + 2 := by
      rw [List.length_cons]
      omega
    rw [length, Db.atribuidas, ih, pedidos_atribuida, Table.get_modify]
    by_cases here : id = pedidoId
    · subst here
      by_cases again : id ∈ pedidos
      · simp [again, Function.comp_def]
      · simp [again]
    · by_cases later : id ∈ pedidos
      · simp [here, later]
      · simp [here, later]

end Atribuir

section AtribuirEntregas

/-- The deliveries of the courier for an order that are there afterwards and not before. -/
def entregasNovas (antes depois : Db) (entregadorId pedidoId : Nat) : List (Nat × Entrega) :=
  depois.entregas.rows.filter fun x => (antes.entregas.get x.1).isNone &&
    (x.2.pedidoId = pedidoId && x.2.entregadorId = some entregadorId)

/-- The assignment is made for every order of the list, or for none. -/
structure AtribuicaoInteira (corpo : CorpoAtribuir) (w : Faulty Db) : Prop where
  erro : ∀ resposta, ((atribuirEntregas corpo).run Op.exec w).1 = .ok resposta →
    resposta.status = 500 →
      ((atribuirEntregas corpo).run Op.exec w).2.state.entregas = w.state.entregas ∧
      ∀ id, (((atribuirEntregas corpo).run Op.exec w).2.state.pedidosDiarios.get id).map
        (·.status) = (w.state.pedidosDiarios.get id).map (·.status)
  sucesso : ∀ resposta, ((atribuirEntregas corpo).run Op.exec w).1 = .ok resposta →
    resposta.status = 200 → ∀ id ∈ corpo.pedidos.getD [],
      (w.state.pedidosDiarios.get id).isSome ∧
      (((atribuirEntregas corpo).run Op.exec w).2.state.pedidosDiarios.get id).map (·.status) =
        some .rua ∧
      (entregasNovas w.state ((atribuirEntregas corpo).run Op.exec w).2.state
        corpo.entregadorId id).length = 1

def CorpoAtribuir.aceito (corpo : CorpoAtribuir) : Bool :=
  corpo.entregadorId ≠ 0 && corpo.pedidos.getD [] ≠ []

/-- No statement is rejected and the list names each order once and only orders that exist, or
the INSERTs up to the rejected statement are all for orders that do not exist. -/
def CorpoAtribuir.Segura (corpo : CorpoAtribuir) (w : Faulty Db) : Prop :=
  let pedidos := corpo.pedidos.getD []
  match firstFault (2 * pedidos.length) w.faults with
  | none => pedidos.Nodup ∧ ∀ id ∈ pedidos, (w.state.pedidosDiarios.get id).isSome
  | some k => ∀ id ∈ pedidos.take ((k + 1) / 2), w.state.pedidosDiarios.get id = none

variable {corpo : CorpoAtribuir} {w : Faulty Db}

/-- The answer and the database tell where the loop stopped. -/
theorem run_atribuirEntregas (accepted : corpo.aceito = true) :
    match firstFault (2 * (corpo.pedidos.getD []).length) w.faults with
    | none =>
      (∃ resposta, ((atribuirEntregas corpo).run Op.exec w).1 = .ok resposta ∧
        resposta.status = 200) ∧
      ((atribuirEntregas corpo).run Op.exec w).2.state =
        w.state.atribuidas corpo.entregadorId (2 * (corpo.pedidos.getD []).length)
          (corpo.pedidos.getD [])
    | some k =>
      (∃ resposta, ((atribuirEntregas corpo).run Op.exec w).1 = .ok resposta ∧
        resposta.status = 500) ∧
      ((atribuirEntregas corpo).run Op.exec w).2.state =
        w.state.atribuidas corpo.entregadorId k (corpo.pedidos.getD []) := by
  obtain ⟨entregadorId, pedidos⟩ := corpo
  rcases pedidos with _ | _ | ⟨pedido, pedidos⟩
  · simp [CorpoAtribuir.aceito] at accepted
  · simp [CorpoAtribuir.aceito] at accepted
  cases entregadorId with
  | zero => simp [CorpoAtribuir.aceito] at accepted
  | succ entregadorId =>
    have loop := run_atribuir (entregadorId + 1) (pedido :: pedidos) w
    simp only [Option.getD_some]
    rw [atribuirEntregas, run_handle, run_bind]
    cases stop : firstFault (2 * (pedido :: pedidos).length) w.faults with
    | none =>
      simp only [stop] at loop ⊢
      rw [← Prod.eta ((each _ _).run Op.exec w), loop.1]
      exact ⟨⟨_, rfl, rfl⟩, loop.2⟩
    | some k =>
      simp only [stop] at loop ⊢
      rw [← Prod.eta ((each _ _).run Op.exec w), loop.1]
      exact ⟨⟨_, rfl, rfl⟩, loop.2⟩

theorem run_recusada (refused : corpo.aceito = false) : ∃ resposta,
    ((atribuirEntregas corpo).run Op.exec w).1 = .ok resposta ∧ resposta.status = 400 := by
  obtain ⟨entregadorId, pedidos⟩ := corpo
  rcases entregadorId with _ | entregadorId
  · exact ⟨_, rfl, rfl⟩
  · rcases pedidos with _ | _ | ⟨pedido, pedidos⟩
    · exact ⟨_, rfl, rfl⟩
    · exact ⟨_, rfl, rfl⟩
    · simp [CorpoAtribuir.aceito] at refused

theorem length_entregasNovas {db db' : Db} {entregadorId id : Nat} {pedidos : List Nat}
    (written : db'.entregas =
      (db.entregasDos entregadorId pedidos).foldl Table.insert db.entregas)
    (exist : ∀ id ∈ pedidos, (db.pedidosDiarios.get id).isSome) :
    (entregasNovas db db' entregadorId id).length = pedidos.count id := by
  rw [entregasNovas, written, Table.length_novas db.entregas _
    fun e => e.pedidoId = id && e.entregadorId = some entregadorId]
  clear written
  induction pedidos with
  | nil => rfl
  | cons pedidoId pedidos ih =>
    obtain ⟨present, others⟩ := List.forall_mem_cons.mp exist
    obtain ⟨p, found⟩ := Option.isSome_iff_exists.mp present
    have rows : db.entregasDos entregadorId (pedidoId :: pedidos) =
        entregaAtribuida entregadorId pedidoId p :: db.entregasDos entregadorId pedidos := by
      simp [Db.entregasDos, found]
    rw [rows, List.countP_cons, ih others, List.count_cons]
    by_cases same : pedidoId = id
    · simp [entregaAtribuida, same]
    · simp [entregaAtribuida, same]

/-- The assignment is all or nothing exactly if no order was touched before a rejection, and
without one every order of the list exists and is named once. -/
theorem atribuicaoInteira_iff (corpo : CorpoAtribuir) (w : Faulty Db) :
    AtribuicaoInteira corpo w ↔ (corpo.aceito = true → corpo.Segura w) := by
  cases accepted : corpo.aceito with
  | false =>
    obtain ⟨resposta, answer, status⟩ := run_recusada (w := w) accepted
    refine iff_of_true ⟨fun r same failed => ?_, fun r same success => ?_⟩ (by simp)
    · rw [answer, Except.ok.injEq] at same
      simp [← same, status] at failed
    · rw [answer, Except.ok.injEq] at same
      simp [← same, status] at success
  | true =>
    have run := run_atribuirEntregas (w := w) accepted
    simp only [forall_const, CorpoAtribuir.Segura]
    cases stop : firstFault (2 * (corpo.pedidos.getD []).length) w.faults with
    | none =>
      simp only [stop] at run ⊢
      obtain ⟨⟨resposta, answer, status⟩, state⟩ := run
      have half : (2 * (corpo.pedidos.getD []).length + 1) / 2 =
          (corpo.pedidos.getD []).length := by omega
      have written := congrArg Db.entregas state
      rw [entregas_atribuidas, half, List.take_length] at written
      constructor
      · rintro ⟨-, success⟩
        have each := success resposta answer status
        have exist := fun id member => (each id member).1
        refine ⟨List.nodup_iff_count_eq_one.mpr fun id member => ?_, exist⟩
        rw [← length_entregasNovas written exist]
        exact (each id member).2.2
      · rintro ⟨nodup, exist⟩
        refine ⟨fun r same failed => ?_, fun r _ _ id member => ⟨exist id member, ?_, ?_⟩⟩
        · rw [answer, Except.ok.injEq] at same
          simp [← same, status] at failed
        · obtain ⟨p, found⟩ := Option.isSome_iff_exists.mp (exist id member)
          rw [state, pedidos_atribuidas, if_pos member, found]
          rfl
        · rw [length_entregasNovas written exist]
          exact List.nodup_iff_count_eq_one.mp nodup id member
    | some k =>
      simp only [stop] at run ⊢
      obtain ⟨⟨resposta, answer, status⟩, state⟩ := run
      have written := congrArg Db.entregas state
      rw [entregas_atribuidas] at written
      constructor
      · rintro ⟨failure, -⟩
        have same := (failure resposta answer status).1
        have none_added : w.state.entregasDos corpo.entregadorId
            ((corpo.pedidos.getD []).take ((k + 1) / 2)) = [] := by
          have next := congrArg Table.next (written.symm.trans same)
          rw [Table.next_insertAll] at next
          apply List.eq_nil_of_length_eq_zero
          omega
        intro id member
        have unmatched := List.filterMap_eq_nil_iff.mp none_added id member
        simpa using unmatched
      · intro missing
        rw [atribuidas_ausentes missing] at state
        refine ⟨fun r _ _ => ?_, fun r same success => ?_⟩
        · rw [state]
          exact ⟨rfl, fun _ => rfl⟩
        · rw [answer, Except.ok.injEq] at same
          simp [← same, status] at success

def umPedido : Db :=
  { pedidosDiarios := .ofList [{ clienteNumero := "5511999990000", status := .entrega }] }

def atribuicao (pedidos : List Nat) : CorpoAtribuir := ⟨5, some pedidos⟩

/-- The second statement of the first order is rejected. -/
theorem entrega_sem_status : ¬ AtribuicaoInteira (atribuicao [1]) ⟨umPedido, [false, true]⟩ := by
  rintro ⟨failure, -⟩
  have same := (failure ⟨500, "Erro ao atribuir entregas", none⟩ rfl rfl).1
  have next := congrArg Table.next same
  revert next
  decide

end AtribuirEntregas
section EditarItens

def Linha.gravavel (linha : Linha) : Bool :=
  (naoZero linha.produtoId).isSome && linha.quantidade.any (0 < ·)

theorem regravar_gravavel {pedidoId : Nat} {linha : Linha} (kept : linha.gravavel = true) :
    regravarItem pedidoId linha =
      dbQuery (.insertItem pedidoId (linha.item pedidoId).produtoId
        (linha.item pedidoId).quantidade) := by
  obtain ⟨produtoId, quantidade⟩ := linha
  cases produtoId with
  | none => simp [Linha.gravavel, naoZero] at kept
  | some produtoId =>
    cases quantidade with
    | none => simp [Linha.gravavel] at kept
    | some quantidade =>
      simp only [Linha.gravavel, Option.any_some, Bool.and_eq_true, decide_eq_true_eq] at kept
      have product : naoZero (some produtoId) = some produtoId := by
        rw [naoZero, Option.isSome_filter, Option.any_some, decide_eq_true_eq] at kept
        simp [naoZero, kept.1]
      simp [regravarItem, product, kept.2, Linha.item]

theorem gravavel_positiva {linha : Linha} {pedidoId : Nat} (kept : linha.gravavel = true) :
    0 < (linha.item pedidoId).quantidade := by
  obtain ⟨produtoId, quantidade⟩ := linha
  cases quantidade with
  | none => simp [Linha.gravavel] at kept
  | some quantidade =>
    simp only [Linha.gravavel, Option.any_some, Bool.and_eq_true, decide_eq_true_eq] at kept
    exact kept.2

theorem linha_item {pedidoId : Nat} {linha : Linha} (kept : linha.gravavel = true) :
    (⟨some (linha.item pedidoId).produtoId, some (linha.item pedidoId).quantidade⟩ : Linha) =
      linha := by
  obtain ⟨produtoId, quantidade⟩ := linha
  cases produtoId with
  | none => simp [Linha.gravavel, naoZero] at kept
  | some produtoId =>
    cases quantidade with
    | none => simp [Linha.gravavel] at kept
    | some quantidade => rfl

theorem regravar_ignorada {pedidoId : Nat} {linha : Linha} (skipped : linha.gravavel = false) :
    regravarItem pedidoId linha = pure () := by
  unfold regravarItem
  split
  next produtoId quantidade product quantity =>
    have negative : ¬ 0 < quantidade := by
      simpa [Linha.gravavel, product, quantity] using skipped
    rw [if_neg negative]
  next => rfl

/-- The loop stores the lines that pass its check, up to the first rejected INSERT. -/
theorem run_regravarItens (pedidoId : Nat) (linhas : List Linha) (w : Faulty Db) :
    let gravaveis := linhas.filter Linha.gravavel
    let loop := (each (regravarItem pedidoId) linhas).run Op.exec w
    match firstFault gravaveis.length w.faults with
    | none => loop.1 = .ok () ∧ loop.2.state = { w.state with
        pedidoItens := w.state.pedidoItens ++ gravaveis.map (Linha.item pedidoId) }
    | some k => loop.1 = .error Tx.rejeicao ∧ loop.2.state = { w.state with
        pedidoItens := w.state.pedidoItens ++ (gravaveis.take k).map (Linha.item pedidoId) } := by
  intro gravaveis loop
  simp only [gravaveis, loop]
  clear gravaveis loop
  induction linhas generalizing w with
  | nil => simp [each]
  | cons linha linhas ih =>
    cases kept : linha.gravavel with
    | false =>
      rw [each, regravar_ignorada kept, List.filter_cons_of_neg (by simp [kept])]
      exact ih w
    | true =>
      rw [each, regravar_gravavel kept, List.filter_cons_of_pos kept, List.length_cons]
      cases fault : w.faults.headD false with
      | true =>
        rw [firstFault_rejected fault, run_rejeitada _ _ fault]
        simp
      | false =>
        rw [firstFault_answered fault, run_respondida _ _ fault]
        have rest := ih ⟨w.state.novoItem (linha.item pedidoId), w.faults.tail⟩
        cases stop : firstFault (linhas.filter Linha.gravavel).length w.faults.tail with
        | none =>
          simp only [stop, Db.novoItem, List.append_assoc] at rest
          exact rest
        | some k =>
          simp only [stop, Db.novoItem, List.append_assoc] at rest
          exact rest

/-- The items become those of the request, or stay. -/
structure EdicaoInteira (corpo : CorpoItens) (w : Faulty Db) : Prop where
  erro : ∀ resposta, ((editarItens corpo).run Op.exec w).1 = .ok resposta →
    resposta.status ≠ 200 →
      (((editarItens corpo).run Op.exec w).2.state.itensDe corpo.pedidoId).Perm
        (w.state.itensDe corpo.pedidoId)
  sucesso : ∀ resposta, ((editarItens corpo).run Op.exec w).1 = .ok resposta →
    resposta.status = 200 →
      ((((editarItens corpo).run Op.exec w).2.state.itensDe corpo.pedidoId).map
        fun item => (⟨some item.produtoId, some item.quantidade⟩ : Linha)).Perm
        (corpo.itens.getD [])

/-- Every line is stored and no statement is rejected, or the DELETE is rejected, or the lines
stored before the rejected INSERT are the items that the order had. -/
def CorpoItens.Segura (corpo : CorpoItens) (w : Faulty Db) : Prop :=
  let linhas := corpo.itens.getD []
  let gravaveis := linhas.filter Linha.gravavel
  match firstFault (gravaveis.length + 1) w.faults with
  | none => ∀ linha ∈ linhas, linha.gravavel = true
  | some 0 => True
  | some (k + 1) => ((gravaveis.take k).map (Linha.item corpo.pedidoId)).Perm
      (w.state.itensDe corpo.pedidoId)

variable {corpo : CorpoItens} {w : Faulty Db}

def Db.comItens (pedidoId : Nat) (itens : List PedidoItem) (db : Db) : Db :=
  { db with pedidoItens := db.pedidoItens.filter (·.pedidoId ≠ pedidoId) ++ itens }

theorem itensDe_comItens (pedidoId : Nat) {itens : List PedidoItem} (db : Db) (id : Nat)
    (own : ∀ item ∈ itens, item.pedidoId = pedidoId) :
    (db.comItens pedidoId itens).itensDe id = if id = pedidoId then itens else db.itensDe id := by
  simp only [Db.itensDe, Db.comItens, List.filter_append, List.filter_filter]
  split
  next here =>
    subst here
    have old : db.pedidoItens.filter (fun item => decide (item.pedidoId = id) &&
        decide (item.pedidoId ≠ id)) = [] := by simp
    have new : itens.filter (fun item => decide (item.pedidoId = id)) = itens :=
      List.filter_eq_self.mpr (by simpa using own)
    rw [old, new, List.nil_append]
  next other =>
    have old : db.pedidoItens.filter (fun item => decide (item.pedidoId = id) &&
        decide (item.pedidoId ≠ pedidoId)) =
          db.pedidoItens.filter fun item => decide (item.pedidoId = id) := by
      apply List.filter_congr
      intro item _
      by_cases same : item.pedidoId = id <;> simp [same, other]
    have new : itens.filter (fun item => decide (item.pedidoId = id)) = [] := by
      apply List.filter_eq_nil_iff.mpr
      intro item member
      simpa [own item member] using Ne.symm other
    rw [old, new, List.append_nil]

/-- Once the old items are deleted, those that are stored are the order's. -/
theorem itensDe_regravados (db : Db) (pedidoId : Nat) (linhas : List Linha) :
    (db.comItens pedidoId (linhas.map (Linha.item pedidoId))).itensDe pedidoId =
      linhas.map (Linha.item pedidoId) := by
  rw [itensDe_comItens pedidoId db pedidoId, if_pos rfl]
  intro item member
  obtain ⟨linha, -, rfl⟩ := List.mem_map.mp member
  rfl

theorem run_edicaoDeItens {linhas : List Linha} (given : corpo.itens = some linhas)
    (some_line : linhas ≠ []) :
    let gravaveis := linhas.filter Linha.gravavel
    let fim := (editarItens corpo).run Op.exec w
    match firstFault (gravaveis.length + 1) w.faults with
    | none => (∃ resposta, fim.1 = .ok resposta ∧ resposta.status = 200) ∧
        fim.2.state = w.state.comItens corpo.pedidoId (gravaveis.map (Linha.item corpo.pedidoId))
    | some 0 => (∃ resposta, fim.1 = .ok resposta ∧ resposta.status = 500) ∧
        fim.2.state = w.state
    | some (k + 1) => (∃ resposta, fim.1 = .ok resposta ∧ resposta.status = 500) ∧
        fim.2.state = w.state.comItens corpo.pedidoId
          ((gravaveis.take k).map (Linha.item corpo.pedidoId)) := by
  obtain ⟨linha, linhas, rfl⟩ := List.exists_cons_of_ne_nil some_line
  intro gravaveis fim
  simp only [gravaveis, fim]
  rw [editarItens, given, run_handle]
  cases fault : w.faults.headD false with
  | true =>
    rw [firstFault_rejected fault, run_rejeitada _ _ fault]
    exact ⟨⟨_, rfl, rfl⟩, rfl⟩
  | false =>
    rw [firstFault_answered fault, run_respondida _ _ fault, run_bind]
    have loop := run_regravarItens corpo.pedidoId (linha :: linhas)
      ⟨(Sql.sem (.deleteItens corpo.pedidoId) w.state).2, w.faults.tail⟩
    cases stop : firstFault ((linha :: linhas).filter Linha.gravavel).length w.faults.tail with
    | none =>
      simp only [stop, Option.map_none] at loop ⊢
      rw [← Prod.eta ((each _ _).run Op.exec _), loop.1]
      exact ⟨⟨_, rfl, rfl⟩, loop.2⟩
    | some k =>
      simp only [stop, Option.map_some] at loop ⊢
      rw [← Prod.eta ((each _ _).run Op.exec _), loop.1]
      exact ⟨⟨_, rfl, rfl⟩, loop.2⟩

/-- An edit is all or nothing exactly if it stores every line, or stops where the order has
the items it had. -/
theorem edicaoInteira_iff (corpo : CorpoItens) (w : Faulty Db) :
    EdicaoInteira corpo w ↔ corpo.Segura w := by
  by_cases empty : corpo.itens.getD [] = []
  · have refused : (editarItens corpo).run Op.exec w = (.ok ⟨400, "Itens inválidos", none⟩, w) := by
      obtain ⟨pedidoId, itens⟩ := corpo
      rcases itens with _ | _ | ⟨item, itens⟩
      · rfl
      · rfl
      · simp at empty
    have safe : corpo.Segura w := by
      rw [CorpoItens.Segura, empty, List.filter_nil, List.length_nil]
      cases fault : w.faults.headD false with
      | true => simp [firstFault_rejected fault]
      | false => simp [firstFault_answered fault]
    refine iff_of_true ⟨fun r same failed => ?_, fun r same success => ?_⟩ safe
    · rw [refused]
    · rw [refused, Except.ok.injEq] at same
      simp [← same] at success
  · obtain ⟨linhas, given⟩ : ∃ linhas, corpo.itens = some linhas := by
      cases given : corpo.itens with
      | none => simp [given] at empty
      | some linhas => exact ⟨linhas, rfl⟩
    rw [given, Option.getD_some] at empty
    have run := run_edicaoDeItens (w := w) given empty
    simp only [CorpoItens.Segura, given, Option.getD_some]
    rcases stop : firstFault ((linhas.filter Linha.gravavel).length + 1) w.faults with _ | _ | k
    · simp only [stop] at run ⊢
      obtain ⟨⟨resposta, answer, status⟩, state⟩ := run
      have items := (congrArg (Db.itensDe · corpo.pedidoId) state).trans (itensDe_regravados ..)
      have lines : ((linhas.filter Linha.gravavel).map (Linha.item corpo.pedidoId)).map
          (fun item => (⟨some item.produtoId, some item.quantidade⟩ : Linha)) =
            linhas.filter Linha.gravavel := by
        rw [List.map_map, List.map_congr_left, List.map_id]
        intro linha member
        exact linha_item (List.mem_filter.mp member).2
      constructor
      · rintro ⟨-, success⟩
        have all := success resposta answer status
        rw [items, lines, given, Option.getD_some] at all
        exact List.filter_eq_self.mp (List.filter_sublist.eq_of_length all.length_eq)
      · intro all
        refine ⟨fun r same failed => ?_, fun r _ _ => ?_⟩
        · rw [answer, Except.ok.injEq] at same
          exact absurd (same ▸ status) failed
        · rw [items, lines, given, Option.getD_some, List.filter_eq_self.mpr all]
    · simp only [stop] at run ⊢
      obtain ⟨⟨resposta, answer, status⟩, state⟩ := run
      refine iff_of_true ⟨fun r _ _ => ?_, fun r same success => ?_⟩ trivial
      · rw [state]
      · rw [answer, Except.ok.injEq] at same
        simp [← same, status] at success
    · simp only [stop] at run ⊢
      obtain ⟨⟨resposta, answer, status⟩, state⟩ := run
      have items := (congrArg (Db.itensDe · corpo.pedidoId) state).trans (itensDe_regravados ..)
      constructor
      · rintro ⟨failure, -⟩
        have same := failure resposta answer (by simp [status])
        rwa [items] at same
      · intro same
        refine ⟨fun r _ _ => ?_, fun r answered success => ?_⟩
        · rwa [items]
        · rw [answer, Except.ok.injEq] at answered
          simp [← answered, status] at success

def pedidoDeUmItem : Db :=
  { pedidosDiarios := .ofList [{ clienteNumero := "5511999990000", status := .novo }]
    pedidoItens := [⟨1, 1, 2⟩] }

/-- Its item is deleted and the new one is rejected. -/
theorem itens_perdidos :
    ¬ EdicaoInteira ⟨1, some [⟨some 2, some 3⟩]⟩ ⟨pedidoDeUmItem, [false, true]⟩ := by
  rintro ⟨failure, -⟩
  have same := failure ⟨500, "Erro ao editar itens do pedido", none⟩ rfl (by decide)
  have length := same.length_eq
  revert length
  decide

end EditarItens
end IceClube
