import Mathlib.Tactic.Ring
import IceClube.Passos
import IceClube.PelaMetade
import IceClube.Statements

/-! The items of a manual order and the total of its sale, while further orders are created
and items are edited, one request after the other. An edition replaces the items and leaves
the total alone. -/
namespace IceClube

open Coop Prog

inductive ReqItens where
  | pedidoManual (corpo : CorpoPedido)
  | editarItens (corpo : CorpoItens)
  deriving DecidableEq, Repr

def ReqItens.rota : ReqItens → Rota Resposta
  | .pedidoManual corpo => IceClube.pedidoManual corpo
  | .editarItens corpo => IceClube.editarItens corpo

def pedidosEmSerie : System ReqItens Nat String Op.Res Resposta (Faulty Db) where
  exec := Op.exec
  sync _ := true
  listeners requisicao := [requisicao.rota]
  drift dt w := ⟨{ w.state with agora := w.state.agora + dt }, w.faults⟩

section Preco

/-- A product without a row has no price to count. -/
def Db.precoDe (db : Db) (produtoId : Nat) : ℚ :=
  ((db.estoque.get produtoId).map (·.valorUnitario)).getD 0

def Db.somaDe (db : Db) (itens : List PedidoItem) : ℚ :=
  (itens.map fun item => item.quantidade * db.precoDe item.produtoId).sum

def Db.totalDe (db : Db) (pedido : Pedido) : Option ℚ :=
  (pedido.vendaId.bind db.vendas.get).map (·.valorTotal)

/-- The order has items, all of a positive quantity, and its sale has their price. -/
structure PedidoCerto (db : Db) (id : Nat) (pedido : Pedido) : Prop where
  algum : db.itensDe id ≠ []
  positivos : ∀ item ∈ db.itensDe id, 0 < item.quantidade
  total : db.totalDe pedido = some (db.somaDe (db.itensDe id))

/-- The orders numbered from `n` on. -/
def PedidosCertos (n : Nat) (db : Db) : Prop :=
  ∀ id pedido, n ≤ id → db.pedidosDiarios.get id = some pedido → PedidoCerto db id pedido

@[simp] theorem somaDe_nil (db : Db) : db.somaDe [] = 0 := rfl

theorem somaDe_append (db : Db) (xs ys : List PedidoItem) :
    db.somaDe (xs ++ ys) = db.somaDe xs + db.somaDe ys := by
  simp [Db.somaDe]

theorem somaDe_estoque {db db' : Db} (same : db'.estoque = db.estoque) (itens : List PedidoItem) :
    db'.somaDe itens = db.somaDe itens := by
  simp only [Db.somaDe, Db.precoDe, same]

/-- The total that the route computes is the price of the lines as they are stored. -/
theorem valorTotal_soma (db : Db) (id : Nat) (linhas : List Linha) {inicio total : ℚ}
    (value : valorTotal db (some inicio) linhas = some total) :
    total = inicio + db.somaDe (linhas.map (Linha.item id)) := by
  induction linhas generalizing inicio with
  | nil =>
    obtain rfl := Option.some.inj value
    simp
  | cons linha linhas ih =>
    have absent : ∀ linhas, valorTotal db none linhas = none := by
      intro linhas
      induction linhas with
      | nil => rfl
      | cons linha linhas ih => exact ih
    rw [valorTotal] at value
    cases product : linha.produtoId with
    | none => simp [product, absent] at value
    | some produtoId =>
      cases row : db.estoque.get produtoId with
      | none => simp [product, row, absent] at value
      | some e =>
        cases quantity : linha.quantidade with
        | none => simp [product, row, quantity, absent] at value
        | some quantidade =>
          simp only [product, row, quantity, Option.bind_some, Option.map_some] at value
          rw [ih value]
          simp only [Db.somaDe, Db.precoDe, Linha.item, List.map_cons, List.sum_cons, product,
            quantity, Option.getD_some, row, Option.map_some]
          ring

end Preco

section Criacao

/-- The request passes its checks and no statement of it is rejected. -/
def CorpoPedido.Cria (corpo : CorpoPedido) (w : Faulty Db) : Prop :=
  corpo.recusa = none ∧ w.faults.headD false = false ∧ w.faults.tail.headD false = false ∧
    (Tx.pedidoManual corpo).Confirma ⟨w.state, w.faults.tail.tail⟩

/-- A manual order is written as a whole, or nothing is. -/
theorem run_pedidoManual (corpo : CorpoPedido) (w : Faulty Db) :
    (corpo.Cria w ∧ ∃ total, valorTotal w.state (some 0) corpo.linhas = some total ∧
      ((pedidoManual corpo).run Op.exec w).2.state = w.state.comPedido corpo total) ∨
    (¬ corpo.Cria w ∧ w.state.MesmasLinhas ((pedidoManual corpo).run Op.exec w).2.state) := by
  rw [pedidoManual, CorpoPedido.Cria]
  cases refused : corpo.recusa with
  | some resposta => exact .inr ⟨by simp, .refl _⟩
  | none =>
    cases connection : w.faults.headD false with
    | true =>
      dsimp only
      rw [run_rejeitada _ _ connection]
      exact .inr ⟨by simp, .refl _⟩
    | false =>
      dsimp only
      rw [run_respondida _ _ connection]
      cases begun : w.faults.tail.headD false with
      | true =>
        rw [run_rejeitada _ _ (w := ⟨_, w.faults.tail⟩) begun]
        exact .inr ⟨by simp, .refl _⟩
      | false =>
        rw [run_respondida _ _ (w := ⟨_, w.faults.tail⟩) begun]
        change (_ ∧ ∃ total, _ ∧ ((Tx.pedidoManual corpo).executar
          ⟨w.state, w.faults.tail.tail⟩).2.state = _) ∨ (_ ∧ Db.MesmasLinhas _
            ((Tx.pedidoManual corpo).executar ⟨w.state, w.faults.tail.tail⟩).2.state)
        by_cases commits : (Tx.pedidoManual corpo).Confirma ⟨w.state, w.faults.tail.tail⟩
        · exact .inl ⟨⟨rfl, rfl, rfl, commits⟩, Tx.executar_pedidoManual commits⟩
        · exact .inr ⟨fun creates => commits creates.2.2.2, (Tx.executar_recusa commits).2⟩

theorem itensDe_comPedido (corpo : CorpoPedido) (total : ℚ) (db : Db) (id : Nat) :
    (db.comPedido corpo total).itensDe id =
      db.itensDe id ++ if id = db.pedidosDiarios.next then
        corpo.linhas.map (Linha.item id) else [] := by
  simp only [Db.itensDe, pedidoItens_comPedido, List.filter_append]
  congr 1
  split
  next here =>
    subst here
    apply List.filter_eq_self.mpr
    intro item member
    obtain ⟨linha, _, rfl⟩ := List.mem_map.mp member
    simp [Linha.item]
  next other =>
    apply List.filter_eq_nil_iff.mpr
    intro item member
    obtain ⟨linha, _, rfl⟩ := List.mem_map.mp member
    exact fun own => other (of_decide_eq_true own).symm

end Criacao

section Edicao

def CorpoItens.linhas (corpo : CorpoItens) : List Linha := corpo.itens.getD []

/-- The rows that an edition leaves, when its deletion was not rejected: those before the first
rejection. -/
def CorpoItens.regravados (corpo : CorpoItens) (faults : List Bool) : List PedidoItem :=
  let gravaveis := corpo.linhas.filter Linha.gravavel
  match firstFault gravaveis.length faults with
  | none => gravaveis.map (Linha.item corpo.pedidoId)
  | some k => (gravaveis.take k).map (Linha.item corpo.pedidoId)

def CorpoItens.Apaga (corpo : CorpoItens) (w : Faulty Db) : Prop :=
  corpo.linhas ≠ [] ∧ w.faults.headD false = false

theorem run_editarItens (corpo : CorpoItens) (w : Faulty Db) :
    (corpo.Apaga w ∧ ((editarItens corpo).run Op.exec w).2.state =
      w.state.comItens corpo.pedidoId (corpo.regravados w.faults.tail)) ∨
    (¬ corpo.Apaga w ∧ ((editarItens corpo).run Op.exec w).2.state = w.state) := by
  rw [CorpoItens.Apaga, CorpoItens.regravados, CorpoItens.linhas]
  cases given : corpo.itens with
  | none => exact .inr ⟨by simp, by rw [editarItens, given]; rfl⟩
  | some linhas =>
    by_cases empty : linhas = []
    · exact .inr ⟨by simp [empty], by rw [editarItens, given, empty]; rfl⟩
    have run := run_edicaoDeItens (w := w) given empty
    rw [Option.getD_some, and_iff_right empty]
    cases fault : w.faults.headD false with
    | true =>
      simp only [firstFault_rejected fault] at run
      exact .inr ⟨by simp, run.2⟩
    | false =>
      simp only [firstFault_answered fault] at run
      refine .inl ⟨rfl, ?_⟩
      cases stop : firstFault (linhas.filter Linha.gravavel).length w.faults.tail with
      | none =>
        simp only [stop, Option.map_none] at run
        exact run.2
      | some k =>
        simp only [stop, Option.map_some] at run
        exact run.2

theorem regravados_positivos (corpo : CorpoItens) (faults : List Bool) :
    ∀ item ∈ corpo.regravados faults, item.pedidoId = corpo.pedidoId ∧ 0 < item.quantidade := by
  intro item member
  obtain ⟨linha, inside, rfl⟩ : ∃ linha ∈ corpo.linhas.filter Linha.gravavel,
      linha.item corpo.pedidoId = item := by
    rw [CorpoItens.regravados] at member
    split at member
    · exact List.mem_map.mp member
    · obtain ⟨linha, inside, same⟩ := List.mem_map.mp member
      exact ⟨linha, List.mem_of_mem_take inside, same⟩
  exact ⟨rfl, gravavel_positiva (List.mem_filter.mp inside).2⟩

end Edicao
section Passo

variable {n : Nat} {db : Db}

theorem totalDe_novaVenda {pedido : Pedido} {total : ℚ} (venda : Venda) {db' : Db}
    (sales : db'.vendas = db.vendas.insert venda) (known : db.totalDe pedido = some total) :
    db'.totalDe pedido = some total := by
  simp only [Db.totalDe, sales, Option.map_eq_some_iff, Option.bind_eq_some_iff] at known ⊢
  obtain ⟨v, ⟨vendaId, named, found⟩, price⟩ := known
  exact ⟨v, ⟨vendaId, named, Table.get_insert_of_get venda found⟩, price⟩

theorem certo_comPedido {corpo : CorpoPedido} {total : ℚ} {id : Nat} {pedido : Pedido}
    (other : id ≠ db.pedidosDiarios.next) (certo : PedidoCerto db id pedido) :
    PedidoCerto (db.comPedido corpo total) id pedido := by
  have itens : (db.comPedido corpo total).itensDe id = db.itensDe id := by
    rw [itensDe_comPedido, if_neg other, List.append_nil]
  constructor
  · rw [itens]
    exact certo.algum
  · rw [itens]
    exact certo.positivos
  · rw [itens, somaDe_estoque (estoque_comPedido corpo total db)]
    exact totalDe_novaVenda _ (vendas_comPedido corpo total db) certo.total

/-- What the new order owes: positive lines, and under its number nothing that has a price. -/
def CorpoPedido.Acerta (corpo : CorpoPedido) (db : Db) : Prop :=
  (∀ linha ∈ corpo.linhas, ∀ quantidade, linha.quantidade = some quantidade → 0 < quantidade) ∧
    (∀ item ∈ db.itensDe db.pedidosDiarios.next, 0 < item.quantidade) ∧
    db.somaDe (db.itensDe db.pedidosDiarios.next) = 0

theorem pedido_comPedido (corpo : CorpoPedido) (total : ℚ) (db : Db) (id : Nat) :
    (db.comPedido corpo total).pedidosDiarios.get id =
      if id = db.pedidosDiarios.next then
        some {
          clienteNumero := corpo.clienteNumero, status := .novo,
          vendaId := some db.vendas.next, data := db.hoje }
      else db.pedidosDiarios.get id := by
  rw [pedidos_comPedido]
  rfl

theorem certo_novo {corpo : CorpoPedido} {total : ℚ} {pedido : Pedido}
    (lines : corpo.linhas ≠ [])
    (quantities : ∀ linha ∈ corpo.linhas, linha.quantidade.isSome)
    (value : valorTotal db (some 0) corpo.linhas = some total)
    (sale : pedido.vendaId = some db.vendas.next) :
    PedidoCerto (db.comPedido corpo total) db.pedidosDiarios.next pedido ↔ corpo.Acerta db := by
  have itens : (db.comPedido corpo total).itensDe db.pedidosDiarios.next =
      db.itensDe db.pedidosDiarios.next ++
        corpo.linhas.map (Linha.item db.pedidosDiarios.next) := by
    rw [itensDe_comPedido, if_pos rfl]
  have price := valorTotal_soma db db.pedidosDiarios.next corpo.linhas value
  have stored : (db.comPedido corpo total).totalDe pedido = some total := by
    simp [Db.totalDe, sale, vendas_comPedido, Table.get_insert, CorpoPedido.venda]
  have positive : (∀ item ∈ corpo.linhas.map (Linha.item db.pedidosDiarios.next),
      0 < item.quantidade) ↔ ∀ linha ∈ corpo.linhas, ∀ quantidade,
        linha.quantidade = some quantidade → 0 < quantidade := by
    rw [List.forall_mem_map]
    apply forall₂_congr
    intro linha member
    obtain ⟨quantidade, quantity⟩ := Option.isSome_iff_exists.mp (quantities linha member)
    simp [Linha.item, quantity]
  have sums : some total = some ((db.comPedido corpo total).somaDe
      ((db.comPedido corpo total).itensDe db.pedidosDiarios.next)) ↔
        db.somaDe (db.itensDe db.pedidosDiarios.next) = 0 := by
    rw [itens, somaDe_estoque (estoque_comPedido corpo total db), somaDe_append, price,
      Option.some.injEq, zero_add, right_eq_add]
  constructor
  · intro certo
    have all := certo.positivos
    rw [itens, List.forall_mem_append, positive] at all
    have total := certo.total
    rw [stored, sums] at total
    exact ⟨all.2, all.1, total⟩
  · rintro ⟨novas, antigas, nada⟩
    constructor
    · rw [itens]
      simp [lines]
    · rw [itens, List.forall_mem_append, positive]
      exact ⟨antigas, novas⟩
    · rw [stored, sums]
      exact nada

theorem certos_comPedido {corpo : CorpoPedido} {total : ℚ} (bound : n ≤ db.pedidosDiarios.next)
    (law : PedidosCertos n db) (lines : corpo.linhas ≠ [])
    (quantities : ∀ linha ∈ corpo.linhas, linha.quantidade.isSome)
    (value : valorTotal db (some 0) corpo.linhas = some total) :
    PedidosCertos n (db.comPedido corpo total) ↔ corpo.Acerta db := by
  constructor
  · intro all
    have own := all db.pedidosDiarios.next _ bound
      ((pedido_comPedido corpo total db _).trans (if_pos rfl))
    exact (certo_novo lines quantities value rfl).mp own
  · intro acerta id pedido later found
    rw [pedido_comPedido] at found
    split at found
    next here =>
      subst here
      obtain rfl := Option.some.inj found
      exact (certo_novo lines quantities value rfl).mpr acerta
    next other => exact certo_comPedido other (law id pedido later found)

/-- What an edition of a created order owes: some row, and together the price of the sale. -/
def CorpoItens.Acerta (n : Nat) (corpo : CorpoItens) (w : Faulty Db) : Prop :=
  n ≤ corpo.pedidoId → ∀ pedido, w.state.pedidosDiarios.get corpo.pedidoId = some pedido →
    corpo.regravados w.faults.tail ≠ [] ∧
      w.state.totalDe pedido = some (w.state.somaDe (corpo.regravados w.faults.tail))

theorem certos_comItens {corpo : CorpoItens} {w : Faulty Db} (law : PedidosCertos n w.state) :
    PedidosCertos n (w.state.comItens corpo.pedidoId (corpo.regravados w.faults.tail)) ↔
      corpo.Acerta n w := by
  have rows := regravados_positivos corpo w.faults.tail
  have itens : ∀ id, (∀ item ∈ corpo.regravados w.faults.tail, item.pedidoId = corpo.pedidoId) →
      (w.state.comItens corpo.pedidoId (corpo.regravados w.faults.tail)).itensDe id =
        if id = corpo.pedidoId then corpo.regravados w.faults.tail else w.state.itensDe id :=
    itensDe_comItens corpo.pedidoId w.state
  constructor
  · intro all later pedido found
    have own := all corpo.pedidoId pedido later found
    have here := itens corpo.pedidoId fun item member => (rows item member).1
    rw [if_pos rfl] at here
    exact ⟨here ▸ own.algum, here ▸ own.total⟩
  · intro acerta id pedido later found
    have now := itens id fun item member => (rows item member).1
    split at now
    next here =>
      subst here
      obtain ⟨some_row, price⟩ := acerta later pedido found
      constructor
      · rw [now]
        exact some_row
      · rw [now]
        intro item member
        exact (rows item member).2
      · rw [now]
        exact price
    next =>
      have certo := law id pedido later found
      constructor
      · rw [now]
        exact certo.algum
      · rw [now]
        exact certo.positivos
      · rw [now]
        exact certo.total

theorem certos_desfeito {db : Db} (law : PedidosCertos n db) (depois : Db) :
    PedidosCertos n (db.desfeito depois) := by
  intro id pedido later found
  obtain ⟨algum, positivos, total⟩ := law id pedido later found
  exact ⟨algum, positivos, total⟩

def ReqItens.Acerta (n : Nat) (w : Faulty Db) : ReqItens → Prop
  | .pedidoManual corpo => corpo.Cria w → corpo.Acerta w.state
  | .editarItens corpo => corpo.Apaga w → corpo.Acerta n w

theorem linhas_recusa {corpo : CorpoPedido} (passes : corpo.recusa = none) : corpo.linhas ≠ [] := by
  intro empty
  have incomplete : corpo.completo = false := by simp [CorpoPedido.completo, empty]
  rw [CorpoPedido.recusa] at passes
  split at passes
  · contradiction
  · simp [incomplete] at passes

theorem certos_requisicao {w : Faulty Db} (bound : n ≤ w.state.pedidosDiarios.next)
    (law : PedidosCertos n w.state) (requisicao : ReqItens) :
    PedidosCertos n (requisicao.rota.run Op.exec w).2.state ↔ requisicao.Acerta n w := by
  cases requisicao with
  | pedidoManual corpo =>
    simp only [ReqItens.rota, ReqItens.Acerta]
    rcases run_pedidoManual corpo w with ⟨creates, total, value, written⟩ | ⟨refused, depois, same⟩
    · have quantities := fun linha member => (creates.2.2.2.2.1 linha member).2
      rw [written, certos_comPedido bound law (linhas_recusa creates.1) quantities value]
      exact ⟨fun acerta _ => acerta, fun acerta => acerta creates⟩
    · rw [same]
      exact iff_of_true (certos_desfeito law depois) fun creates => absurd creates refused
  | editarItens corpo =>
    simp only [ReqItens.rota, ReqItens.Acerta]
    rcases run_editarItens corpo w with ⟨deletes, written⟩ | ⟨refused, same⟩
    · rw [written, certos_comItens law]
      exact ⟨fun acerta _ => acerta, fun acerta => acerta deletes⟩
    · rw [same]
      exact iff_of_true law fun deletes => absurd deletes refused

theorem proximo_requisicao (w : Faulty Db) (requisicao : ReqItens) :
    w.state.pedidosDiarios.next ≤
      (requisicao.rota.run Op.exec w).2.state.pedidosDiarios.next := by
  cases requisicao with
  | pedidoManual corpo =>
    rcases run_pedidoManual corpo w with ⟨_, total, _, written⟩ | ⟨_, depois, same⟩
    · rw [ReqItens.rota, written, pedidos_comPedido]
      exact Nat.le_succ _
    · rw [ReqItens.rota, same]
      exact Nat.le_max_left _ _
  | editarItens corpo =>
    rcases run_editarItens corpo w with ⟨_, written⟩ | ⟨_, same⟩
    · rw [ReqItens.rota, written]
      rfl
    · rw [ReqItens.rota, same]

end Passo

section Serie

/-- After every request of the run, each order created since its start is right. -/
def SemprePedidosCertos (w : Faulty Db) (passos : List (Action ReqItens Nat)) : Prop :=
  ∀ pre post, passos = pre ++ post →
    PedidosCertos w.state.pedidosDiarios.next (pedidosEmSerie.execute pre ⟨w, []⟩).state.state

/-- Between requests none is under way, and orders are numbered from `n` on. -/
def EmSerie (n : Nat) (c : Config String Op.Res Resposta (Faulty Db)) : Prop :=
  (∀ p ∈ c.tasks, p.Ended) ∧ n ≤ c.state.state.pedidosDiarios.next

theorem emSerie_advance {n : Nat} (c : Config String Op.Res Resposta (Faulty Db))
    (a : Action ReqItens Nat) (serie : EmSerie n c) : EmSerie n (pedidosEmSerie.advance a c) := by
  obtain ⟨ended, bound⟩ := serie
  obtain ⟨ended', state⟩ := System.advance_serial (M := pedidosEmSerie) (fun _ => rfl) ended a
  refine ⟨ended', ?_⟩
  rw [state]
  cases a with
  | arrive requisicao => exact Nat.le_trans bound (proximo_requisicao c.state requisicao)
  | step task => exact bound
  | drift dt => exact bound

theorem certos_advance {n : Nat} (c : Config String Op.Res Resposta (Faulty Db))
    (a : Action ReqItens Nat) (serie : EmSerie n c) (law : PedidosCertos n c.state.state) :
    PedidosCertos n (pedidosEmSerie.advance a c).state.state ↔
      ∀ requisicao, a = .arrive requisicao → requisicao.Acerta n c.state := by
  obtain ⟨ended, bound⟩ := serie
  obtain ⟨_, state⟩ := System.advance_serial (M := pedidosEmSerie) (fun _ => rfl) ended a
  rw [state]
  cases a with
  | arrive requisicao =>
    have step := certos_requisicao bound law requisicao
    simp only [Action.arrive.injEq, forall_eq']
    exact step
  | step task =>
    have still : PedidosCertos n c.state.state := law
    exact iff_of_true still (by simp)
  | drift dt =>
    have still : PedidosCertos n { c.state.state with agora := c.state.state.agora + dt } := by
      intro id pedido later found
      have certo := law id pedido later found
      exact ⟨certo.algum, certo.positivos, certo.total⟩
    exact iff_of_true still (by simp)

theorem semprePedidosCertos_iff (w : Faulty Db) (passos : List (Action ReqItens Nat)) :
    SemprePedidosCertos w passos ↔
      pedidosEmSerie.Runs (fun c a => ∀ requisicao, a = .arrive requisicao →
        requisicao.Acerta w.state.pedidosDiarios.next c.state) passos ⟨w, []⟩ := by
  have initial : PedidosCertos w.state.pedidosDiarios.next w.state := by
    intro id pedido later found
    have := Table.lt_next found
    omega
  have start : EmSerie w.state.pedidosDiarios.next ⟨w, []⟩ := ⟨by simp, Nat.le_refl _⟩
  rw [SemprePedidosCertos]
  exact (System.always_iff_runs_within (M := pedidosEmSerie)
    (I := fun s => PedidosCertos w.state.pedidosDiarios.next s.state) emSerie_advance
    certos_advance start).trans (and_iff_right initial)

def umProdutoA5 : Db where
  estoque := .ofList [{ nome := "Kiwi", quantidade := 10, medida := "un", valorUnitario := 5 }]

def umaViraDuas : List (Action ReqItens Nat) :=
  [.arrive (.pedidoManual {
      clienteNumero := "5511", formaPagamento := "pix",
      itens := .lista [⟨some 1, some 1⟩] }),
    .arrive (.editarItens ⟨1, some [⟨some 1, some 2⟩]⟩)]

theorem uma_vira_duas : ¬ SemprePedidosCertos ⟨umProdutoA5, []⟩ umaViraDuas := by
  intro always
  have final := (always umaViraDuas [] rfl 1
    { clienteNumero := "5511", status := .novo, vendaId := some 1 } (by decide +kernel)
    (by decide +kernel)).total
  revert final
  decide +kernel

end Serie
end IceClube
