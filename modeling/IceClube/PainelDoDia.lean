import Mathlib.Algebra.BigOperators.Ring.List
import IceClube.Ranking
import IceClube.VendasAgrupadas

/-! `GET /api/dashboard` and `GET /api/resumo`: the figures of the day, the best clients and
products, and the revenue of each of the last days. -/
namespace IceClube

open Coop Prog Joins Ranking

/-- The shop with the categories of its products, which the page prints, and the digits that `AVG`
keeps. -/
structure LojaDoPainel extends LojaAgrupada where
  categoria : Nat → Option String := fun _ => none
  casas : ℚ → ℚ := id

structure VendasInfo where
  totalVendas : Nat
  totalReceita : Option ℚ
  valorMedio : Option ℚ
  deriving DecidableEq, Repr

structure ProdutoVendido where
  id : Nat
  nome : String
  categoria : Option String
  quantidadeVendida : ℚ
  receitaTotal : ℚ
  deriving DecidableEq, Repr

structure ReceitaDoDia where
  data : Nat
  receita : ℚ
  deriving DecidableEq, Repr

structure Resumo where
  totalVendas : Nat
  entregasRealizadas : Nat
  entregasFalha : Nat
  deriving DecidableEq, Repr

structure Dashboard where
  totalVendas : Nat
  totalReceita : ℚ
  valorMedio : ℚ
  baixoEstoque : Nat
  topCompradores : List ClienteListado
  topProdutos : List ProdutoVendido
  vendasDiarias : List ReceitaDoDia
  deriving DecidableEq, Repr

inductive SqlDashboard where
  | vendasInfo | baixoEstoque | topCompradores | itensVendidos | vendasDiarias | resumo

@[reducible] def SqlDashboard.Res : SqlDashboard → Type
  | .vendasInfo => VendasInfo
  | .baixoEstoque => Nat
  | .topCompradores => List ClienteListado
  | .itensVendidos => List ProdutoVendido
  | .vendasDiarias => List ReceitaDoDia
  | .resumo => Resumo

namespace LojaDoPainel

variable (x : LojaDoPainel)

/-- `DATE(data)`. -/
def diaDaVenda (v : Nat × Venda) : Option Nat := (x.colunasVenda v.1).data.map dia

def vendasDoDia (d : Nat) : List (Nat × Venda) :=
  x.db.vendas.rows.filter fun v => x.diaDaVenda v = some d

/-- `SUM` and `AVG` are NULL of no row. -/
def vendasInfo : VendasInfo :=
  let valores := (x.vendasDoDia x.db.hoje).map (·.2.valorTotal)
  { totalVendas := valores.length
    totalReceita := if valores = [] then none else some valores.sum
    valorMedio := if valores = [] then none else some (x.casas (valores.sum / valores.length)) }

def baixoEstoque : Nat := x.db.estoque.rows.countP fun e => e.2.quantidade < 10

def clientes : List ClienteListado :=
  (groupBy x.chaveDoCliente x.db.vendas.rows).map x.clienteListado

/-- `DATE_SUB(CURDATE(), INTERVAL 30 DAY)`. -/
def desde : Nat := x.db.hoje - 30

/-- The items of the recent orders, whatever became of the orders, with their products. -/
def itensRecentes : List (PedidoItem × Estoque) :=
  x.db.pedidoItens.filterMap fun item => do
    let pedido ← x.db.pedidosDiarios.get item.pedidoId
    let produto ← x.db.estoque.get item.produtoId
    if x.desde ≤ pedido.data then some (item, produto) else none

/-- The row of a group, priced with what the product costs now. -/
def produtoVendido (linha : PedidoItem × Estoque) (grupo : List (PedidoItem × Estoque)) :
    ProdutoVendido where
  id := linha.1.produtoId
  nome := linha.2.nome
  categoria := x.categoria linha.1.produtoId
  quantidadeVendida := (grupo.map (·.1.quantidade)).sum
  receitaTotal := (grupo.map fun l => l.1.quantidade * l.2.valorUnitario).sum

def vendidos : List ProdutoVendido :=
  (groupBy (·.1.produtoId) x.itensRecentes).filterMap fun g => g.head?.map (x.produtoVendido · g)

/-- The sales since `desde`, each as its day and its total. -/
def receitas : List (Nat × ℚ) :=
  x.db.vendas.rows.filterMap fun v =>
    ((x.diaDaVenda v).filter (x.desde ≤ ·)).map fun d => (d, v.2.valorTotal)

def receitaDoDia (linha : Nat × ℚ) (grupo : List (Nat × ℚ)) : ReceitaDoDia :=
  ⟨linha.1, (grupo.map (·.2)).sum⟩

def dias : List ReceitaDoDia :=
  (groupBy (·.1) x.receitas).filterMap fun g => g.head?.map (receitaDoDia · g)

def resumo : Resumo :=
  let entregas (status : StatusEntrega) : Nat :=
    x.db.entregas.rows.countP fun e => e.2.status = status ∧ e.2.dataPedido = x.db.hoje
  ⟨(x.vendasDoDia x.db.hoje).length, entregas .finalizado, entregas .falha⟩

end LojaDoPainel

def SqlDashboard.sem : (q : SqlDashboard) → LojaDoPainel → q.Res × LojaDoPainel
  | .vendasInfo, x => (x.vendasInfo, x)
  | .baixoEstoque, x => (x.baixoEstoque, x)
  | .topCompradores, x => (first (·.valorTotal) 5 x.clientes, x)
  | .itensVendidos, x => (first (·.quantidadeVendida) 5 x.vendidos, x)
  | .vendasDiarias, x => (x.dias.insertionSort fun r s => r.data ≤ s.data, x)
  | .resumo, x => (x.resumo, x)

section Rotas

abbrev RotaDeDashboard := Prog String SqlDashboard.Res

def buscarDashboard : RotaDeDashboard (Atendida Dashboard) := do
  let vendasInfo ← ask SqlDashboard.vendasInfo
  let baixoEstoque ← ask SqlDashboard.baixoEstoque
  let topCompradores ← ask SqlDashboard.topCompradores
  let topProdutos ← ask SqlDashboard.itensVendidos
  let vendasDiarias ← ask SqlDashboard.vendasDiarias
  pure (.ok
    { totalVendas := vendasInfo.totalVendas
      totalReceita := vendasInfo.totalReceita.getD 0
      valorMedio := vendasInfo.valorMedio.getD 0
      baixoEstoque, topCompradores, topProdutos, vendasDiarias })

/-- What the client gets when the statements marked in `faults` are rejected. -/
def RotaDeDashboard.responde {α : Type} (rota : RotaDeDashboard α) (x : LojaDoPainel)
    (rejection : String) (faults : List Bool) : Except String α :=
  (rota.run (Faulty.exec SqlDashboard.sem rejection) ⟨x, faults⟩).1

/-- The `try` of both routes. -/
def seBuscou {α : Type} (buscar : RotaDeDashboard (Atendida α)) (erro : String) :
    RotaDeDashboard (Atendida α) :=
  buscar.handle fun _ => pure (.error ⟨500, erro, none⟩)

def getDashboard : RotaDeDashboard (Atendida Dashboard) :=
  seBuscou buscarDashboard "Erro ao buscar dados do dashboard"

def buscarResumo : RotaDeDashboard (Atendida Resumo) := do
  let resumo ← ask SqlDashboard.resumo
  pure (.ok resumo)

def getResumo : RotaDeDashboard (Atendida Resumo) :=
  seBuscou buscarResumo "Erro ao buscar resumo"

end Rotas

def LojaDoPainel.dashboard (x : LojaDoPainel) : Dashboard where
  totalVendas := x.vendasInfo.totalVendas
  totalReceita := x.vendasInfo.totalReceita.getD 0
  valorMedio := x.vendasInfo.valorMedio.getD 0
  baixoEstoque := x.baixoEstoque
  topCompradores := first (·.valorTotal) 5 x.clientes
  topProdutos := first (·.quantidadeVendida) 5 x.vendidos
  vendasDiarias := x.dias.insertionSort fun r s => r.data ≤ s.data

/-- The figures of the page agree with the tables and with each other. -/
structure Dashboard.Confere (x : LojaDoPainel) (d : Dashboard) : Prop where
  vendas : d.totalVendas = (x.vendasDoDia x.db.hoje).length
  receita : d.totalReceita = ((x.vendasDoDia x.db.hoje).map (·.2.valorTotal)).sum
  media : d.valorMedio =
    if d.totalVendas = 0 then 0 else x.casas (d.totalReceita / d.totalVendas)
  /-- The chart has each day with sales once, in order, with the revenue of that day. -/
  ordem : d.vendasDiarias.Pairwise fun r s => r.data < s.data
  diarias : ∀ r, r ∈ d.vendasDiarias ↔ x.desde ≤ r.data ∧ x.vendasDoDia r.data ≠ [] ∧
    r.receita = ((x.vendasDoDia r.data).map (·.2.valorTotal)).sum
  /-- The best clients among groups that hold every sale of all times once. -/
  compradores : First (·.valorTotal) 5 x.clientes d.topCompradores
  compras : (x.clientes.map (·.totalVendas)).sum = x.db.vendas.rows.length
  gastos : (x.clientes.map (·.valorTotal)).sum = (x.db.vendas.rows.map (·.2.valorTotal)).sum
  /-- The best products among those of the recent orders, each once. -/
  produtos : First (·.quantidadeVendida) 5 x.vendidos d.topProdutos
  distintos : (x.vendidos.map (·.id)).Nodup
  itens : (x.vendidos.map (·.quantidadeVendida)).sum =
    (x.itensRecentes.map (·.1.quantidade)).sum
  /-- The revenue of a product is at today's price, not at what was paid. -/
  precos : ∀ p ∈ d.topProdutos, ∃ e, x.db.estoque.get p.id = some e ∧
    p.receitaTotal = p.quantidadeVendida * e.valorUnitario

section Rotas

variable {x : LojaDoPainel}

theorem fragile_buscarDashboard : Fragile buscarDashboard := by
  repeat refine fragile_bind (fragile_ask _) fun _ => ?_
  trivial

theorem fragile_buscarResumo : Fragile buscarResumo :=
  fragile_bind (fragile_ask _) fun _ => trivial

/-- Whatever statements are rejected, an answer with figures has those of the whole run. -/
theorem respondido {α : Type} {buscar : RotaDeDashboard (Atendida α)} {erro rejection : String}
    {faults : List Bool} {answer figures : α} (fragile : Fragile buscar)
    (whole : (buscar.run (Reliable SqlDashboard.sem) x).1 = .ok (.ok figures))
    (answered : (seBuscou buscar erro).responde x rejection faults = .ok (.ok answer)) :
    answer = figures := by
  rw [RotaDeDashboard.responde, seBuscou, run_handle] at answered
  cases found : buscar.run (Faulty.exec SqlDashboard.sem rejection) ⟨x, faults⟩ with
  | mk result after =>
    rw [found] at answered
    cases result with
    | error e => cases answered
    | ok r =>
      obtain ⟨-, same⟩ := (run_fragile fragile ⟨x, faults⟩ r).mp (congrArg Prod.fst found)
      rw [whole] at same
      cases answered
      exact (Except.ok.inj (Except.ok.inj same)).symm

end Rotas

section Figuras

variable (x : LojaDoPainel)

theorem mem_receitas (d : Nat) (valor : ℚ) : (d, valor) ∈ x.receitas ↔
    x.desde ≤ d ∧ ∃ v ∈ x.vendasDoDia d, v.2.valorTotal = valor := by
  simp only [LojaDoPainel.receitas, LojaDoPainel.vendasDoDia, List.mem_filterMap, List.mem_filter,
    Option.map_eq_some_iff, Option.filter_eq_some_iff, decide_eq_true_eq, Prod.mk.injEq]
  constructor
  · rintro ⟨v, member, _, ⟨day, recent⟩, rfl, rfl⟩
    exact ⟨recent, v, ⟨member, day⟩, rfl⟩
  · rintro ⟨recent, v, ⟨member, day⟩, rfl⟩
    exact ⟨v, member, d, ⟨day, recent⟩, rfl, rfl⟩

theorem receitas_do_dia {d : Nat} (recent : x.desde ≤ d) :
    (x.receitas.filter (·.1 = d)).map (·.2) = (x.vendasDoDia d).map (·.2.valorTotal) := by
  rw [LojaDoPainel.receitas, LojaDoPainel.vendasDoDia]
  induction x.db.vendas.rows with
  | nil => rfl
  | cons v rest ih =>
    cases day : x.diaDaVenda v with
    | none => simp [day, ih]
    | some d' =>
      by_cases same : d' = d
      · simp [day, same, recent, ih]
      · have left_out : x.diaDaVenda v ≠ some d := fun eq => same (Option.some.inj (day ▸ eq))
        rw [List.filter_cons_of_neg (by simpa using left_out), List.filterMap_cons, ← ih]
        cases shown : decide (x.desde ≤ d') <;> simp [day, Option.filter_some, same, shown]

theorem dias_eq : x.dias = (x.receitas.map (·.1)).dedup.map fun d =>
    (⟨d, ((x.receitas.filter (·.1 = d)).map (·.2)).sum⟩ : ReceitaDoDia) := by
  have heads (rows : List (Nat × ℚ)) := @heads_groupBy _ _ _ _ _ (fun r : Nat × ℚ => r.1) rows
    LojaDoPainel.receitaDoDia id
    (fun d => ⟨d, ((rows.filter (·.1 = d)).map (·.2)).sum⟩) fun _ _ => rfl
  exact (List.map_id _).symm.trans (heads x.receitas)

theorem mem_dias (r : ReceitaDoDia) : r ∈ x.dias ↔ x.desde ≤ r.data ∧
    x.vendasDoDia r.data ≠ [] ∧
      r.receita = ((x.vendasDoDia r.data).map (·.2.valorTotal)).sum := by
  have day (d : Nat) : d ∈ x.receitas.map (·.1) ↔ x.desde ≤ d ∧ x.vendasDoDia d ≠ [] := by
    simp only [List.mem_map, Prod.exists, mem_receitas, exists_and_right, exists_eq_right,
      ne_eq, List.eq_nil_iff_forall_not_mem, not_forall, not_not]
    constructor
    · rintro ⟨_, recent, v, venda, member, -⟩
      exact ⟨recent, v, venda, member⟩
    · rintro ⟨recent, v, venda, member⟩
      exact ⟨_, recent, v, venda, member, rfl⟩
  rw [dias_eq, List.mem_map]
  constructor
  · rintro ⟨d, member, rfl⟩
    obtain ⟨recent, sold⟩ := (day d).mp (List.mem_dedup.mp member)
    exact ⟨recent, sold, by rw [receitas_do_dia x recent]⟩
  · rintro ⟨recent, sold, total⟩
    refine ⟨r.data, List.mem_dedup.mpr ((day _).mpr ⟨recent, sold⟩), ?_⟩
    rw [receitas_do_dia x recent, ← total]

theorem dias_em_ordem :
    (x.dias.insertionSort fun r s => r.data ≤ s.data).Pairwise fun r s => r.data < s.data := by
  have once : (x.dias.map (·.data)).Nodup := by
    rw [dias_eq, List.map_map]
    exact (List.map_id _).symm ▸ List.nodup_dedup _
  have perm := List.perm_insertionSort (fun r s : ReceitaDoDia => r.data ≤ s.data) x.dias
  have apart := ((perm.map (·.data)).nodup_iff.mpr once)
  have sorted : (x.dias.insertionSort fun r s => r.data ≤ s.data).Pairwise
      fun r s => r.data ≤ s.data := by
    have : Std.Total fun r s : ReceitaDoDia => r.data ≤ s.data := ⟨fun r s => le_total _ _⟩
    have : IsTrans ReceitaDoDia fun r s => r.data ≤ s.data := ⟨fun _ _ _ => le_trans⟩
    exact List.pairwise_insertionSort _ _
  rw [List.Nodup, List.pairwise_map] at apart
  exact (sorted.and apart).imp fun both => Nat.lt_of_le_of_ne both.1 both.2

theorem compras_dos_clientes :
    (x.clientes.map (·.totalVendas)).sum = x.db.vendas.rows.length ∧
      (x.clientes.map (·.valorTotal)).sum = (x.db.vendas.rows.map (·.2.valorTotal)).sum := by
  rw [LojaDoPainel.clientes, List.map_map, List.map_map]
  exact ⟨sum_length_groupBy _, sum_groupBy _ _ _⟩

theorem itens_dos_vendidos : (x.vendidos.map (·.id)).Nodup ∧
    (x.vendidos.map (·.quantidadeVendida)).sum = (x.itensRecentes.map (·.1.quantidade)).sum := by
  constructor
  · rw [LojaDoPainel.vendidos, heads_groupBy (H := id) fun _ _ => rfl, List.map_id]
    exact List.nodup_dedup _
  · have heads (rows : List (PedidoItem × Estoque)) := @heads_groupBy _ _ _ _ _
      (fun l : PedidoItem × Estoque => l.1.produtoId) rows x.produtoVendido (·.quantidadeVendida)
      (fun k => ((rows.filter fun l => l.1.produtoId = k).map (·.1.quantidade)).sum) fun _ _ => rfl
    rw [LojaDoPainel.vendidos, heads,
      ← sum_groupBy (fun l : PedidoItem × Estoque => l.1.produtoId), groupBy, List.map_map]
    rfl

theorem preco_do_vendido {p : ProdutoVendido} (sold : p ∈ x.vendidos) :
    ∃ e, x.db.estoque.get p.id = some e ∧
      p.receitaTotal = p.quantidadeVendida * e.valorUnitario := by
  have produto {l : PedidoItem × Estoque} (member : l ∈ x.itensRecentes) :
      x.db.estoque.get l.1.produtoId = some l.2 := by
    obtain ⟨item, -, read⟩ := List.mem_filterMap.mp member
    obtain ⟨pedido, -, read⟩ := Option.bind_eq_some_iff.mp read
    obtain ⟨e, row, read⟩ := Option.bind_eq_some_iff.mp read
    split at read
    · obtain rfl := Option.some.inj read
      exact row
    · cases read
  obtain ⟨linha, member, rfl⟩ := mem_heads sold
  refine ⟨linha.2, produto member, ?_⟩
  have priced : ∀ l ∈ x.itensRecentes.filter fun l => l.1.produtoId = linha.1.produtoId,
      l.1.quantidade * l.2.valorUnitario = l.1.quantidade * linha.2.valorUnitario := by
    intro l inside
    obtain ⟨there, same⟩ := List.mem_filter.mp inside
    have row := produto there
    rw [of_decide_eq_true same, produto member] at row
    rw [Option.some.inj row]
  simp only [LojaDoPainel.produtoVendido]
  rw [List.map_congr_left priced, List.sum_map_mul_right]

theorem receita_de_hoje :
    x.dashboard.totalReceita = ((x.vendasDoDia x.db.hoje).map (·.2.valorTotal)).sum := by
  by_cases none : (x.vendasDoDia x.db.hoje).map (·.2.valorTotal) = []
  · simp [LojaDoPainel.dashboard, LojaDoPainel.vendasInfo, none]
  · simp [LojaDoPainel.dashboard, LojaDoPainel.vendasInfo, none]

theorem media_de_hoje : x.dashboard.valorMedio = if x.dashboard.totalVendas = 0 then 0 else
    x.casas (x.dashboard.totalReceita / x.dashboard.totalVendas) := by
  by_cases none : (x.vendasDoDia x.db.hoje).map (·.2.valorTotal) = []
  · simp [LojaDoPainel.dashboard, LojaDoPainel.vendasInfo, none]
  · have some : x.dashboard.totalVendas ≠ 0 := mt List.length_eq_zero_iff.mp none
    rw [receita_de_hoje, if_neg some]
    simp only [LojaDoPainel.dashboard, LojaDoPainel.vendasInfo, none, if_false, Option.getD_some]

theorem confere : x.dashboard.Confere x := by
  obtain ⟨compras, gastos⟩ := compras_dos_clientes x
  obtain ⟨distintos, itens⟩ := itens_dos_vendidos x
  refine { vendas := List.length_map _, receita := receita_de_hoje x, media := media_de_hoje x,
           ordem := dias_em_ordem x,
           diarias := fun r => (List.mem_insertionSort _).trans (mem_dias x r),
           compradores := first_spec _ 5 x.clientes, compras, gastos,
           produtos := first_spec _ 5 x.vendidos, distintos, itens,
           precos := fun p member => preco_do_vendido x ?_ }
  exact (List.mem_insertionSort _).mp (List.mem_of_mem_take member)

/-- Whatever statements are rejected: the figures of an answer agree with the tables, the two pages
count the same sales, and without a rejection there is an answer. -/
theorem dashboard_confere (rejection : String) (faults faults' : List Bool) :
    (∀ d, getDashboard.responde x rejection faults = .ok (.ok d) → d.Confere x ∧
      ∀ r, getResumo.responde x rejection faults' = .ok (.ok r) → r.totalVendas = d.totalVendas) ∧
    (getDashboard.run (Reliable SqlDashboard.sem) x).1 = .ok (.ok x.dashboard) := by
  refine ⟨fun d answered => ?_, rfl⟩
  obtain rfl := respondido fragile_buscarDashboard rfl answered
  refine ⟨confere x, fun r told => ?_⟩
  obtain rfl := respondido fragile_buscarResumo rfl told
  exact (List.length_map _).symm

end Figuras
end IceClube
