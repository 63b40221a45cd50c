import Mathlib.Data.List.Induction
import Mathlib.Data.List.Sort
import Mathlib.Data.List.TakeWhile
import IceClube.Ajustes
import IceClube.Passos
import IceClube.Translation

/-! The production board: `GET /pedidos_diarios`, the page `producao/producao.html` that hangs its
answer in five columns, and the summary of the sales panel that counts the same answer; beside the
routes that write to the orders. -/
namespace IceClube

open Coop Prog

/-- A row that `GET /pedidos_diarios` and `GET /pedidos_entrega` answer. -/
structure PedidoDoDia where
  id : Nat
  clienteNumero : String
  status : Status
  valido : Option Int
  dataHora : Nat
  numeroDiario : Option Nat
  data : Nat
  recebido : Bool
  vendaId : Option Nat
  produtos : Option String
  valorTotal : Option ℚ
  pedidoNumero : Nat
  deriving DecidableEq, Repr

inductive SqlQuadro where
  | selectPedidosDiarios
  | selectPedidosEntrega

@[reducible] def SqlQuadro.Res : SqlQuadro → Type := fun _ => List PedidoDoDia

namespace Loja

variable (loja : Loja)

def doDia (pedidoNumero id : Nat) (pedido : Pedido) : PedidoDoDia where
  id := id
  clienteNumero := pedido.clienteNumero
  status := pedido.status
  valido := pedido.valido
  dataHora := (loja.colunasPedido id).dataHora
  numeroDiario := (loja.colunasPedido id).numeroDiario
  data := pedido.data
  recebido := pedido.recebido
  vendaId := pedido.vendaId
  produtos := groupConcat "," (loja.db.produtosDe " x " id)
  valorTotal := (pedido.vendaId.bind loja.db.vendas.get).map (·.valorTotal)
  pedidoNumero := pedidoNumero

/-- Earliest first, with `ROW_NUMBER()`; MySQL leaves the order of equal instants open. -/
def numerados (pedidos : List (Nat × Pedido)) : List PedidoDoDia :=
  (pedidos.insertionSort fun p q =>
    (loja.colunasPedido p.1).dataHora ≤ (loja.colunasPedido q.1).dataHora).mapIdx
    fun i p => loja.doDia (i + 1) p.1 p.2

def pedidosDeHoje : List (Nat × Pedido) :=
  loja.db.pedidosDiarios.rows.filter fun p => p.2.data = loja.db.hoje

end Loja

def SqlQuadro.sem : (q : SqlQuadro) → Loja → q.Res × Loja
  | .selectPedidosDiarios, loja => (loja.numerados loja.pedidosDeHoje, loja)
  | .selectPedidosEntrega, loja => (loja.numerados loja.db.pedidosDiarios.rows, loja)

abbrev RotaDeQuadro := Prog String SqlQuadro.Res

def listarPedidos (q : SqlQuadro) : RotaDeQuadro (Atendida (List PedidoDoDia)) :=
  let buscar : RotaDeQuadro (Atendida (List PedidoDoDia)) := do
    let pedidos ← ask q
    pure (.ok pedidos)
  buscar.handle fun _ => pure (.error ⟨500, "Erro ao buscar pedidos", none⟩)

def getPedidosDiarios : RotaDeQuadro (Atendida (List PedidoDoDia)) :=
  listarPedidos .selectPedidosDiarios

def getPedidosEntrega : RotaDeQuadro (Atendida (List PedidoDoDia)) :=
  listarPedidos .selectPedidosEntrega

/-- The elements `lista-` and `count-` of the page. -/
inductive Coluna where
  | novo | embalado | entrega | rua | finalizado
  deriving DecidableEq, Repr

/-- `document.getElementById('lista-' + status)`. -/
def Coluna.deStatus : Status → Option Coluna
  | .novo => some novo
  | .embalado => some embalado
  | .entrega => some entrega
  | .rua => some rua
  | .finalizado => some finalizado
  | .falha | .incorreto | .devolvido => none

/-- `botao` is the order and the status that 'Alterar Status' sends. -/
structure Cartao where
  classes : List String
  numeroDiario : Option Nat
  dataHora : Nat
  itens : String
  botao : Option (Nat × Status)
  deriving DecidableEq, Repr

namespace PedidoDoDia

variable (p : PedidoDoDia)

/-- A refused order is shown among the finished ones. -/
def statusMostrado : Status := if p.valido = some 2 then .finalizado else p.status

def coluna : Option Coluna := Coluna.deStatus p.statusMostrado

def classes : List String :=
  (if p.status = .finalizado then ["finalizado"] else []) ++
  (if p.valido = none ∨ p.valido = some 0 then ["invalido"] else []) ++
  (if p.valido = some 1 then ["autorizado"] else []) ++
  (if p.valido = some 2 then ["recusado"] else [])

def cartao : Cartao where
  classes := "pedido" :: p.classes
  numeroDiario := p.numeroDiario
  dataHora := p.dataHora
  itens := (p.produtos.filter (· ≠ "")).getD "Sem produtos"
  botao :=
    if p.valido = some 1 ∧ p.statusMostrado ∉ [.rua, .entrega, .finalizado] then
      some (p.id, p.statusMostrado)
    else none

end PedidoDoDia

structure Quadro where
  lista : Coluna → List Cartao
  contagem : Coluna → Nat
  totalVendas : Nat

/-- The lists of the page and `statusMap`, while `forEach` runs. -/
structure Pendurados where
  lista : Coluna → List Cartao := fun _ => []
  statusMap : Coluna → Nat := fun _ => 0

def Pendurados.com (x : Pendurados) (coluna : Coluna) (cartao : Cartao) : Pendurados where
  lista c := if c = coluna then x.lista c ++ [cartao] else x.lista c
  statusMap c := if c = coluna then x.statusMap c + 1 else x.statusMap c

/-- The loop, and whether it reached its end: without a list `appendChild` throws. -/
def pendurar : List PedidoDoDia → Pendurados → Pendurados × Bool
  | [], x => (x, true)
  | p :: resto, x =>
    match p.coluna with
    | none => (x, false)
    | some coluna => pendurar resto (x.com coluna p.cartao)

/-- How one `fetch` ends; `none` is a rejection. The page reads an error as a list and throws,
with the old cards gone; what follows `res.json()` is not interrupted. -/
def Quadro.carregarPedidos (q : Quadro) : Option (Atendida (List PedidoDoDia)) → Quadro
  | none => q
  | some (.error _) => { q with lista := fun _ => [] }
  | some (.ok pedidos) =>
    match pendurar pedidos {} with
    | (x, true) => ⟨x.lista, x.statusMap, pedidos.length⟩
    | (x, false) => { q with lista := x.lista }

/-- `statusMap` of `atualizarResumoPorStatus` in `vendas/index.html`. -/
def resumoPorStatus (pedidos : List PedidoDoDia) (coluna : Coluna) : Nat :=
  pedidos.countP fun p => Coluna.deStatus p.status = some coluna

def Quadro.apos (q : Quadro) (respostas : List (Option (Atendida (List PedidoDoDia)))) : Quadro :=
  respostas.foldl carregarPedidos q

section Laco

variable (pedidos : List PedidoDoDia)

/-- The orders before the first one that has no column. -/
def mostrados : List PedidoDoDia := pedidos.takeWhile (·.coluna.isSome)

def naColuna (coluna : Coluna) : List PedidoDoDia := pedidos.filter (·.coluna = some coluna)

theorem mostrados_todos : mostrados pedidos = pedidos ↔ ∀ p ∈ pedidos, p.coluna.isSome :=
  List.takeWhile_eq_self_iff

/-- The loop hangs the orders it reaches behind those it finds. -/
theorem pendurar_eq (x : Pendurados) : pendurar pedidos x =
    ({ lista := fun c => x.lista c ++ (naColuna (mostrados pedidos) c).map (·.cartao)
       statusMap := fun c => x.statusMap c + (naColuna (mostrados pedidos) c).length },
      pedidos.all (·.coluna.isSome)) := by
  induction pedidos generalizing x with
  | nil => simp [pendurar, mostrados, naColuna]
  | cons p resto ih =>
    cases coluna : p.coluna with
    | none => simp [pendurar, mostrados, naColuna, coluna]
    | some destino =>
      have shown : mostrados (p :: resto) = p :: mostrados resto := by
        rw [mostrados, List.takeWhile_cons_of_pos (by simp [coluna]), mostrados]
      simp only [pendurar, coluna, ih, shown, List.all_cons, Option.isSome_some, Bool.true_and,
        Prod.mk.injEq, Pendurados.mk.injEq, and_true]
      constructor <;> funext c <;> by_cases same : c = destino
      · subst same
        simp [Pendurados.com, naColuna, coluna]
      · have other : ¬ destino = c := fun eq => same eq.symm
        simp [Pendurados.com, naColuna, coluna, same, other]
      · subst same
        simp [Pendurados.com, naColuna, coluna]
        omega
      · have other : ¬ destino = c := fun eq => same eq.symm
        simp [Pendurados.com, naColuna, coluna, same, other]

/-- Every order that has a column is in one column. -/
theorem length_colunas (com : ∀ p ∈ pedidos, p.coluna.isSome) :
    (naColuna pedidos .novo).length + (naColuna pedidos .embalado).length +
      (naColuna pedidos .entrega).length + (naColuna pedidos .rua).length +
      (naColuna pedidos .finalizado).length = pedidos.length := by
  induction pedidos with
  | nil => rfl
  | cons p resto ih =>
    rw [List.forall_mem_cons, Option.isSome_iff_exists] at com
    obtain ⟨⟨coluna, own⟩, com⟩ := com
    have rest := ih com
    simp only [naColuna] at rest ⊢
    cases coluna <;> simp [own] <;> omega

end Laco

section Respostas

/-- The orders that an answer shows, if the lists are cleared at all. -/
def respondidos : Option (Atendida (List PedidoDoDia)) → Option (List PedidoDoDia)
  | none => none
  | some (.error _) => some []
  | some (.ok pedidos) => some (mostrados pedidos)

def contados : Option (Atendida (List PedidoDoDia)) → Option (List PedidoDoDia)
  | some (.ok pedidos) => if pedidos.all (·.coluna.isSome) then some pedidos else none
  | _ => none

/-- The page with the lists of `vistos` and the numbers of `lidos`, where there are any. -/
def Quadro.com (q : Quadro) (vistos lidos : Option (List PedidoDoDia)) : Quadro where
  lista := vistos.elim q.lista fun pedidos c => (naColuna pedidos c).map (·.cartao)
  contagem := lidos.elim q.contagem fun pedidos c => (naColuna pedidos c).length
  totalVendas := lidos.elim q.totalVendas List.length

theorem carregarPedidos_eq (q : Quadro) (resposta : Option (Atendida (List PedidoDoDia))) :
    q.carregarPedidos resposta = q.com (respondidos resposta) (contados resposta) := by
  rcases resposta with - | ⟨erro⟩ | ⟨pedidos⟩
  · rfl
  · rfl
  · simp only [Quadro.carregarPedidos, pendurar_eq, List.nil_append, Nat.zero_add, respondidos,
      contados]
    cases whole : pedidos.all (·.coluna.isSome) with
    | false => rfl
    | true =>
      have all : mostrados pedidos = pedidos := by
        rw [mostrados_todos]
        simpa using whole
      rw [all]
      rfl

theorem Quadro.com_com (q : Quadro) (vistos lidos vistos' lidos' : Option (List PedidoDoDia)) :
    (q.com vistos lidos).com vistos' lidos' = q.com (vistos'.or vistos) (lidos'.or lidos) := by
  cases vistos' <;> cases lidos' <;> rfl

/-- Whatever was answered, each column holds in their order the orders of the last answer that
come before the first one without a column, and none after an error; the numbers are those of
the last answer whose orders all had columns. -/
theorem quadro_apos (q : Quadro) (respostas : List (Option (Atendida (List PedidoDoDia)))) :
    q.apos respostas =
      q.com (respostas.filterMap respondidos).getLast? (respostas.filterMap contados).getLast? := by
  induction respostas using List.reverseRecOn with
  | nil => rfl
  | append_singleton antes resposta ih =>
    have last {f : Option (Atendida (List PedidoDoDia)) → Option (List PedidoDoDia)} :
        ((antes ++ [resposta]).filterMap f).getLast? =
          (f resposta).or (antes.filterMap f).getLast? := by
      cases read : f resposta <;> simp [List.filterMap_append, read]
    have step : q.apos (antes ++ [resposta]) = (q.apos antes).carregarPedidos resposta := by
      simp [Quadro.apos]
    rw [step, ih, carregarPedidos_eq, Quadro.com_com, last, last]

/-- The page shows these orders, all of them, and how many they are. -/
structure Quadro.Inteiro (q : Quadro) (pedidos : List PedidoDoDia) : Prop where
  lista : ∀ c, q.lista c = (naColuna pedidos c).map (·.cartao)
  contagem : ∀ c, q.contagem c = (q.lista c).length
  total : q.totalVendas = pedidos.length
  todos : (q.lista .novo).length + (q.lista .embalado).length + (q.lista .entrega).length +
    (q.lista .rua).length + (q.lista .finalizado).length = pedidos.length

theorem inteiro_iff (q : Quadro) (pedidos : List PedidoDoDia) :
    (q.carregarPedidos (some (.ok pedidos))).Inteiro pedidos ↔
      ∀ p ∈ pedidos, p.coluna.isSome := by
  have shown (c : Coluna) : (q.carregarPedidos (some (.ok pedidos))).lista c =
      (naColuna (mostrados pedidos) c).map (·.cartao) := by
    rw [carregarPedidos_eq]
    rfl
  have reached : ∀ p ∈ mostrados pedidos, p.coluna.isSome := fun p member =>
    List.mem_takeWhile_imp (p := fun p : PedidoDoDia => p.coluna.isSome) member
  constructor
  · intro whole
    have same : (mostrados pedidos).length = pedidos.length := by
      have all := whole.todos
      simp only [shown, List.length_map] at all
      rw [← all, length_colunas _ reached]
    rw [← mostrados_todos]
    exact (List.takeWhile_prefix _).eq_of_length same
  · intro com
    have all : mostrados pedidos = pedidos := (mostrados_todos pedidos).mpr com
    have counted : contados (some (.ok pedidos)) = some pedidos := if_pos (by simpa using com)
    refine ⟨fun c => by rw [shown, all], fun c => ?_, ?_, ?_⟩
    · rw [shown, all, List.length_map, carregarPedidos_eq, counted]
      rfl
    · rw [carregarPedidos_eq, counted]
      rfl
    · simp only [shown, all, List.length_map, length_colunas _ com]

end Respostas

section Resumo

/-- Of two counts the smaller one is as large only where both count the same. -/
theorem countP_eq_iff {α : Type} {p r : α → Bool} {l : List α}
    (less : ∀ a ∈ l, p a = true → r a = true) :
    l.countP p = l.countP r ↔ ∀ a ∈ l, r a = true → p a = true := by
  induction l with
  | nil => simp
  | cons a l ih =>
    rw [List.forall_mem_cons] at less
    have most := List.countP_mono_left less.2
    have rest := ih less.2
    rw [List.forall_mem_cons, ← rest, List.countP_cons, List.countP_cons]
    cases first : p a <;> cases second : r a
    · simp
    · simp
      omega
    · simp [second] at less
      exact absurd first (by simp [less])
    · simp

/-- The sales panel counts the orders of the day as the board does, except for those that were
refused in another status than 'finalizado'. -/
theorem resumo_iff (q : Quadro) {pedidos : List PedidoDoDia}
    (com : ∀ p ∈ pedidos, p.coluna.isSome) :
    (∀ c, (q.carregarPedidos (some (.ok pedidos))).contagem c = resumoPorStatus pedidos c) ↔
      ∀ p ∈ pedidos, p.valido = some 2 → p.status = .finalizado := by
  have counted (c : Coluna) : (q.carregarPedidos (some (.ok pedidos))).contagem c =
      pedidos.countP fun p => p.coluna = some c := by
    have whole := (inteiro_iff q pedidos).mpr com
    rw [whole.contagem, whole.lista, List.length_map, naColuna, List.countP_eq_length_filter]
  have finished (p : PedidoDoDia) : Coluna.deStatus p.status = some .finalizado ↔
      p.status = .finalizado := by
    cases p.status <;> simp [Coluna.deStatus]
  simp only [counted, resumoPorStatus]
  constructor
  · intro same p member refused
    have agree := (countP_eq_iff (l := pedidos) (fun p _ own => ?_)).mp (same .finalizado).symm p
      member (by simp [PedidoDoDia.coluna, PedidoDoDia.statusMostrado, refused, Coluna.deStatus])
    · simpa [finished] using agree
    · rw [decide_eq_true_eq, finished] at own
      simp [PedidoDoDia.coluna, PedidoDoDia.statusMostrado, own, Coluna.deStatus]
  · intro closed c
    refine List.countP_congr fun p member => ?_
    have same : p.coluna = Coluna.deStatus p.status := by
      rw [PedidoDoDia.coluna, PedidoDoDia.statusMostrado]
      split
      next refused => rw [closed p member refused]
      next => rfl
    rw [same]

/-- The refusal of the sales panel leaves an order in the status 'novo'. -/
def umRecusado : PedidoDoDia where
  id := 1
  clienteNumero := "5511999990000"
  status := .novo
  valido := some 2
  dataHora := 0
  numeroDiario := some 1
  data := 0
  recebido := false
  vendaId := some 1
  produtos := none
  valorTotal := none
  pedidoNumero := 1

theorem resumo_iff_umRecusado :
    let q : Quadro := ⟨fun _ => [], fun _ => 0, 0⟩
    (∀ c, (q.carregarPedidos (some (.ok [umRecusado]))).contagem c =
      resumoPorStatus [umRecusado] c) ↔
        ∀ p ∈ [umRecusado], p.valido = some 2 → p.status = .finalizado :=
  resumo_iff _ (by decide)

end Resumo

inductive OpProducao where
  | rota (o : Op)
  | ajuste (q : SqlAjuste)

@[reducible] def OpProducao.Res : OpProducao → Type
  | .rota o => o.Res
  | .ajuste q => q.Res

/-- The columns that only `Loja` has are of no concern to the board. -/
def SqlAjuste.semDb (q : SqlAjuste) (db : Db) : q.Res × Db :=
  ((q.sem { db := db }).1, (q.sem { db := db }).2.db)

def OpProducao.exec : Exec String OpProducao.Res (Faulty Db)
  | .rota o, w => Op.exec o w
  | .ajuste q, w => Faulty.exec SqlAjuste.semDb Tx.rejeicao q w

def OpProducao.Aceita (w : Faulty Db) : OpProducao → Prop
  | .rota (.sql _) | .ajuste _ => w.faults.headD false = false
  | .rota (.tx t) => t.Confirma w

inductive ReqProducao where
  | pedidos (requisicao : Requisicao)
  | ajustes (requisicao : ReqAjuste)
  deriving DecidableEq, Repr

def ReqProducao.rota : ReqProducao → Prog String OpProducao.Res Resposta
  | pedidos requisicao => through (fun o => attempt (OpProducao.rota o)) requisicao.rota
  | ajustes requisicao => through (fun q => attempt (OpProducao.ajuste q)) requisicao.rota

/-- The routes that write to the orders, `POST /mover` among them. A transaction is one step. -/
def producao : System ReqProducao Nat String OpProducao.Res Resposta (Faulty Db) where
  exec := OpProducao.exec
  sync _ := false
  listeners requisicao := [requisicao.rota]
  drift dt w := ⟨{ w.state with agora := w.state.agora + dt }, w.faults⟩

abbrev Producao := Config String OpProducao.Res Resposta (Faulty Db)

abbrev PassoProducao := Action ReqProducao Nat

namespace Producao

abbrev db (c : Producao) : Db := c.state.state

/-- The call that takes effect in a step: issued and not rejected. -/
def Efetua (c : Producao) (a : PassoProducao) (o : OpProducao) : Prop :=
  c.issued a = some o ∧ o.Aceita c.state

end Producao

section Corrida

/-- The page finds a column for the order. -/
def Pedido.NoQuadro (p : Pedido) : Prop :=
  p.valido = some 2 ∨ (Coluna.deStatus p.status).isSome = true

def Db.NoQuadro (db : Db) : Prop :=
  ∀ id p, db.pedidosDiarios.get id = some p → p.NoQuadro

def Loja.lerQuadro (loja : Loja) (faults : List Bool) : Option (Atendida (List PedidoDoDia)) :=
  (getPedidosDiarios.run (Faulty.exec SqlQuadro.sem Tx.rejeicao) ⟨loja, faults⟩).1.toOption

/-- The board is loaded at some time of some day and shows the orders of that day. -/
def Db.QuadroInteiro (colunas : Nat → ColunasPedido) (db : Db) : Prop :=
  ∀ (agora : Nat) (q : Quadro),
    let loja : Loja := { db := { db with agora := agora }, colunasPedido := colunas }
    (q.carregarPedidos (loja.lerQuadro [])).Inteiro (loja.numerados loja.pedidosDeHoje)

/-- What a call must find to leave every order a column. The last two statements belong to
transactions and are never issued alone. -/
def Op.PoeNoQuadro (db : Db) : Op → Prop
  | .sql (.updateStatus status id) => ∀ p, db.pedidosDiarios.get id = some p →
    p.valido = some 2 ∨ (Coluna.deStatus status).isSome = true
  | .tx (.lancamento corpo) => ∀ id, naoZero corpo.pedidoId = some id →
    ∀ p, db.pedidosDiarios.get id = some p → p.valido = some 2
  | .sql (.updateValido valido status id) => ∀ p, db.pedidosDiarios.get id = some p →
    valido = some 2 ∨ (Coluna.deStatus status).isSome = true
  | _ => True

/-- `POST /mover` must find the same as the other route that is told a status. -/
def OpProducao.PoeNoQuadro (db : Db) : OpProducao → Prop
  | .rota o => o.PoeNoQuadro db
  | .ajuste (.updateStatus status (some id)) => (Op.sql (.updateStatus status id)).PoeNoQuadro db
  | .ajuste _ => True

variable {db db' : Db} {loja : Loja}

theorem lerQuadro_eq (faults : List Bool) : loja.lerQuadro faults =
    some (if faults.headD false then .error ⟨500, "Erro ao buscar pedidos", none⟩
      else .ok (loja.numerados loja.pedidosDeHoje)) := by
  rcases faults with - | ⟨fault, faults⟩
  · rfl
  · cases fault <;> rfl

theorem coluna_doDia (n id : Nat) (p : Pedido) :
    (loja.doDia n id p).coluna.isSome = true ↔ p.NoQuadro := by
  rw [PedidoDoDia.coluna, PedidoDoDia.statusMostrado, Pedido.NoQuadro]
  by_cases refused : p.valido = some 2
  · simp [Loja.doDia, refused, Coluna.deStatus]
  · simp [Loja.doDia, refused]

theorem colunas_numerados (pedidos : List (Nat × Pedido)) :
    (∀ p ∈ loja.numerados pedidos, p.coluna.isSome) ↔ ∀ p ∈ pedidos, p.2.NoQuadro := by
  simp only [Loja.numerados, List.mem_mapIdx]
  constructor
  · intro all p member
    rw [← List.mem_insertionSort (fun p q : Nat × Pedido =>
      (loja.colunasPedido p.1).dataHora ≤ (loja.colunasPedido q.1).dataHora)] at member
    obtain ⟨i, inside, rfl⟩ := List.mem_iff_getElem.mp member
    exact (coluna_doDia _ _ _).mp (all _ ⟨i, inside, rfl⟩)
  · rintro all _ ⟨i, inside, rfl⟩
    have member := (List.mem_insertionSort _).mp (List.getElem_mem inside)
    exact (coluna_doDia _ _ _).mpr (all _ member)

/-- Every order has its day. -/
theorem quadroInteiro_iff (colunas : Nat → ColunasPedido) :
    db.QuadroInteiro colunas ↔ db.NoQuadro := by
  simp only [Db.QuadroInteiro, lerQuadro_eq, List.headD_nil, Bool.false_eq_true, if_false,
    inteiro_iff, colunas_numerados, Loja.pedidosDeHoje, List.mem_filter, Prod.forall,
    Table.mem_rows, decide_eq_true_eq]
  constructor
  · intro all id p found
    refine all (p.data * 86400000) ⟨fun _ => [], fun _ => 0, 0⟩ id p ⟨found, ?_⟩
    rw [Db.hoje, dia, Nat.mul_div_cancel _ (by decide)]
  · exact fun all _ _ id p found => all id p found.1

theorem noQuadro_of_eq (all : db.NoQuadro) (same : db'.pedidosDiarios = db.pedidosDiarios) :
    db'.NoQuadro := by
  intro id p found
  exact all id p (same ▸ found)

theorem noQuadro_insert (all : db.NoQuadro) {p : Pedido} (own : p.NoQuadro)
    (inserted : db'.pedidosDiarios = db.pedidosDiarios.insert p) : db'.NoQuadro := by
  intro id p' found
  rw [inserted, Table.get_insert] at found
  split at found
  · obtain rfl := Option.some.inj found
    exact own
  · exact all id p' found

theorem noQuadro_modify (all : db.NoQuadro) (id : Nat) (f : Pedido → Pedido)
    (written : db'.pedidosDiarios = db.pedidosDiarios.modify id f) :
    db'.NoQuadro ↔ ∀ p, db.pedidosDiarios.get id = some p → (f p).NoQuadro := by
  constructor
  · intro kept p found
    refine kept id (f p) ?_
    rw [written, Table.get_modify, if_pos rfl, found, Option.map_some]
  · intro own other p found
    rw [written, Table.get_modify] at found
    split at found
    next same =>
      obtain ⟨p', old, rfl⟩ := Option.map_eq_some_iff.mp found
      exact own p' (same ▸ old)
    next => exact all other p found

theorem noQuadro_sql (all : db.NoQuadro) (q : Sql) :
    (q.sem db).2.NoQuadro ↔ (Op.sql q).PoeNoQuadro db := by
  cases q with
  | updateStatus status id => exact noQuadro_modify all id (fun p =>
    { p with status := status }) rfl
  | updateValido valido status id =>
    exact noQuadro_modify all id (fun p => { p with valido := valido, status := status }) rfl
  | updateRua id =>
    refine iff_of_true ?_ trivial
    exact (noQuadro_modify all id (fun p => { p with status := .rua }) rfl).mpr fun _ _ => .inr rfl
  | insertPedido clienteNumero vendaId =>
    exact iff_of_true (noQuadro_insert all (.inr rfl) rfl) trivial
  | insertEntregaSelect entregadorId pedidoId =>
    refine iff_of_true (noQuadro_of_eq all ?_) trivial
    simp only [Sql.sem]
    split <;> rfl
  | _ => exact iff_of_true (noQuadro_of_eq all rfl) trivial

theorem noQuadro_tx (all : db.NoQuadro) (t : Tx) (written : t.Grava db db') :
    db'.NoQuadro ↔ (Op.tx t).PoeNoQuadro db := by
  cases t with
  | valido corpo =>
    rw [noQuadro_modify all corpo.id _ (congrArg Db.pedidosDiarios written)]
    refine iff_of_true (fun p _ => .inr ?_) trivial
    by_cases zero : corpo.valido = some 0 <;> simp [zero, Coluna.deStatus]
  | lancamento corpo =>
    have written := (congrArg Db.pedidosDiarios written).trans (pedidos_comLancamento corpo db)
    cases named : naoZero corpo.pedidoId with
    | none =>
      rw [named] at written
      refine iff_of_true (noQuadro_of_eq all written) fun id given => ?_
      rw [named] at given
      contradiction
    | some pedidoId =>
      rw [named] at written
      rw [noQuadro_modify all pedidoId _ written]
      simp [Op.PoeNoQuadro, named, Pedido.NoQuadro, Coluna.deStatus]
  | pedidoManual corpo =>
    obtain ⟨total, rfl⟩ := written
    exact iff_of_true (noQuadro_insert all (.inr rfl) (pedidos_comPedido corpo total db)) trivial

theorem noQuadro_ajuste (all : db.NoQuadro) (q : SqlAjuste) :
    (q.semDb db).2.NoQuadro ↔ (OpProducao.ajuste q).PoeNoQuadro db := by
  cases q with
  | updateStatus status id =>
    cases id with
    | none => exact iff_of_true (noQuadro_of_eq all rfl) trivial
    | some id => exact noQuadro_sql all (.updateStatus status id)
  | updateVenda formaPagamento status valorTotal id =>
    exact iff_of_true (noQuadro_of_eq all rfl) trivial

/-- A call that does not take effect leaves the orders as they are. -/
theorem noQuadro_exec {w : Faulty Db} (all : w.state.NoQuadro) (o : OpProducao) :
    (o.exec w).2.state.NoQuadro ↔ (o.Aceita w → o.PoeNoQuadro w.state) := by
  by_cases accepted : o.Aceita w
  · rw [forall_prop_of_true accepted]
    rcases o with (q | t) | q
    · rw [OpProducao.exec, Op.exec, Faulty.exec_answered q accepted]
      exact noQuadro_sql all q
    · exact noQuadro_tx all t (Tx.executar_confirma accepted).2
    · rw [OpProducao.exec, Faulty.exec_answered q accepted]
      exact noQuadro_ajuste all q
  · refine iff_of_true ?_ fun taken => absurd taken accepted
    rcases o with (q | t) | q
    · have fault : w.faults.headD false = true := (Bool.not_eq_false _).mp accepted
      rw [OpProducao.exec, Op.exec, Faulty.exec_rejected q fault]
      exact all
    · obtain ⟨depois, same⟩ := (Tx.executar_recusa accepted).2
      rw [OpProducao.exec, Op.exec, same]
      exact all
    · have fault : w.faults.headD false = true := (Bool.not_eq_false _).mp accepted
      rw [OpProducao.exec, Faulty.exec_rejected q fault]
      exact all

/-- However the requests interleave, a board that is loaded at any moment shows all orders of its
day and how many they are, as long as no call gives an order that is not refused a status
without a column: a return does, and a page that sends 'falha' or 'incorreto', and a `/mover` to
one of these. -/
theorem quadro_sempre_inteiro_iff (colunas : Nat → ColunasPedido) (c : Producao)
    (passos : List PassoProducao) :
    (∀ pre post, passos = pre ++ post →
      (Producao.db (producao.execute pre c)).QuadroInteiro colunas) ↔
      c.db.NoQuadro ∧
        producao.Runs (fun c a => ∀ o, Producao.Efetua c a o → o.PoeNoQuadro c.state.state)
          passos c := by
  simp only [quadroInteiro_iff]
  refine System.always_iff_runs (I := fun w : Faulty Db => w.state.NoQuadro) fun c a all => ?_
  rw [System.step_iff_async (M := producao) (P := fun w : Faulty Db => w.state.NoQuadro)
    (fun _ => rfl) all (fun _ => noQuadro_of_eq all rfl) fun o _ => noQuadro_exec all o]
  exact ⟨fun kept o done => kept o done.1 done.2, fun kept o issued taken => kept o ⟨issued, taken⟩⟩

end Corrida
end IceClube
