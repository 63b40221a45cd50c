import Mathlib.Data.List.Sort
import Mathlib.Tactic.Linarith
import IceClube.Transacoes

/-! The pages of the sales sector: the list of pending orders, the lists of sales, the
buttons of their rows and the endpoints behind them. An order and its sale have
identifiers of two independent sequences; `venda_id` leads from the one to the other. -/
namespace IceClube

open Coop Prog

structure ColunasPedido where
  dataHora : Nat := 0
  numeroDiario : Option Nat := none
  deriving DecidableEq, Repr

structure ColunasVenda where
  data : Option Nat := none
  status : Option String := none
  valido : Option Int := none
  conferido : Option Int := none
  deriving DecidableEq, Repr

/-- The database as these pages see it. `like` is MySQL's LIKE under the collation of
`cliente_numero`, which is not in the repository. -/
structure Loja where
  db : Db
  colunasPedido : Nat → ColunasPedido := fun _ => {}
  colunasVenda : Nat → ColunasVenda := fun _ => {}
  like : String → String → Bool := fun texto padrao => texto = padrao
  /-- Where MySQL puts an order among those of one instant. -/
  posicao : Nat → Nat := id

structure PedidoPendente where
  id : Nat
  clienteNumero : String
  status : Status
  valido : Option Int
  vendaId : Option Nat
  numeroDiario : Option Nat
  valorTotal : Option ℚ
  deriving DecidableEq, Repr

structure VendaListada where
  id : Nat
  clienteNumero : String
  valorTotal : ℚ
  valorRecebido : ℚ
  formaPagamento : String
  data : Nat
  status : String
  temComprovante : Bool
  produtos : Option String
  motivoFalha : String
  endereco : String
  deriving DecidableEq, Repr

/-- The answer of `GET /api/pedidos/:id`; a missing total is sent as '-'. -/
structure Detalhes where
  pedidoId : Nat
  clienteNumero : String
  status : Status
  dataPedido : Nat
  formaPagamento : String
  valorTotal : Option ℚ
  itens : Option String
  deriving DecidableEq, Repr

/-- The query of `GET /api/vendas`. An empty text is a missing one; `some none` is a date in
another format; the payment methods are those between the commas, trimmed, in lower case. -/
structure FiltrosVendas where
  clienteNumero : String := ""
  dataInicio : Option (Option Nat) := none
  dataFim : Option (Option Nat) := none
  status : String := ""
  formaPagamento : Option (List String) := none
  valido : Option Int := none
  conferido : Option Int := none
  page : Nat := 1
  limit : Nat := 10
  deriving DecidableEq, Repr

inductive SqlPagina where
  | selectPendentes
  | selectVendas (filtros : FiltrosVendas)
  | countVendas (filtros : FiltrosVendas)
  | selectComprovante (id : Nat)
  | updatePagamento (formaPagamento : String) (id : Option Nat)
  | selectDetalhes (id : Nat)

/-- `selectComprovante` answers the column of the row it finds. -/
@[reducible] def SqlPagina.Res : SqlPagina → Type
  | .selectPendentes => List PedidoPendente
  | .selectVendas _ => List VendaListada
  | .countVendas _ => Nat
  | .selectComprovante _ => Option (Option String)
  | .updatePagamento .. => Unit
  | .selectDetalhes _ => Option Detalhes

/-- `GROUP_CONCAT`: NULL when nothing is left to join. -/
def groupConcat (separador : String) (partes : List String) : Option String :=
  if partes = [] then none else some (separador.intercalate partes)

namespace Db

/-- `UPDATE vendas SET forma_pagamento = ? WHERE id = ?`, where NULL equals no identifier. -/
def comPagamento (formaPagamento : String) (id : Option Nat) (db : Db) : Db :=
  match id with
  | none => db
  | some id =>
    { db with vendas := db.vendas.modify id fun v => { v with formaPagamento := formaPagamento } }

/-- The items whose product is stocked, each as its quantity and name. -/
def produtosDe (db : Db) (entre : String) (pedidoId : Nat) : List String :=
  (db.itensDe pedidoId).filterMap fun item =>
    (db.estoque.get item.produtoId).map fun e => textoNumero item.quantidade ++ entre ++ e.nome

def pedidosDaVenda (db : Db) (vendaId : Nat) : List Nat :=
  (db.pedidosDiarios.rows.filter fun p => p.2.vendaId = some vendaId).map (·.1)

def entregasDoPedido (db : Db) (pedidoId : Nat) : List Entrega :=
  (db.entregas.rows.filter fun e => e.2.pedidoId = pedidoId).map (·.2)

end Db

namespace Loja

variable (loja : Loja)

def pendente (id : Nat) (pedido : Pedido) : PedidoPendente where
  id := id
  clienteNumero := pedido.clienteNumero
  status := pedido.status
  valido := pedido.valido
  vendaId := pedido.vendaId
  numeroDiario := (loja.colunasPedido id).numeroDiario
  valorTotal := (pedido.vendaId.bind loja.db.vendas.get).map (·.valorTotal)

/-- Latest first; MySQL leaves the order of equal instants open. -/
def pedidosPendentes : List PedidoPendente :=
  let pendentes := loja.db.pedidosDiarios.rows.filter fun p => p.2.valido = none
  (pendentes.insertionSort fun p q =>
    (loja.colunasPedido q.1).dataHora ≤ (loja.colunasPedido p.1).dataHora).map
    fun p => loja.pendente p.1 p.2

/-- The clause `WHERE`; a comparison with NULL drops the row. -/
def passa (filtros : FiltrosVendas) (id : Nat) (venda : Venda) : Bool :=
  let colunas := loja.colunasVenda id
  (filtros.valido.all fun valido => colunas.valido = some valido) &&
  (filtros.conferido.all fun conferido => colunas.conferido = some conferido) &&
  (filtros.clienteNumero = "" || loja.like venda.clienteNumero s!"%{filtros.clienteNumero}%") &&
  (match filtros.dataInicio.join with
    | some inicio => colunas.data.any fun data => inicio ≤ dia data
    | none => colunas.data.any fun data => dia data = loja.db.hoje) &&
  (filtros.dataFim.join.all fun fim => colunas.data.any fun data => dia data ≤ fim) &&
  (filtros.status = "" || colunas.status = some filtros.status) &&
  filtros.formaPagamento.all fun formas => formas.contains venda.formaPagamento

/-- Each delivery of an order repeats the order's products. -/
def listada (id : Nat) (venda : Venda) : VendaListada :=
  let colunas := loja.colunasVenda id
  let pedidos := loja.db.pedidosDaVenda id
  let entregas := pedidos.flatMap loja.db.entregasDoPedido
  { id := id
    clienteNumero := venda.clienteNumero
    valorTotal := venda.valorTotal
    valorRecebido := venda.valorPago.getD 0
    formaPagamento := venda.formaPagamento
    data := colunas.data.getD loja.db.agora
    status := colunas.status.getD "novo"
    temComprovante := venda.comprovante.isSome
    produtos := groupConcat "," <| pedidos.flatMap fun pedido =>
      (List.replicate (max 1 (loja.db.entregasDoPedido pedido).length)
        (loja.db.produtosDe " x " pedido)).flatten
    motivoFalha := (entregas.head?.bind (·.observacoes)).getD ""
    endereco := (entregas.head?.bind (·.endereco)).getD "" }

def vendasFiltradas (filtros : FiltrosVendas) : List (Nat × Venda) :=
  loja.db.vendas.rows.filter fun v => loja.passa filtros v.1 v.2

/-- One page of the list, latest first. -/
def listaVendas (filtros : FiltrosVendas) : List VendaListada :=
  let ordenadas := (loja.vendasFiltradas filtros).insertionSort fun v w =>
    (loja.colunasVenda w.1).data.getD 0 ≤ (loja.colunasVenda v.1).data.getD 0
  ((ordenadas.drop ((filtros.page - 1) * filtros.limit)).take filtros.limit).map
    fun v => loja.listada v.1 v.2

def detalhes (id : Nat) (pedido : Pedido) : Detalhes :=
  let venda := pedido.vendaId.bind loja.db.vendas.get
  { pedidoId := id
    clienteNumero := pedido.clienteNumero
    status := pedido.status
    dataPedido := (loja.colunasPedido id).dataHora
    formaPagamento := (venda.map (·.formaPagamento)).getD "-"
    valorTotal := venda.map (·.valorTotal)
    itens := groupConcat ", " (loja.db.produtosDe "x " id) }

end Loja

def SqlPagina.sem : (q : SqlPagina) → Loja → q.Res × Loja
  | .selectPendentes, loja => (loja.pedidosPendentes, loja)
  | .selectVendas filtros, loja => (loja.listaVendas filtros, loja)
  | .countVendas filtros, loja =>
    (((loja.vendasFiltradas filtros).map fun v =>
      max 1 (loja.db.pedidosDaVenda v.1).length).sum, loja)
  | .selectComprovante id, loja => ((loja.db.vendas.get id).map (·.comprovante), loja)
  | .updatePagamento formaPagamento id, loja =>
    ((), { loja with db := loja.db.comPagamento formaPagamento id })
  | .selectDetalhes id, loja => ((loja.db.pedidosDiarios.get id).map (loja.detalhes id), loja)

abbrev Pagina := Prog String SqlPagina.Res

abbrev consultaPagina (q : SqlPagina) : Pagina q.Res := ask q

inductive Tela where
  | comprovante (id : Nat) (image : String)
  | pedido (info : Detalhes)
  | notificacao (message type : String)
  deriving DecidableEq, Repr

structure RespostaVendas where
  vendas : List VendaListada
  total : Nat
  page : Nat
  limit : Nat
  totalPages : Nat
  deriving DecidableEq, Repr

section Rotas

/-- An endpoint answers 200 with a value or something else with a text. -/
abbrev Atendida (β : Type) := Except Resposta β

def getPedidosPendentes : Pagina (Atendida (List PedidoPendente)) :=
  let buscar : Pagina (Atendida (List PedidoPendente)) := do
    let pedidos ← consultaPagina .selectPendentes
    pure (.ok pedidos)
  buscar.handle fun _ => pure (.error ⟨500, "Erro ao buscar pedidos pendentes", none⟩)

def formasAceitas : List String := ["pix", "dinheiro", "pix+dinheiro", "falha"]

/-- The first page is number one; a negative offset is a syntax error. -/
def buscarVendas (filtros : FiltrosVendas) : Pagina (Atendida RespostaVendas) := do
  if filtros.page = 0 ∧ filtros.limit ≠ 0 then fail "ER_PARSE_ERROR"
  else do
    let vendas ← consultaPagina (.selectVendas filtros)
    let total ← consultaPagina (.countVendas filtros)
    pure (.ok ⟨vendas, total, filtros.page, filtros.limit,
      (total + filtros.limit - 1) / filtros.limit⟩)

def getVendas (filtros : FiltrosVendas) : Pagina (Atendida RespostaVendas) :=
  if filtros.dataInicio = some none then
    pure (.error ⟨400, "Formato de data_inicio inválido (use YYYY-MM-DD)", none⟩)
  else if filtros.dataFim = some none then
    pure (.error ⟨400, "Formato de data_fim inválido (use YYYY-MM-DD)", none⟩)
  else if filtros.formaPagamento.any fun formas => formas.any (!formasAceitas.contains ·) then
    pure (.error ⟨400, "Forma de pagamento inválida", none⟩)
  else (buscarVendas filtros).handle fun _ => pure (.error ⟨500, "Erro ao buscar vendas", none⟩)

def getComprovante (id : Nat) : Pagina (Atendida String) :=
  let buscar : Pagina (Atendida String) := do
    match ← consultaPagina (.selectComprovante id) with
    | some (some comprovante) => pure (.ok comprovante)
    | _ => pure (.error ⟨404, "Comprovante não encontrado", none⟩)
  buscar.handle fun _ => pure (.error ⟨500, "Erro ao buscar comprovante", none⟩)

def postEditarPagamento (formaPagamento : String) (id : Option Nat) : Pagina (Atendida Unit) :=
  let gravar : Pagina (Atendida Unit) := do
    consultaPagina (.updatePagamento formaPagamento id)
    pure (.ok ())
  gravar.handle fun _ => pure (.error ⟨500, "Erro ao editar forma de pagamento", none⟩)

def getPedido (id : Nat) : Pagina (Atendida Detalhes) :=
  let buscar : Pagina (Atendida Detalhes) := do
    match ← consultaPagina (.selectDetalhes id) with
    | some resultado => pure (.ok resultado)
    | none => pure (.error ⟨404, "Pedido não encontrado", none⟩)
  buscar.handle fun _ => pure (.error ⟨500, "Erro ao buscar pedido", none⟩)

end Rotas

section Botoes

/-- A refusal is a plain text, so reading it as JSON throws. -/
def verComprovante (id : Nat) : Pagina Tela := do
  match ← getComprovante id with
  | .ok image => pure (.comprovante id image)
  | .error _ => pure (.notificacao "Erro ao buscar comprovante." "danger")

/-- Opening the window keeps the number in `pedidoIdParaPagamento`. -/
def editarPagamento (id : Nat) : Option Nat := some id

/-- One request of `salvarPagamento`; success closes the window, which forgets the number. -/
def enviarPagamento (forma : String) (pedidoIdParaPagamento : Option Nat) :
    Pagina (Option Nat × Tela) := do
  match ← postEditarPagamento forma pedidoIdParaPagamento with
  | .ok _ => pure (none, .notificacao "Forma de pagamento atualizada com sucesso!" "success")
  | .error _ =>
    pure (pedidoIdParaPagamento,
      .notificacao "Erro ao atualizar pagamento: Erro ao atualizar pagamento." "danger")

/-- The request is written twice in the source. -/
def salvarPagamento (pedidoIdParaPagamento : Option Nat) (forma : String) :
    Pagina (List Tela) := do
  if forma = "" then pure [.notificacao "Escolha uma forma de pagamento." "warning"]
  else do
    let primeira ← enviarPagamento forma pedidoIdParaPagamento
    let segunda ← enviarPagamento forma primeira.1
    pure [primeira.2, segunda.2]

def formasDePagamento : List String := ["pix", "dinheiro", "pix+dinheiro"]

def mostrarPedido (recusa : Resposta → Tela) (id : Nat) : Pagina Tela := do
  match ← getPedido id with
  | .ok p => pure (.pedido p)
  | .error resposta => pure (recusa resposta)

/-- `informacoesDoPedido` of `vendas/index.html` and `vendas/conferencia.html`. -/
def informacoesDoPedido : Nat → Pagina Tela :=
  mostrarPedido fun _ => .notificacao "Pedido não encontrado." "warning"

/-- `informacoesDoPedido` of `admin/vendas.html`. -/
def informacoesDoPedidoAdmin : Nat → Pagina Tela :=
  mostrarPedido fun resposta =>
    .notificacao s!"Erro ao carregar pedido: Erro na API: {resposta.status}" "danger"

/-- The buttons of a row of `atualizarPedidosPendentes`. -/
def PedidoPendente.verComprovante (pedido : PedidoPendente) : Pagina Tela :=
  IceClube.verComprovante pedido.id

def PedidoPendente.salvarPagamento (pedido : PedidoPendente) (forma : String) :
    Pagina (List Tela) :=
  IceClube.salvarPagamento (editarPagamento pedido.id) forma

/-- The button 'Ver Pedido' of a row of `atualizarMovimentacoes`. -/
def VendaListada.verPedido (venda : VendaListada) : Pagina Tela := informacoesDoPedido venda.id

/-- The same button in the lists of `admin/vendas.html`. -/
def VendaListada.verPedidoAdmin (venda : VendaListada) : Pagina Tela :=
  informacoesDoPedidoAdmin venda.id

end Botoes
end IceClube
