import IceClube.Joins
import IceClube.Keys
import IceClube.Paged
import IceClube.PaginaDeVendas

/-! The grouped lists of sales: `GET /api/vendas` joins five tables and groups the rows by sale,
`GET /api/vendas-por-cliente` groups the sales by client. Each has a count of its own. -/
namespace IceClube

open Coop Prog Joins Paged

abbrev VendaComPedido := (Nat × Venda) × Option (Nat × Pedido)

abbrev VendaComItem := VendaComPedido × Option PedidoItem

abbrev VendaComProduto := VendaComItem × Option (Nat × Estoque)

/-- A row that the joins of `GET /api/vendas` put together, in the order of the statement. -/
abbrev LinhaDeVenda := VendaComProduto × Option (Nat × Entrega)

namespace LinhaDeVenda

variable (linha : LinhaDeVenda)

def venda : Nat × Venda := linha.1.1.1.1

/-- `CONCAT(pi.quantidade, ' x ', e.nome)`, which is NULL when one of the columns is. -/
def produto : Option String :=
  linha.1.1.2.bind fun item =>
    linha.1.2.map fun e => textoNumero item.quantidade ++ " x " ++ e.2.nome

def entrega : Option Entrega := linha.2.map (·.2)

end LinhaDeVenda

namespace Db

variable (db : Db)

def comPedidos (vendas : List (Nat × Venda)) : List VendaComPedido :=
  leftJoin (fun v pd => pd.2.vendaId = some v.1) vendas db.pedidosDiarios.rows

def comPedidoItens (linhas : List VendaComPedido) : List VendaComItem :=
  leftJoin (fun l pi => l.2.any fun pd => pi.pedidoId = pd.1) linhas db.pedidoItens

def comEstoque (linhas : List VendaComItem) : List VendaComProduto :=
  leftJoin (fun l e => l.2.any fun pi => pi.produtoId = e.1) linhas db.estoque.rows

def comEntregas (linhas : List VendaComProduto) : List LinhaDeVenda :=
  leftJoin (fun l e2 => l.1.1.2.any fun pd => e2.2.pedidoId = pd.1) linhas db.entregas.rows

def juntas (vendas : List (Nat × Venda)) : List LinhaDeVenda :=
  db.comEntregas (db.comEstoque (db.comPedidoItens (db.comPedidos vendas)))

end Db

structure LojaAgrupada extends Loja where
  /-- The sales whose `cliente_numero` is NULL. -/
  anonima : Nat → Bool := fun _ => false
  /-- What the collation tells numbers of clients apart by, which is not in the repository. -/
  peso : String → String := id

/-- A row of `GET /api/vendas-por-cliente`. -/
structure ClienteListado where
  clienteNumero : Option String
  totalVendas : Nat
  valorTotal : ℚ
  ultimaCompra : Option Nat
  deriving DecidableEq, Repr

inductive SqlCliente where
  | select (busca : String) (limit offset : Nat)
  | count (busca : String)

@[reducible] def SqlCliente.Res : SqlCliente → Type
  | .select .. => List ClienteListado
  | .count _ => Nat

namespace LojaAgrupada

variable (x : LojaAgrupada)

def clienteDe (v : Nat × Venda) : Option String :=
  if x.anonima v.1 then none else some v.2.clienteNumero

/-- The clause `WHERE` of `GET /api/vendas`; NULL is like no text. -/
def passaVenda (q : FiltrosVendas) (v : Nat × Venda) : Bool :=
  x.passa q v.1 v.2 && (q.clienteNumero = "" || (x.clienteDe v).isSome)

/-- The row of a group. MySQL is free to choose the delivery whose columns it shows. -/
def listadaDe (linhas : List LinhaDeVenda) : Option VendaListada :=
  linhas.head?.map fun linha =>
    let v := linha.venda
    let colunas := x.colunasVenda v.1
    let entrega := (linhas.filterMap (·.entrega)).head?
    { id := v.1
      clienteNumero := (x.clienteDe v).getD ""
      valorTotal := v.2.valorTotal
      valorRecebido := v.2.valorPago.getD 0
      formaPagamento := v.2.formaPagamento
      data := colunas.data.getD x.db.agora
      status := colunas.status.getD "novo"
      temComprovante := v.2.comprovante.isSome
      produtos := groupConcat "," (linhas.filterMap (·.produto))
      motivoFalha := (entrega.bind (·.observacoes)).getD ""
      endereco := (entrega.bind (·.endereco)).getD "" }

/-- The instant of a sale that orders the list; NULL comes last. -/
def instante (v : Nat × Venda) : Nat := (x.colunasVenda v.1).data.getD 0

def dataDoGrupo (linhas : List LinhaDeVenda) : Nat := (linhas.head?.map (x.instante ·.venda)).getD 0

/-- One page of the groups, latest first. -/
def vendasAgrupadas (q : FiltrosVendas) : List VendaListada :=
  let linhas := (x.db.juntas x.db.vendas.rows).filter fun linha => x.passaVenda q linha.venda
  let grupos := groupBy (fun linha : LinhaDeVenda => linha.venda.1) linhas
  let ordenados := grupos.insertionSort fun g h => x.dataDoGrupo h ≤ x.dataDoGrupo g
  (cut q.limit ((q.page - 1) * q.limit) ordenados).filterMap x.listadaDe

/-- The count joins the orders but groups nothing. -/
def contarVendas (q : FiltrosVendas) : Nat :=
  ((x.db.comPedidos x.db.vendas.rows).filter fun linha => x.passaVenda q linha.1).length

/-- The rows of `vendas` for `busca`; NULL is like no text. -/
def vendasDaBusca (busca : String) : List (Nat × Venda) :=
  x.db.vendas.rows.filter fun v =>
    busca = "" || (x.clienteDe v).any fun numero => x.like numero s!"%{busca}%"

/-- What `GROUP BY cliente_numero` compares. -/
def chaveDoCliente (v : Nat × Venda) : Option String := (x.clienteDe v).map x.peso

def clienteListado (vendas : List (Nat × Venda)) : ClienteListado where
  clienteNumero := vendas.head?.bind x.clienteDe
  totalVendas := vendas.length
  valorTotal := (vendas.map (·.2.valorTotal)).sum
  ultimaCompra := (vendas.filterMap fun v => (x.colunasVenda v.1).data).max?

/-- Latest first; NULL comes last. -/
def clientesAgrupados (busca : String) : List ClienteListado :=
  let posicao (c : ClienteListado) : Nat := c.ultimaCompra.elim 0 (· + 1)
  ((groupBy x.chaveDoCliente (x.vendasDaBusca busca)).map x.clienteListado).insertionSort
    fun c d => posicao d ≤ posicao c

end LojaAgrupada

/-- `SqlPagina.sem` with the two statements as they are written. -/
def SqlPagina.semAgrupado : (q : SqlPagina) → LojaAgrupada → q.Res × LojaAgrupada
  | .selectVendas filtros, x => (x.vendasAgrupadas filtros, x)
  | .countVendas filtros, x => (x.contarVendas filtros, x)
  | q, x => ((q.sem x.toLoja).1, { x with toLoja := (q.sem x.toLoja).2 })

def SqlCliente.sem : (q : SqlCliente) → LojaAgrupada → q.Res × LojaAgrupada
  | .select busca limit offset, x => (cut limit offset (x.clientesAgrupados busca), x)
  | .count busca, x => (countDistinct x.chaveDoCliente (x.vendasDaBusca busca), x)

structure RespostaClientes where
  clientes : List ClienteListado
  total : Nat
  page : Int
  limit : Int
  totalPages : Int
  deriving DecidableEq, Repr

section Rotas

abbrev RotaDeClientes := Prog String SqlCliente.Res

/-- A negative limit or offset is a syntax error. -/
def buscarClientes (busca : String) (page limit : Int) :
    RotaDeClientes (Atendida RespostaClientes) := do
  let offset := (page - 1) * limit
  if limit < 0 ∨ offset < 0 then fail "ER_PARSE_ERROR"
  else do
    let clientes ← ask (SqlCliente.select busca limit.toNat offset.toNat)
    let total ← ask (SqlCliente.count busca)
    pure (.ok ⟨clientes, total, page, limit, ⌈(total : ℚ) / limit⌉⟩)

/-- `parseInt(numero) || padrao`. -/
def numeroOu (numero : Option Int) (padrao : Int) : Int := (numero.filter (· ≠ 0)).getD padrao

def getVendasPorCliente (busca : String) (page limit : Option Int) :
    RotaDeClientes (Atendida RespostaClientes) :=
  (buscarClientes busca (numeroOu page 1) (numeroOu limit 10)).handle fun _ =>
    pure (.error ⟨500, "Erro ao buscar vendas por cliente", none⟩)

end Rotas

namespace Db

variable (db : Db)

/-- What the list prints for an item; nothing where its product is not stocked. -/
def nomeDoItem (item : PedidoItem) : Option String :=
  (db.estoque.get item.produtoId).map fun e => textoNumero item.quantidade ++ " x " ++ e.nome

/-- The names that the group of a sale joins: each once for every delivery of its order. -/
def nomesDaVenda (vendaId : Nat) : List String :=
  (db.pedidosDaVenda vendaId).flatMap fun pedidoId =>
    (db.produtosDe " x " pedidoId).flatMap
      (List.replicate (max 1 (db.entregasDoPedido pedidoId).length))

def linhasDoItem (l : VendaComItem) : List LinhaDeVenda := db.comEntregas (db.comEstoque [l])

def entregasDaLinha (pedido : Option (Nat × Pedido)) : List Entrega :=
  pedido.elim [] fun pd => db.entregasDoPedido pd.1

def itensDaVenda (vendaId : Nat) : List PedidoItem :=
  (db.pedidosDaVenda vendaId).flatMap db.itensDe

end Db

section Grupos

variable {db : Db}

/-- An identifier finds its row alone. -/
theorem rows_do_id {α : Type} (t : Table α) (id : Nat) :
    t.rows.filter (fun r => id = r.1) = ((t.get id).map fun a => (id, a)).toList := by
  cases found : t.get id with
  | none =>
    refine List.filter_eq_nil_iff.mpr fun r member same => ?_
    rw [of_decide_eq_true same, Table.mem_rows.mp member] at found
    cases found
  | some a =>
    have alone := filter_key (k := Prod.fst) t.nodup_ids (Table.mem_rows.mpr found)
    simpa [eq_comm] using alone

theorem juntas_linhas (vendas : List (Nat × Venda)) :
    db.juntas vendas = vendas.flatMap fun v => db.juntas [v] := by
  simp only [Db.juntas, Db.comEntregas, Db.comEstoque, Db.comPedidoItens, Db.comPedidos]
  rw [leftJoin_rows vendas]
  simp only [leftJoin_flatMap]

/-- The joins go on from each order to its items and from each item to its product. -/
theorem juntas_itens (v : Nat × Venda) : db.juntas [v] =
    (db.comPedidos [v]).flatMap fun l => (db.comPedidoItens [l]).flatMap db.linhasDoItem := by
  have itens : db.comPedidoItens (db.comPedidos [v]) =
      (db.comPedidos [v]).flatMap fun l => db.comPedidoItens [l] := leftJoin_rows _
  simp only [Db.juntas, itens, Db.comEntregas, Db.comEstoque, leftJoin_flatMap]
  refine congrArg (List.flatMap · _) (funext fun l => ?_)
  rw [leftJoin_rows (db.comPedidoItens [l]), leftJoin_flatMap]
  rfl

theorem linhas_do_item (l : VendaComItem) :
    db.linhasDoItem l =
      (Joins.optional (db.estoque.rows.filter fun e => l.2.any fun pi => pi.produtoId = e.1)).flatMap
        fun e => (Joins.optional (db.entregas.rows.filter fun e2 =>
          l.1.2.any fun pd => e2.2.pedidoId = pd.1)).map fun e2 => ((l, e), e2) := by
  rw [Db.linhasDoItem, Db.comEstoque, leftJoin_singleton, Db.comEntregas, leftJoin_rows,
    List.flatMap_map]
  simp only [leftJoin_singleton]

theorem rows_das_entregas (pedido : Option (Nat × Pedido)) :
    (db.entregas.rows.filter fun e2 => pedido.any fun pd => e2.2.pedidoId = pd.1).map (·.2) =
      db.entregasDaLinha pedido := by
  cases pedido with
  | none => simp [Db.entregasDaLinha]
  | some pd => rfl

/-- An item is named once for each delivery, and once where there is none. -/
theorem produtos_do_item (l : VendaComItem) :
    (db.linhasDoItem l).filterMap (·.produto) = (l.2.bind db.nomeDoItem).toList.flatMap
      (List.replicate (max 1 (db.entregasDaLinha l.1.2).length)) := by
  obtain ⟨l, item⟩ := l
  have entregas : (Joins.optional (db.entregas.rows.filter fun e2 =>
      l.2.any fun pd => e2.2.pedidoId = pd.1)).length = max 1 (db.entregasDaLinha l.2).length := by
    rw [length_optional, ← rows_das_entregas, List.length_map]
  rw [linhas_do_item]
  simp only [List.filterMap_flatMap, List.filterMap_map, Function.comp_def, LinhaDeVenda.produto,
    filterMap_same, entregas]
  cases item with
  | none => simp
  | some item =>
    simp only [Option.any_some, Option.bind_some]
    rw [flatMap_optional rfl, rows_do_id, Db.nomeDoItem]
    cases db.estoque.get item.produtoId <;> simp

/-- Each row of an item shows a delivery of its order, the first one first. -/
theorem entrega_do_item (l : VendaComItem) :
    ((db.linhasDoItem l).filterMap (·.entrega)).head? = (db.entregasDaLinha l.1.2).head? := by
  rw [linhas_do_item]
  simp only [List.filterMap_flatMap, List.filterMap_map, Function.comp_def, LinhaDeVenda.entrega]
  have entregas : (Joins.optional (db.entregas.rows.filter fun e2 =>
      l.1.2.any fun pd => e2.2.pedidoId = pd.1)).filterMap (fun e2 => e2.map (·.2)) =
        db.entregasDaLinha l.1.2 := by
    have each := filterMap_optional (fun e2 : Nat × Entrega => some e2.2)
      (db.entregas.rows.filter fun e2 => l.1.2.any fun pd => e2.2.pedidoId = pd.1)
    rw [List.filterMap_eq_map', rows_das_entregas] at each
    rw [← each]
    exact List.filterMap_congr fun e2 _ => Option.map_eq_bind
  exact head_parts (optional_ne_nil _) fun e _ => congrArg List.head? entregas

theorem pedidos_da_venda (v : Nat × Venda) :
    db.comPedidos [v] = (Joins.optional
      (db.pedidosDiarios.rows.filter fun pd => pd.2.vendaId = some v.1)).map fun pd => (v, pd) :=
  leftJoin_singleton v

theorem itens_do_pedido (l : VendaComPedido) :
    db.comPedidoItens [l] = (Joins.optional
      (l.2.elim [] fun pd => db.itensDe pd.1)).map fun pi => (l, pi) := by
  rw [Db.comPedidoItens, leftJoin_singleton]
  cases l.2 with
  | none => simp
  | some pd => rfl

theorem produtosDe_itens (pedidoId : Nat) :
    db.produtosDe " x " pedidoId = (db.itensDe pedidoId).filterMap db.nomeDoItem := rfl

theorem produtos_da_venda (v : Nat × Venda) :
    (db.juntas [v]).filterMap (·.produto) = db.nomesDaVenda v.1 := by
  simp only [juntas_itens, pedidos_da_venda, itens_do_pedido, List.filterMap_flatMap,
    List.flatMap_map, produtos_do_item]
  rw [flatMap_optional]
  · rw [Db.nomesDaVenda, Db.pedidosDaVenda, List.flatMap_map]
    refine congrArg (List.flatMap · _) (funext fun pd => ?_)
    rw [Option.elim_some, flatMap_optional rfl, produtosDe_itens, List.filterMap_eq_flatMap_toList,
      List.flatMap_assoc]
    rfl
  · simp [Joins.optional]

theorem entrega_da_venda (v : Nat × Venda) :
    ((db.juntas [v]).filterMap (·.entrega)).head? =
      ((db.pedidosDaVenda v.1).flatMap db.entregasDoPedido).head? := by
  have pedido (pd : Option (Nat × Pedido)) : ((db.comPedidoItens [(v, pd)]).flatMap fun l =>
      (db.linhasDoItem l).filterMap (·.entrega)).head? = (db.entregasDaLinha pd).head? := by
    rw [itens_do_pedido, List.flatMap_map]
    exact head_parts (optional_ne_nil _) fun item _ => entrega_do_item ((v, pd), item)
  have sem_pedido : ((db.comPedidoItens [(v, none)]).flatMap fun l =>
      (db.linhasDoItem l).filterMap (·.entrega)) = [] := List.head?_eq_none_iff.mp (pedido none)
  simp only [juntas_itens, pedidos_da_venda, List.filterMap_flatMap, List.flatMap_map]
  rw [flatMap_optional sem_pedido, List.head?_flatMap, Db.pedidosDaVenda, List.flatMap_map,
    List.head?_flatMap]
  exact congrArg (List.findSome? · _) (funext fun pd => pedido (some pd))

theorem venda_das_linhas {v : Nat × Venda} {linha : LinhaDeVenda}
    (member : linha ∈ db.juntas [v]) : linha.venda = v :=
  List.mem_singleton.mp <| mem_leftJoin <| mem_leftJoin <| mem_leftJoin <| mem_leftJoin member

variable (db) in
theorem juntas_ne_nil (v : Nat × Venda) : db.juntas [v] ≠ [] :=
  leftJoin_ne_nil <| leftJoin_ne_nil <| leftJoin_ne_nil <| leftJoin_ne_nil (List.cons_ne_nil v [])

variable (db) in
theorem venda_da_primeira (v : Nat × Venda) :
    (db.juntas [v]).head?.map (·.venda) = some v := by
  obtain ⟨linha, linhas, rows⟩ := List.exists_cons_of_ne_nil (juntas_ne_nil db v)
  have first : linha.venda = v := venda_das_linhas (by rw [rows]; exact List.mem_cons_self)
  rw [rows, List.head?_cons, Option.map_some, first]

end Grupos

namespace LojaAgrupada

variable (x : LojaAgrupada)

def vendasQuePassam (q : FiltrosVendas) : List (Nat × Venda) :=
  x.db.vendas.rows.filter (x.passaVenda q)

def ordenadas (q : FiltrosVendas) : List (Nat × Venda) :=
  (x.vendasQuePassam q).insertionSort fun v w => x.instante w ≤ x.instante v

/-- The row of a sale: the one of `Loja.listada`, with the names in the order of the joins. -/
def vendaListada (v : Nat × Venda) : VendaListada :=
  { x.listada v.1 v.2 with
    clienteNumero := (x.clienteDe v).getD ""
    produtos := groupConcat "," (x.db.nomesDaVenda v.1) }

/-- The answers where every query is answered. -/
def responderVendas (q : FiltrosVendas) : Atendida RespostaVendas :=
  match ((getVendas q).run (Reliable SqlPagina.semAgrupado) x).1 with
  | .ok resposta => resposta
  | .error erro => .error ⟨500, erro, none⟩

def responderClientes (busca : String) (page limit : Int) : Atendida RespostaClientes :=
  match ((getVendasPorCliente busca (some page) (some limit)).run (Reliable SqlCliente.sem) x).1 with
  | .ok resposta => resposta
  | .error erro => .error ⟨500, erro, none⟩

end LojaAgrupada

/-- The filters that `GET /api/vendas` does not refuse, with a limit whose pages MySQL reads. -/
def FiltrosVendas.Aceitos (q : FiltrosVendas) : Prop :=
  q.dataInicio ≠ some none ∧ q.dataFim ≠ some none ∧
    (∀ formas ∈ q.formaPagamento, ∀ forma ∈ formas, forma ∈ formasAceitas) ∧
    0 < q.limit ∧ q.limit < 2 ^ 63

/-- A text of products names each item of the orders of a sale exactly once. -/
def Db.NomeiaItens (db : Db) (vendaId : Nat) (produtos : Option String) : Prop :=
  ∃ nomes : List String, (nomes.map some).Perm ((db.itensDaVenda vendaId).map db.nomeDoItem) ∧
    produtos = groupConcat "," nomes

/-- The pages of `GET /api/vendas` show each sale that matches once, with its items, up to the first
page that is empty, and every one tells the number of these sales. -/
def VendasCertas (x : LojaAgrupada) (q : FiltrosVendas) : Prop :=
  ∃ (lista : List VendaListada) (pagina : Nat → RespostaVendas) (ultima : Nat),
    (∀ n, 1 ≤ n → n ≤ ultima + 1 → x.responderVendas { q with page := n } = .ok (pagina n) ∧
      (pagina n).total = (x.vendasQuePassam q).length) ∧
    Partition (fun n => (pagina n).vendas) ultima lista ∧
    (lista.map (·.id)).Perm ((x.vendasQuePassam q).map (·.1)) ∧
    ∀ l ∈ lista, x.db.NomeiaItens l.id l.produtos

/-- Every page of `GET /api/vendas-por-cliente`, up to the first one that is empty, tells the number
of groups on all of them. -/
def ClientesCertos (x : LojaAgrupada) (busca : String) (limit : Int) : Prop :=
  ∃ (grupos : List ClienteListado) (pagina : Nat → RespostaClientes) (ultima : Nat),
    (∀ n : Nat, 1 ≤ n → n ≤ ultima + 1 → x.responderClientes busca n limit = .ok (pagina n) ∧
      (pagina n).total = grupos.length) ∧
    Partition (fun n => (pagina n).clientes) ultima grupos

/-- The sale has one order at most; its items are stocked, and one delivery repeats none. -/
def Db.VendaSimples (db : Db) (vendaId : Nat) : Prop :=
  (db.pedidosDaVenda vendaId).length ≤ 1 ∧
    ∀ pedidoId ∈ db.pedidosDaVenda vendaId,
      (∀ item ∈ db.itensDe pedidoId, (db.estoque.get item.produtoId).isSome) ∧
      (db.itensDe pedidoId = [] ∨ (db.entregasDoPedido pedidoId).length ≤ 1)

instance (db : Db) (vendaId : Nat) : Decidable (db.VendaSimples vendaId) :=
  inferInstanceAs (Decidable (_ ∧ _))

section Listas

variable {x : LojaAgrupada} {q : FiltrosVendas}

theorem listadaDe_venda (v : Nat × Venda) :
    x.listadaDe (x.db.juntas [v]) = some (x.vendaListada v) := by
  obtain ⟨linha, first, same⟩ := Option.map_eq_some_iff.mp (venda_da_primeira x.db v)
  rw [LojaAgrupada.listadaDe, first, Option.map_some]
  simp only [same, produtos_da_venda, entrega_da_venda]
  rfl

theorem dataDoGrupo_venda (v : Nat × Venda) : x.dataDoGrupo (x.db.juntas [v]) = x.instante v := by
  obtain ⟨linha, first, same⟩ := Option.map_eq_some_iff.mp (venda_da_primeira x.db v)
  rw [LojaAgrupada.dataDoGrupo, first, Option.map_some, same, Option.getD_some]

/-- The groups are the sales that match. -/
theorem grupos_de_vendas : groupBy (fun linha : LinhaDeVenda => linha.venda.1)
    ((x.db.juntas x.db.vendas.rows).filter fun linha => x.passaVenda q linha.venda) =
      (x.vendasQuePassam q).map fun v => x.db.juntas [v] := by
  have part : (x.db.juntas x.db.vendas.rows).filter (fun linha => x.passaVenda q linha.venda) =
      (x.vendasQuePassam q).flatMap fun v => x.db.juntas [v] := by
    rw [juntas_linhas]
    exact filter_flatMap_part fun v _ linha member => by rw [venda_das_linhas member]
  rw [part]
  refine groupBy_flatMap (k := Prod.fst) ?_ (fun v _ => juntas_ne_nil x.db v) ?_
  · intro v _ linha member
    rw [venda_das_linhas member]
  · exact x.db.vendas.nodup_ids.sublist (List.filter_sublist.map _)

/-- The statement of the list hands out the matching sales in pages, latest first. -/
theorem vendas_agrupadas :
    x.vendasAgrupadas q = page q.limit ((x.ordenadas q).map x.vendaListada) q.page := by
  have ordered : ((x.vendasQuePassam q).map fun v => x.db.juntas [v]).insertionSort
      (fun g h => x.dataDoGrupo h ≤ x.dataDoGrupo g) =
        (x.ordenadas q).map fun v => x.db.juntas [v] := by
    refine (List.map_insertionSort _ _ _ _ fun v _ w _ => ?_).symm
    rw [dataDoGrupo_venda, dataDoGrupo_venda]
  rw [LojaAgrupada.vendasAgrupadas, grupos_de_vendas, ordered]
  simp only [page, cut, ← List.map_drop, ← List.map_take, List.filterMap_map, Function.comp_def,
    listadaDe_venda]
  exact congrFun List.filterMap_eq_map' _

theorem contar_vendas : x.contarVendas q = (x.db.comPedidos (x.vendasQuePassam q)).length :=
  congrArg List.length (filter_leftJoin (x.passaVenda q))

/-- The count is right where no sale that matches has two orders. -/
theorem contar_vendas_iff : x.contarVendas q = (x.vendasQuePassam q).length ↔
    ∀ v ∈ x.vendasQuePassam q, (x.db.pedidosDaVenda v.1).length ≤ 1 := by
  rw [contar_vendas, Db.comPedidos, length_leftJoin_eq_iff]
  simp only [Db.pedidosDaVenda, List.length_map]

/-- Where every sale has a client, the closed form `SqlPagina.sem` gives the same list, but for
the order of the names, which MySQL leaves open. -/
theorem listas_iguais (conhecidas : ∀ id, x.anonima id = false) :
    List.Forall₂ (fun l m => ∃ nomes nomes', nomes.Perm nomes' ∧
      m.produtos = groupConcat "," nomes' ∧ l = { m with produtos := groupConcat "," nomes })
      (x.vendasAgrupadas q) (x.toLoja.listaVendas q) := by
  have cliente (v : Nat × Venda) : x.clienteDe v = some v.2.clienteNumero := by
    rw [LojaAgrupada.clienteDe, conhecidas, if_neg Bool.false_ne_true]
  have passam : x.vendasQuePassam q = x.toLoja.vendasFiltradas q :=
    List.filter_congr fun v _ => by rw [LojaAgrupada.passaVenda, cliente]; simp
  rw [vendas_agrupadas, LojaAgrupada.ordenadas, passam, page, cut, ← List.map_drop, ← List.map_take,
    Loja.listaVendas]
  refine List.forall₂_map_left_iff.mpr <| List.forall₂_map_right_iff.mpr <|
    List.forall₂_same.mpr fun v _ => ?_
  refine ⟨x.db.nomesDaVenda v.1, _, ?_, rfl, ?_⟩
  · exact List.Perm.flatMap_left _ fun pedidoId _ => perm_repeated _ _
  · rw [LojaAgrupada.vendaListada, cliente]
    rfl

end Listas

section Nomes

variable {db : Db}

/-- The length of a text that names are joined to, and of one separator. -/
def comprimento (nomes : List String) : Nat := (nomes.map fun nome => nome.length + 1).sum

theorem comprimento_groupConcat (nomes : List String) :
    (groupConcat "," nomes).elim 0 (fun texto => texto.length + 1) = comprimento nomes := by
  rw [groupConcat]
  split
  next none_there => rw [none_there]; rfl
  next some_name =>
    rw [Option.elim_some]
    induction nomes with
    | nil => exact absurd rfl some_name
    | cons nome nomes ih =>
      by_cases last : nomes = []
      · simp [last, comprimento]
      · have rest := ih last
        rw [String.intercalate_cons_of_ne_nil last]
        simp only [String.length_append, comprimento, List.map_cons, List.sum_cons] at rest ⊢
        have comma : ",".length = 1 := rfl
        omega

theorem comprimento_repetidos (nomes : List String) (n : Nat) :
    comprimento (nomes.flatMap (List.replicate n)) = n * comprimento nomes := by
  induction nomes with
  | nil => simp [comprimento]
  | cons nome nomes ih =>
    simp only [comprimento] at ih ⊢
    rw [List.flatMap_cons, List.map_append, List.sum_append, ih, List.map_replicate,
      List.sum_replicate_nat, List.map_cons, List.sum_cons, ← Nat.mul_add]

theorem comprimento_eq_zero {nomes : List String} (zero : comprimento nomes = 0) : nomes = [] := by
  cases nomes with
  | nil => rfl
  | cons nome nomes =>
    rw [comprimento, List.map_cons, List.sum_cons] at zero
    omega

theorem isSome_nomeDoItem (item : PedidoItem) :
    (db.nomeDoItem item).isSome = (db.estoque.get item.produtoId).isSome := Option.isSome_map

/-- Only stocked items have names. -/
theorem nomes_dos_itens {nomes : List String} {itens : List PedidoItem}
    (perm : (nomes.map some).Perm (itens.map db.nomeDoItem)) :
    (∀ item ∈ itens, (db.estoque.get item.produtoId).isSome) ∧
      nomes.Perm (itens.filterMap db.nomeDoItem) := by
  constructor
  · intro item member
    obtain ⟨nome, -, same⟩ := List.mem_map.mp (perm.mem_iff.mpr (List.mem_map_of_mem member))
    rw [← isSome_nomeDoItem, ← same, Option.isSome_some]
  · have left : (nomes.map some).filterMap id = nomes := by simp [List.filterMap_map]
    have right : (itens.map db.nomeDoItem).filterMap id = itens.filterMap db.nomeDoItem := by
      simp [List.filterMap_map]
    exact left ▸ right ▸ perm.filterMap id

theorem nomes_em_estoque {itens : List PedidoItem}
    (stocked : ∀ item ∈ itens, (db.estoque.get item.produtoId).isSome) :
    (itens.filterMap db.nomeDoItem).map some = itens.map db.nomeDoItem := by
  induction itens with
  | nil => rfl
  | cons item itens ih =>
    rw [List.forall_mem_cons, ← isSome_nomeDoItem] at stocked
    obtain ⟨nome, known⟩ := Option.isSome_iff_exists.mp stocked.1
    rw [List.filterMap_cons_some known, List.map_cons, List.map_cons, known, ih stocked.2]

/-- A text that repeats each name shows it by its length. -/
theorem repetidos_uma_vez {nomes repetidos : List String} {n : Nat} (perm : nomes.Perm repetidos)
    (texto : groupConcat "," (repetidos.flatMap (List.replicate n)) = groupConcat "," nomes) :
    repetidos = [] ∨ n = 1 := by
  have lengths := congrArg (·.elim 0 fun texto : String => texto.length + 1) texto
  simp only [comprimento_groupConcat, comprimento_repetidos] at lengths
  have same : comprimento nomes = comprimento repetidos := (perm.map _).sum_eq
  rw [same] at lengths
  by_cases zero : comprimento repetidos = 0
  · exact .inl (comprimento_eq_zero zero)
  · exact .inr ((Nat.mul_eq_right zero).mp lengths)

/-- The text of one order is right where its items are stocked and no delivery repeats them. -/
theorem nomeia_pedido {pedidoId vendaId : Nat} (only : db.pedidosDaVenda vendaId = [pedidoId]) :
    db.NomeiaItens vendaId (groupConcat "," (db.nomesDaVenda vendaId)) ↔
      (∀ item ∈ db.itensDe pedidoId, (db.estoque.get item.produtoId).isSome) ∧
      (db.itensDe pedidoId = [] ∨ (db.entregasDoPedido pedidoId).length ≤ 1) := by
  have itens : db.itensDaVenda vendaId = db.itensDe pedidoId := by
    rw [Db.itensDaVenda, only, List.flatMap_singleton]
  have repetidos : db.nomesDaVenda vendaId = (db.produtosDe " x " pedidoId).flatMap
      (List.replicate (max 1 (db.entregasDoPedido pedidoId).length)) := by
    rw [Db.nomesDaVenda, only, List.flatMap_singleton]
  rw [Db.NomeiaItens, itens, repetidos, produtosDe_itens]
  constructor
  · rintro ⟨nomes, perm, texto⟩
    obtain ⟨stocked, each⟩ := nomes_dos_itens perm
    refine ⟨stocked, (repetidos_uma_vez each texto).imp (fun none_there => ?_) fun one => ?_⟩
    · have lengths := congrArg List.length (nomes_em_estoque stocked)
      rw [none_there, List.map_nil, List.length_nil, List.length_map] at lengths
      exact List.length_eq_zero_iff.mp lengths.symm
    · omega
  · rintro ⟨stocked, once⟩
    refine ⟨(db.itensDe pedidoId).filterMap db.nomeDoItem, .of_eq (nomes_em_estoque stocked), ?_⟩
    rcases once with none_there | once
    · rw [none_there]
      rfl
    · rw [Nat.max_eq_left once]
      exact congrArg _ (List.flatMap_singleton' _)

/-- The text of a sale with one order at most. -/
theorem nomeia_venda {vendaId : Nat} (few : (db.pedidosDaVenda vendaId).length ≤ 1) :
    db.NomeiaItens vendaId (groupConcat "," (db.nomesDaVenda vendaId)) ↔
      db.VendaSimples vendaId := by
  cases pedidos : db.pedidosDaVenda vendaId with
  | nil =>
    have right : db.NomeiaItens vendaId (groupConcat "," (db.nomesDaVenda vendaId)) :=
      ⟨[], by simp [Db.itensDaVenda, pedidos], by simp [Db.nomesDaVenda, pedidos]⟩
    exact iff_of_true right ⟨few, by simp [pedidos]⟩
  | cons pedidoId others =>
    rw [pedidos, List.length_cons] at few
    obtain rfl : others = [] := List.length_eq_zero_iff.mp (by omega)
    rw [nomeia_pedido pedidos, Db.VendaSimples, pedidos]
    simp

end Nomes

section Respostas

variable {x : LojaAgrupada} {q : FiltrosVendas} {busca : String} {limit : Int}

theorem responder_vendas (valid : q.Aceitos) (first : 1 ≤ q.page) : x.responderVendas q =
    .ok ⟨x.vendasAgrupadas q, x.contarVendas q, q.page, q.limit,
      (x.contarVendas q + q.limit - 1) / q.limit⟩ := by
  obtain ⟨inicio, fim, formas, -⟩ := valid
  have known : ¬ (q.formaPagamento.any fun formas => formas.any (!formasAceitas.contains ·)) := by
    simpa [Option.any_eq_true] using formas
  have offset : ¬ (q.page = 0 ∧ q.limit ≠ 0) := by omega
  rw [LojaAgrupada.responderVendas, getVendas, if_neg inicio, if_neg fim, if_neg known,
    buscarVendas, if_neg offset]
  rfl

theorem page_das_vendas (valid : q.Aceitos) {n : Nat} (first : 1 ≤ n) {resposta : RespostaVendas}
    (answered : x.responderVendas { q with page := n } = .ok resposta) :
    resposta.vendas = page q.limit ((x.ordenadas q).map x.vendaListada) n ∧
      resposta.total = x.contarVendas q := by
  rw [responder_vendas (q := { q with page := n }) valid first] at answered
  obtain rfl := Except.ok.inj answered
  exact ⟨vendas_agrupadas, rfl⟩

/-- The list of sales is right just where the sales that match are simple. -/
theorem vendasCertas_iff (valid : q.Aceitos) :
    VendasCertas x q ↔ ∀ v ∈ x.vendasQuePassam q, x.db.VendaSimples v.1 := by
  have positive : 0 < q.limit := valid.2.2.2.1
  have sorted : (x.ordenadas q).Perm (x.vendasQuePassam q) := List.perm_insertionSort ..
  constructor
  · rintro ⟨lista, pagina, ultima, answers, whole, -, itens⟩ v member
    have one := answers 1 le_rfl (Nat.le_add_left 1 ultima)
    have count := (page_das_vendas valid le_rfl one.1).2
    have few := contar_vendas_iff.mp (count.symm.trans one.2)
    obtain rfl : lista = (x.ordenadas q).map x.vendaListada :=
      whole.eq_of_page positive fun n first last =>
        (page_das_vendas valid first (answers n first last).1).1
    refine (nomeia_venda (few v member)).mp ?_
    exact itens _ (List.mem_map_of_mem (sorted.mem_iff.mpr member))
  · intro simples
    refine ⟨(x.ordenadas q).map x.vendaListada, fun n => ⟨page q.limit
      ((x.ordenadas q).map x.vendaListada) n, x.contarVendas q, n, q.limit,
      (x.contarVendas q + q.limit - 1) / q.limit⟩, _, fun n first _ => ⟨?_, ?_⟩,
      partition_ceil positive _, ?_, ?_⟩
    · rw [responder_vendas (q := { q with page := n }) valid first, vendas_agrupadas]
      rfl
    · exact contar_vendas_iff.mpr fun v member => (simples v member).1
    · rw [List.map_map]
      exact sorted.map _
    · intro l member
      obtain ⟨v, inside, rfl⟩ := List.mem_map.mp member
      have simple := simples v (sorted.mem_iff.mp inside)
      exact (nomeia_venda simple.1).mpr simple

theorem numeroOu_some {n padrao : Int} (given : n ≠ 0) : numeroOu (some n) padrao = n := by
  rw [numeroOu, Option.filter_some_pos (by simpa using given), Option.getD_some]

theorem responder_clientes (positive : 1 ≤ limit) {n : Nat} (first : 1 ≤ n) :
    x.responderClientes busca n limit =
      .ok ⟨page limit.toNat (x.clientesAgrupados busca) n,
        countDistinct x.chaveDoCliente (x.vendasDaBusca busca), n, limit,
        ⌈(countDistinct x.chaveDoCliente (x.vendasDaBusca busca) : ℚ) / limit⌉⟩ := by
  have offset : ((n : Int) - 1) * limit = ((n - 1) * limit.toNat : Nat) := by
    rw [Nat.cast_mul, Nat.cast_sub first, Int.toNat_of_nonneg (by omega), Nat.cast_one]
  have valid : ¬ (limit < 0 ∨ ((n : Int) - 1) * limit < 0) := by
    rw [offset]
    omega
  rw [LojaAgrupada.responderClientes, getVendasPorCliente, numeroOu_some (by omega),
    numeroOu_some (by omega), buscarClientes, if_neg valid, page, ← Int.toNat_natCast (_ * _),
    ← offset]
  rfl

theorem length_clientes : (x.clientesAgrupados busca).length =
    countDistinct x.chaveDoCliente (x.vendasDaBusca busca) +
      if ∃ v ∈ x.vendasDaBusca busca, x.chaveDoCliente v = none then 1 else 0 := by
  rw [LojaAgrupada.clientesAgrupados, List.length_insertionSort, List.length_map,
    length_groupBy_option]

/-- NULL is a group of its own in the list of all clients. -/
theorem cliente_nulo_iff : (∃ v ∈ x.vendasDaBusca busca, x.chaveDoCliente v = none) ↔
    ¬ (busca ≠ "" ∨ ∀ v ∈ x.db.vendas.rows, x.anonima v.1 = false) := by
  have nulo (v : Nat × Venda) : x.chaveDoCliente v = none ↔ x.anonima v.1 = true := by
    rw [LojaAgrupada.chaveDoCliente, Option.map_eq_none_iff, LojaAgrupada.clienteDe]
    split
    next yes => simp [yes]
    next no => simp [no]
  constructor
  · rintro ⟨v, member, null⟩ (given | all)
    · obtain ⟨inside, like⟩ := List.mem_filter.mp member
      rw [LojaAgrupada.chaveDoCliente, Option.map_eq_none_iff] at null
      simp [given, null] at like
    · have known := all v (List.mem_filter.mp member).1
      rw [(nulo v).mp null] at known
      cases known
  · intro neither
    obtain ⟨missing, someone⟩ := not_or.mp neither
    obtain ⟨v, someone⟩ := not_forall.mp someone
    obtain ⟨inside, anonymous⟩ := Classical.not_imp.mp someone
    refine ⟨v, List.mem_filter.mpr ⟨inside, by simp [not_not.mp missing]⟩, (nulo v).mpr ?_⟩
    simpa using anonymous

/-- The count of clients is right just where no sale without a client is listed. -/
theorem clientesCertos_iff (positive : 1 ≤ limit) : ClientesCertos x busca limit ↔
    busca ≠ "" ∨ ∀ v ∈ x.db.vendas.rows, x.anonima v.1 = false := by
  have above : 0 < limit.toNat := by omega
  constructor
  · rintro ⟨grupos, pagina, ultima, answers, whole⟩
    have known (n : Nat) (first : 1 ≤ n) (last : n ≤ ultima + 1) :=
      Except.ok.inj ((responder_clientes positive first).symm.trans (answers n first last).1)
    obtain rfl : grupos = x.clientesAgrupados busca :=
      whole.eq_of_page above fun n first last => by rw [← known n first last]
    have total := (answers 1 le_rfl (Nat.le_add_left 1 ultima)).2
    rw [← known 1 le_rfl (Nat.le_add_left 1 ultima), length_clientes] at total
    by_contra wrong
    rw [if_pos (cliente_nulo_iff.mpr wrong)] at total
    exact absurd total (Nat.ne_of_lt (Nat.lt_succ_self _))
  · intro right
    refine ⟨x.clientesAgrupados busca, _, _, fun n first _ =>
      ⟨responder_clientes positive first, ?_⟩, partition_ceil above _⟩
    rw [length_clientes, if_neg fun null => cliente_nulo_iff.mp null right]
    rfl

/-- When the two lists count what they show. -/
theorem listas_contam (x : LojaAgrupada) (q : FiltrosVendas) (busca : String) (limit : Int)
    (valid : q.Aceitos) (read : 1 ≤ limit ∧ limit < 2 ^ 63) :
    (VendasCertas x q ↔ ∀ v ∈ x.vendasQuePassam q, x.db.VendaSimples v.1) ∧
    (ClientesCertos x busca limit ↔
      busca ≠ "" ∨ ∀ v ∈ x.db.vendas.rows, x.anonima v.1 = false) :=
  ⟨vendasCertas_iff valid, clientesCertos_iff read.1⟩

/-- Two sales of one day; the first has an order with one item and some deliveries, and the second
may have no client. -/
def umCoco (entregas : Nat) (anonima : Nat → Bool) : LojaAgrupada where
  db :=
    { vendas := .ofList
        [{ clienteNumero := "5511999990000", formaPagamento := "pix", valorTotal := 5 },
          { clienteNumero := "5511888880000", formaPagamento := "pix", valorTotal := 7 }]
      pedidosDiarios := .ofList
        [{ clienteNumero := "5511999990000", status := .novo, vendaId := some 1 }]
      pedidoItens := [⟨1, 1, 1⟩]
      estoque := .ofList [⟨"Coco", 10, "un", 5⟩]
      entregas := .ofList <| List.replicate entregas
        { pedidoId := 1, clienteNumero := "5511999990000", status := .rua } }
  colunasVenda _ := { data := some 0 }
  anonima := anonima

theorem filtros_vazios : ({} : FiltrosVendas).Aceitos := by simp [FiltrosVendas.Aceitos]

/-- One delivery repeats nothing. -/
theorem um_coco : VendasCertas (umCoco 1 fun _ => false) {} ∧
    ClientesCertos (umCoco 1 fun _ => false) "" 10 :=
  have both := listas_contam (umCoco 1 fun _ => false) {} "" 10 filtros_vazios (by decide)
  ⟨both.1.mpr (by decide +kernel), both.2.mpr (.inr (by decide))⟩

/-- The second delivery names the coconut again, and NULL is a group that is not counted. -/
theorem coco_repetido : ¬ VendasCertas (umCoco 2 fun id => id = 2) {} ∧
    ¬ ClientesCertos (umCoco 2 fun id => id = 2) "" 10 := by
  constructor
  · rw [vendasCertas_iff filtros_vazios]
    decide +kernel
  · rw [clientesCertos_iff (by decide)]
    decide +kernel

end Respostas
end IceClube
