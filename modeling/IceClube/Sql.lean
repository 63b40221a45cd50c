import IceClube.Db
import IceClube.Faulty

/-! The statements of the order and stock routes and what they do to the database.
No trigger and no unique key beyond the identifiers is assumed. -/
namespace IceClube

open Coop

structure ItemEmEstoque where
  produtoId : Nat
  quantidade : ℚ
  emEstoque : ℚ
  nome : String
  deriving DecidableEq, Repr

inductive Sql where
  | getConnection
  | beginTransaction
  | commit
  | updateStatus (status : Status) (id : Nat)
  | updateRua (id : Nat)
  | updateValido (valido : Option Int) (status : Status) (id : Nat)
  | insertLog (id : Nat) (detalhes : String)
  | selectPedido (id : Nat)
  | selectParaEntrega
  | insertEntrega (id : Nat) (pedido : Pedido) (rota : Option Nat)
  | insertEntregaSelect (entregadorId pedidoId : Nat)
  | selectItens (pedidoId : Nat)
  | selectItensEstoque (pedidoId : Nat)
  | deleteItens (pedidoId : Nat)
  | insertItem (pedidoId produtoId : Nat) (quantidade : ℚ)
  | selectEstoque (id : Option Nat)
  | somaEstoque (quantidade : ℚ) (id : Nat)
  | insertLancamento (lancamento : Lancamento)
  | insertVenda (venda : Venda)
  | insertPedido (clienteNumero : String) (vendaId : Nat)

/-- The number of affected rows, the rows read, or the identifier inserted. -/
@[reducible] def Sql.Res : Sql → Type
  | .updateStatus .. => Nat
  | .selectPedido .. => Option Pedido
  | .selectParaEntrega => List (Nat × Pedido)
  | .selectItens .. => List PedidoItem
  | .selectItensEstoque .. => List ItemEmEstoque
  | .selectEstoque .. => Option Estoque
  | .insertLancamento .. | .insertVenda .. | .insertPedido .. => Nat
  | _ => Unit

namespace Db

def setStatus (status : Status) (id : Nat) (db : Db) : Db :=
  { db with pedidosDiarios := db.pedidosDiarios.modify id fun p => { p with status := status } }

def setValido (valido : Option Int) (status : Status) (id : Nat) (db : Db) : Db :=
  { db with pedidosDiarios :=
      db.pedidosDiarios.modify id fun p => { p with valido := valido, status := status } }

def novaEntrega (entrega : Entrega) (db : Db) : Db :=
  { db with entregas := db.entregas.insert entrega }

def itensDe (db : Db) (pedidoId : Nat) : List PedidoItem :=
  db.pedidoItens.filter (·.pedidoId = pedidoId)

/-- The inner join drops the items whose product has no row. -/
def itensEmEstoque (db : Db) (pedidoId : Nat) : List ItemEmEstoque :=
  (db.itensDe pedidoId).filterMap fun item =>
    (db.estoque.get item.produtoId).map fun e =>
      ⟨item.produtoId, item.quantidade, e.quantidade, e.nome⟩

def somaEstoque (quantidade : ℚ) (id : Nat) (db : Db) : Db :=
  { db with estoque :=
      db.estoque.modify id fun e => { e with quantidade := e.quantidade + quantidade } }

def novoLancamento (lancamento : Lancamento) (db : Db) : Db :=
  { db with lancamentos := db.lancamentos.insert lancamento }

def novoItem (item : PedidoItem) (db : Db) : Db :=
  { db with pedidoItens := db.pedidoItens ++ [item] }

def novaVenda (venda : Venda) (db : Db) : Db :=
  { db with vendas := db.vendas.insert venda }

/-- The insertion leaves `valido` to its default, NULL. -/
def novoPedido (clienteNumero : String) (vendaId : Nat) (db : Db) : Db :=
  let pedido : Pedido :=
    { clienteNumero := clienteNumero, status := .novo, vendaId := some vendaId, data := db.hoje }
  { db with pedidosDiarios := db.pedidosDiarios.insert pedido }

end Db

/-- The row that `/enviar_para_entrega` inserts; `status` is left to the column. -/
def entregaEnviada (id : Nat) (pedido : Pedido) (rota : Option Nat) (padrao : StatusEntrega) :
    Entrega where
  pedidoId := id
  clienteNumero := pedido.clienteNumero
  recebido := pedido.recebido
  rota := rota
  dataPedido := pedido.data
  status := padrao

/-- The row that `/api/atribuir-entregas` inserts. -/
def entregaAtribuida (entregadorId id : Nat) (pedido : Pedido) : Entrega where
  pedidoId := id
  clienteNumero := pedido.clienteNumero
  recebido := pedido.recebido
  rota := some 1
  entregadorId := some entregadorId
  dataPedido := pedido.data
  status := .rua

def Sql.sem : (q : Sql) → Db → q.Res × Db
  | .getConnection, db => ((), db)
  | .beginTransaction, db => ((), db)
  | .commit, db => ((), db)
  | .updateStatus status id, db =>
    (if (db.pedidosDiarios.get id).isSome then (1 : Nat) else (0 : Nat), db.setStatus status id)
  | .updateRua id, db => ((), db.setStatus .rua id)
  | .updateValido valido status id, db => ((), db.setValido valido status id)
  | .insertLog id detalhes, db =>
    ((), { db with logAlteracoes := db.logAlteracoes ++ [⟨id, detalhes⟩] })
  | .selectPedido id, db => (db.pedidosDiarios.get id, db)
  | .selectParaEntrega, db =>
    (db.pedidosDiarios.rows.filter fun p => p.2.status = .entrega ∧ p.2.data = db.hoje, db)
  | .insertEntrega id pedido rota, db =>
    ((), db.novaEntrega (entregaEnviada id pedido rota db.statusPadrao))
  | .insertEntregaSelect entregadorId pedidoId, db =>
    match db.pedidosDiarios.get pedidoId with
    | none => ((), db)
    | some pedido => ((), db.novaEntrega (entregaAtribuida entregadorId pedidoId pedido))
  | .selectItens pedidoId, db => (db.itensDe pedidoId, db)
  | .selectItensEstoque pedidoId, db => (db.itensEmEstoque pedidoId, db)
  | .deleteItens pedidoId, db =>
    ((), { db with pedidoItens := db.pedidoItens.filter (·.pedidoId ≠ pedidoId) })
  | .insertItem pedidoId produtoId quantidade, db =>
    ((), db.novoItem ⟨pedidoId, produtoId, quantidade⟩)
  | .selectEstoque id, db => (id.bind db.estoque.get, db)
  | .somaEstoque quantidade id, db => ((), db.somaEstoque quantidade id)
  | .insertLancamento lancamento, db => (db.lancamentos.next, db.novoLancamento lancamento)
  | .insertVenda venda, db => (db.vendas.next, db.novaVenda venda)
  | .insertPedido clienteNumero vendaId, db =>
    (db.pedidosDiarios.next, db.novoPedido clienteNumero vendaId)

end IceClube
