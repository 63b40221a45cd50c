import IceClube.Sql

/-! The three routes that hold a connection of their own. The statements of one request
take effect together when it commits and not at all when it is rolled back; a rejected
statement rolls back too. -/
namespace IceClube

open Coop Prog

/-- An answer: HTTP status, text and, where one is returned, the new identifier. -/
structure Resposta where
  status : Nat
  mensagem : String
  id : Option Nat := none
  deriving DecidableEq, Repr

abbrev Consulta := Prog String Sql.Res

abbrev query (q : Sql) : Consulta q.Res := ask q

/-- How a transaction ends when no statement was rejected. -/
inductive Fim where
  | commit (resposta : Resposta)
  | rollback (resposta : Resposta)
  deriving DecidableEq, Repr

structure CorpoValido where
  id : Nat
  valido : Option Int
  deriving DecidableEq, Repr

/-- `POST /api/lancamentos`; a missing text is empty and a missing number is `none`. -/
structure CorpoLancamento where
  descricao : String
  categoria : String := ""
  dataLancamento : String
  tipo : String := ""
  pedidoId : Option Nat := none
  valor : Option ℚ := none
  deriving DecidableEq, Repr

/-- A line of a manual order; `none` is a missing product, or a quantity that is no number. -/
structure Linha where
  produtoId : Option Nat
  quantidade : Option ℚ
  deriving DecidableEq, Repr

/-- The field `itens`, after `JSON.parse` of a text. -/
inductive Itens where
  | invalido
  | naoLista
  | lista (linhas : List Linha)
  deriving DecidableEq, Repr

structure Arquivo where
  mimetype : String
  buffer : String
  deriving DecidableEq, Repr

/-- `POST /api/pedido_manual`; the two amounts are `none` when empty or not a number. -/
structure CorpoPedido where
  clienteNumero : String
  formaPagamento : String
  itens : Itens
  valorPago : Option ℚ := none
  valorDinheiro : Option ℚ := none
  comprovante : Option Arquivo := none
  deriving DecidableEq, Repr

def CorpoPedido.linhas (corpo : CorpoPedido) : List Linha :=
  match corpo.itens with
  | .lista linhas => linhas
  | _ => []

section Valido

/-- The first line that asks for more than the stock, as the loop finds it. -/
def insuficiente (itens : List ItemEmEstoque) : Option ItemEmEstoque :=
  itens.find? fun item => item.quantidade > item.emEstoque

def corpoValido (corpo : CorpoValido) : Consulta Fim := do
  query .getConnection
  query .beginTransaction
  if corpo.valido = some 0 then do
    query (.updateValido corpo.valido .finalizado corpo.id)
    query .commit
    pure (.commit ⟨200, "OK", none⟩)
  else do
    let pedido ← query (.selectPedido corpo.id)
    if pedido.isNone then pure (.rollback ⟨404, "Pedido não encontrado", none⟩)
    else do
      let itens ← query (.selectItensEstoque corpo.id)
      match insuficiente itens with
      | some item =>
        let texto := s!"Estoque insuficiente para o produto {item.nome} (ID: {item.produtoId})"
        pure (.rollback ⟨400, texto, none⟩)
      | none => do
        query (.updateValido corpo.valido .novo corpo.id)
        query .commit
        pure (.commit ⟨200, "OK", none⟩)

end Valido

section Lancamento

/-- A form field that JavaScript takes for missing when it is zero. -/
def naoZero (campo : Option Nat) : Option Nat := campo.filter fun x => x ≠ 0

def CorpoLancamento.valorOuNull (corpo : CorpoLancamento) : Option ℚ :=
  corpo.valor.filter fun x => x ≠ 0

def naoVazio (campo : String) : Option String := if campo = "" then none else some campo

def CorpoLancamento.lancamento (corpo : CorpoLancamento) : Lancamento :=
  match naoZero corpo.pedidoId with
  | some pedidoId =>
    { descricao := s!"Devolução - {corpo.descricao}", categoria := some "Outros",
      dataLancamento := corpo.dataLancamento, tipo := some "devolução",
      pedidoId := some pedidoId, valor := corpo.valorOuNull }
  | none =>
    { descricao := corpo.descricao, categoria := naoVazio corpo.categoria,
      dataLancamento := corpo.dataLancamento, tipo := naoVazio corpo.tipo,
      valor := corpo.valorOuNull }

def retorno (dataLancamento : String) (pedidoId : Nat) (item : PedidoItem) : Lancamento where
  descricao :=
    s!"Retorno ao estoque: {textoNumero item.quantidade} unidades do produto {item.produtoId}"
  categoria := some "Estoque"
  dataLancamento := dataLancamento
  tipo := some "entrada"
  pedidoId := some pedidoId

def retornar (dataLancamento : String) (pedidoId : Nat) (item : PedidoItem) :
    Consulta Unit := do
  let estoque ← query (.selectEstoque (some item.produtoId))
  if estoque.isNone then
    fail s!"Produto com ID {item.produtoId} não encontrado no estoque."
  else do
    query (.somaEstoque item.quantidade item.produtoId)
    let _ ← query (.insertLancamento (retorno dataLancamento pedidoId item))
    pure ()

def devolver (dataLancamento : String) (pedidoId : Nat) : Consulta Unit := do
  let pedido ← query (.selectPedido pedidoId)
  if pedido.isNone then fail "Pedido não encontrado."
  else do
    let _ ← query (.updateStatus .devolvido pedidoId)
    let itens ← query (.selectItens pedidoId)
    if itens.isEmpty then fail "Nenhum item encontrado para o pedido."
    else each (retornar dataLancamento pedidoId) itens

def corpoLancamento (corpo : CorpoLancamento) : Consulta Fim := do
  query .beginTransaction
  let id ← query (.insertLancamento corpo.lancamento)
  match naoZero corpo.pedidoId with
  | some pedidoId => devolver corpo.dataLancamento pedidoId
  | none => pure ()
  query .commit
  pure (.commit ⟨200, "Lançamento cadastrado com sucesso.", some id⟩)

end Lancamento

section PedidoManual

def textoProduto (produtoId : Option Nat) : String :=
  match produtoId with
  | some id => toString id
  | none => "undefined"

/-- The comparison of the stock check; it is false against a quantity that is no number. -/
def Linha.excede (linha : Linha) (estoque : Estoque) : Bool :=
  match linha.quantidade with
  | some quantidade => decide (estoque.quantidade < quantidade)
  | none => false

/-- The stock check, line by line, each against the stored quantity. -/
def verificarEstoque : List Linha → Consulta (Option Resposta)
  | [] => pure none
  | linha :: linhas => do
    let estoque ← query (.selectEstoque linha.produtoId)
    if estoque.any fun e => !linha.excede e then verificarEstoque linhas
    else
      let texto := s!"Estoque insuficiente para o produto {textoProduto linha.produtoId}"
      pure (some ⟨400, texto, none⟩)

/-- The total; `none` is NaN. -/
def calcularTotal : Option ℚ → List Linha → Consulta (Option ℚ)
  | total, [] => pure total
  | total, linha :: linhas => do
    let produto ← query (.selectEstoque linha.produtoId)
    match produto with
    | none => fail "Cannot read properties of undefined (reading 'valor_unitario')"
    | some produto =>
      let parcela := linha.quantidade.map (produto.valorUnitario * ·)
      calcularTotal (total.bind fun t => parcela.map (t + ·)) linhas

def inserirItem (pedidoId : Nat) (linha : Linha) : Consulta Unit :=
  match linha.produtoId, linha.quantidade with
  | some produtoId, some quantidade => query (.insertItem pedidoId produtoId quantidade)
  | _, _ => fail "Column cannot be null"

def CorpoPedido.venda (corpo : CorpoPedido) (valorTotal : ℚ) : Venda where
  clienteNumero := corpo.clienteNumero
  formaPagamento := corpo.formaPagamento
  comprovante := corpo.comprovante.map Arquivo.buffer
  valorTotal := valorTotal
  valorPago :=
    if corpo.formaPagamento = "pix+dinheiro" ∨ corpo.formaPagamento = "dinheiro" then
      some (corpo.valorPago.getD 0)
    else none
  valorDinheiro :=
    if corpo.formaPagamento = "pix+dinheiro" then some (corpo.valorDinheiro.getD 0) else none

def CorpoPedido.comprovanteValido (corpo : CorpoPedido) : Bool :=
  corpo.comprovante.all fun arquivo => arquivo.mimetype ∈ ["image/jpeg", "image/png"]

def salvarPedido (corpo : CorpoPedido) (valorTotal : Option ℚ) : Consulta Fim :=
  match valorTotal with
  | none => fail "Unknown column 'NaN' in 'field list'"
  | some valorTotal => do
    let vendaId ← query (.insertVenda (corpo.venda valorTotal))
    let pedidoId ← query (.insertPedido corpo.clienteNumero vendaId)
    each (inserirItem pedidoId) corpo.linhas
    query .commit
    pure (.commit ⟨200, "Pedido criado com sucesso!", some pedidoId⟩)

def corpoPedido (corpo : CorpoPedido) : Consulta Fim := do
  let recusa ← verificarEstoque corpo.linhas
  match recusa with
  | some resposta => pure (.rollback resposta)
  | none => do
    let valorTotal ← calcularTotal (some 0) corpo.linhas
    if corpo.comprovanteValido then salvarPedido corpo valorTotal
    else pure (.rollback ⟨400, "Comprovante inválido. Envie JPG ou PNG.", none⟩)

end PedidoManual

inductive Tx where
  | valido (corpo : CorpoValido)
  | lancamento (corpo : CorpoLancamento)
  | pedidoManual (corpo : CorpoPedido)
  deriving DecidableEq, Repr

namespace Tx

def corpo : Tx → Consulta Fim
  | valido corpo => corpoValido corpo
  | lancamento corpo => corpoLancamento corpo
  | pedidoManual corpo => corpoPedido corpo

/-- The answer of the `catch` branch. -/
def erro : Tx → String → Resposta
  | valido _, mensagem => ⟨500, s!"Erro interno ao atualizar validade: {mensagem}", none⟩
  | lancamento _, mensagem => ⟨500, s!"Erro ao adicionar lançamento: {mensagem}", none⟩
  | pedidoManual _, _ => ⟨500, "Erro interno ao salvar o pedido.", none⟩

/-- What MySQL says of a rejected statement. -/
def rejeicao : String := "ER_QUERY_REJECTED"

end Tx

/-- What ROLLBACK leaves: the rows of before. The identifiers that its INSERTs took are not given
again. -/
def Db.desfeito (antes depois : Db) : Db :=
  { antes with
    pedidosDiarios := antes.pedidosDiarios.reserva depois.pedidosDiarios.next
    vendas := antes.vendas.reserva depois.vendas.next
    lancamentos := antes.lancamentos.reserva depois.lancamentos.next }

@[simp] theorem Db.desfeito_self (db : Db) : db.desfeito db = db := by
  simp [desfeito]

def Tx.executar (t : Tx) (w : Faulty Db) : Resposta × Faulty Db :=
  match t.corpo.run (Faulty.exec Sql.sem Tx.rejeicao) w with
  | (.ok (.commit resposta), w') => (resposta, w')
  | (.ok (.rollback resposta), w') => (resposta, ⟨w.state.desfeito w'.state, w'.faults⟩)
  | (.error mensagem, w') => (t.erro mensagem, ⟨w.state.desfeito w'.state, w'.faults⟩)

end IceClube
