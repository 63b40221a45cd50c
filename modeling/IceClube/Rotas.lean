import IceClube.Pool
import IceClube.Transacoes

/-! The routes of the web server that read or write orders, deliveries and the stock, as
programs that run interleaved. A statement on the pool is one step; a transaction is one
step. -/
namespace IceClube

open Coop Prog

/-- What a route waits for: one autocommitted statement or one whole transaction. -/
inductive Op where
  | sql (q : Sql)
  | tx (t : Tx)

@[reducible] def Op.Res : Op → Type
  | .sql q => q.Res
  | .tx _ => Resposta

abbrev Rota := Prog String Op.Res

abbrev dbQuery (q : Sql) : Rota q.Res := ask (Op.sql q)

abbrev transacao (t : Tx) : Rota Resposta := ask (Op.tx t)

def Op.exec : Exec String Op.Res (Faulty Db)
  | .sql q, w => Faulty.exec Sql.sem Tx.rejeicao q w
  | .tx t, w => (.ok (t.executar w).1, (t.executar w).2)

def Status.texto : Status → String
  | novo => "novo"
  | embalado => "embalado"
  | entrega => "entrega"
  | rua => "rua"
  | finalizado => "finalizado"
  | falha => "falha"
  | incorreto => "incorreto"
  | devolvido => "devolvido"

/-- The table `transicoes`. -/
def transicoes : Status → Option Status
  | .novo => some .embalado
  | .embalado => some .entrega
  | .entrega => some .rua
  | .rua => some .finalizado
  | _ => none

def validStatuses : List Status :=
  [.novo, .embalado, .entrega, .rua, .finalizado, .falha, .incorreto]

def novoStatus (statusAtual : Status) : Status := (transicoes statusAtual).getD statusAtual

/-- The body of `POST /alterar_status`; `none` is a missing or unknown status. -/
structure CorpoStatus where
  id : Nat
  statusAtual : Option Status
  deriving DecidableEq, Repr

/-- The body of `POST /editar_itens`; `none` is a field that is not an array. -/
structure CorpoItens where
  pedidoId : Nat
  itens : Option (List Linha)
  deriving DecidableEq, Repr

/-- The body of `POST /api/atribuir-entregas`; `none` is a field that is not an array. -/
structure CorpoAtribuir where
  entregadorId : Nat
  pedidos : Option (List Nat)
  deriving DecidableEq, Repr

inductive Requisicao where
  | alterarStatus (corpo : CorpoStatus)
  | valido (corpo : CorpoValido)
  | lancamentos (corpo : CorpoLancamento)
  | pedidoManual (corpo : CorpoPedido)
  | editarItens (corpo : CorpoItens)
  | enviarParaEntrega (rota : Option Nat)
  | atribuirEntregas (corpo : CorpoAtribuir)
  deriving DecidableEq, Repr

section Rotas

def gravarStatus (id : Nat) (statusAtual : Status) : Rota Resposta := do
  let affectedRows ← dbQuery (.updateStatus (novoStatus statusAtual) id)
  if affectedRows = 0 then pure ⟨404, "Pedido não encontrado", none⟩
  else do
    let novo := (novoStatus statusAtual).texto
    dbQuery (.insertLog id s!"Status alterado de {statusAtual.texto} para {novo}")
    pure ⟨200, s!"Status alterado para {novo}", none⟩

def alterarStatus (corpo : CorpoStatus) : Rota Resposta :=
  match corpo.statusAtual with
  | none => pure ⟨400, "ID ou status atual inválido", none⟩
  | some statusAtual =>
    if corpo.id = 0 ∨ statusAtual ∉ validStatuses then
      pure ⟨400, "ID ou status atual inválido", none⟩
    else
      (gravarStatus corpo.id statusAtual).handle fun _ =>
        pure ⟨500, "Erro ao alterar status do pedido.", none⟩

def valido (corpo : CorpoValido) : Rota Resposta :=
  if corpo.id = 0 then pure ⟨400, "ID do pedido inválido", none⟩
  else transacao (.valido corpo)

def lancamentos (corpo : CorpoLancamento) : Rota Resposta :=
  if corpo.descricao = "" ∨ corpo.dataLancamento = "" then
    pure ⟨400, "Descrição e data de lançamento são obrigatórios.", none⟩
  else do
    dbQuery .getConnection
    transacao (.lancamento corpo)

def validPaymentMethods : List String := ["pix", "dinheiro", "pix+dinheiro"]

def CorpoPedido.completo (corpo : CorpoPedido) : Bool :=
  corpo.clienteNumero ≠ "" && validPaymentMethods.contains corpo.formaPagamento &&
    corpo.linhas ≠ []

/-- The checks made before a connection is taken. -/
def CorpoPedido.recusa (corpo : CorpoPedido) : Option Resposta :=
  if corpo.itens = .invalido then
    some ⟨400, "Itens do pedido estão em formato inválido.", none⟩
  else if !corpo.completo then
    some ⟨400, "Dados incompletos ou forma de pagamento inválida.", none⟩
  else if corpo.formaPagamento = "pix" then none
  else if corpo.valorPago = none then
    some ⟨400, "Valor total pago é obrigatório para dinheiro ou PIX + dinheiro.", none⟩
  else if corpo.formaPagamento = "pix+dinheiro" ∧ corpo.valorDinheiro = none then
    some ⟨400, "Valor em dinheiro é obrigatório para PIX + dinheiro.", none⟩
  else none

def pedidoManual (corpo : CorpoPedido) : Rota Resposta :=
  match corpo.recusa with
  | some resposta => pure resposta
  | none => do
    dbQuery .getConnection
    dbQuery .beginTransaction
    transacao (.pedidoManual corpo)

/-- A line of `/editar_itens` is stored only with a product and a positive quantity. -/
def regravarItem (pedidoId : Nat) (linha : Linha) : Rota Unit :=
  match naoZero linha.produtoId, linha.quantidade with
  | some produtoId, some quantidade =>
    if 0 < quantidade then dbQuery (.insertItem pedidoId produtoId quantidade) else pure ()
  | _, _ => pure ()

def editarItens (corpo : CorpoItens) : Rota Resposta :=
  match corpo.itens with
  | some (item :: itens) =>
    let gravar : Rota Resposta := do
      dbQuery (.deleteItens corpo.pedidoId)
      each (regravarItem corpo.pedidoId) (item :: itens)
      pure ⟨200, "Itens do pedido atualizados com sucesso!", none⟩
    gravar.handle fun _ => pure ⟨500, "Erro ao editar itens do pedido", none⟩
  | _ => pure ⟨400, "Itens inválidos", none⟩

def textoRota (rota : Option Nat) : String :=
  match rota with
  | some n => toString n
  | none => "undefined"

def enviarParaEntrega (rota : Option Nat) : Rota Resposta :=
  let enviar : Rota Resposta := do
    let pedidos ← dbQuery .selectParaEntrega
    each (fun pedido : Nat × Pedido => dbQuery (.insertEntrega pedido.1 pedido.2 rota)) pedidos
    let texto := s!"Pedidos enviados para rota {textoRota rota}."
    pure ⟨200, s!"{texto} Total de pedidos: {pedidos.length}", none⟩
  enviar.handle fun _ => pure ⟨500, "Erro ao processar os pedidos para entrega.", none⟩

/-- The delivery row and the order's status are two statements. -/
def atribuir (entregadorId pedidoId : Nat) : Rota Unit := do
  dbQuery (.insertEntregaSelect entregadorId pedidoId)
  dbQuery (.updateRua pedidoId)

def atribuirEntregas (corpo : CorpoAtribuir) : Rota Resposta :=
  match corpo.entregadorId, corpo.pedidos with
  | entregadorId + 1, some (pedido :: pedidos) =>
    let gravar : Rota Resposta := do
      each (atribuir (entregadorId + 1)) (pedido :: pedidos)
      let texto := "Entregas atribuídas com sucesso para entregador"
      pure ⟨200, s!"{texto} {entregadorId + 1}", none⟩
    gravar.handle fun _ => pure ⟨500, "Erro ao atribuir entregas", none⟩
  | _, _ => pure ⟨400, "Selecione no mínimo 1 pedidos e um entregador.", none⟩

end Rotas

def Requisicao.rota : Requisicao → Rota Resposta
  | .alterarStatus corpo => IceClube.alterarStatus corpo
  | .valido corpo => IceClube.valido corpo
  | .lancamentos corpo => IceClube.lancamentos corpo
  | .pedidoManual corpo => IceClube.pedidoManual corpo
  | .editarItens corpo => IceClube.editarItens corpo
  | .enviarParaEntrega rota => IceClube.enviarParaEntrega rota
  | .atribuirEntregas corpo => IceClube.atribuirEntregas corpo

/-- Requests arrive and take their steps in any order while time passes. -/
def servidor : System Requisicao Nat String Op.Res Resposta (Faulty Db) where
  exec := Op.exec
  sync _ := false
  listeners requisicao := [requisicao.rota]
  drift dt w := ⟨{ w.state with agora := w.state.agora + dt }, w.faults⟩

abbrev Servidor := Config String Op.Res Resposta (Faulty Db)

abbrev Servidor.db (c : Servidor) : Db := c.state.state

abbrev Passo := Action Requisicao Nat

end IceClube
