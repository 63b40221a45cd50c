import IceClube.Organizar

/-! `setores/entrega.js`: the courier's panel, and the listener of callback queries that it
installs beside the one of `chatbot.js`. -/
namespace IceClube

open Coop Prog

section Painel

variable (c : Chat) (enviar : String → Fluxo Unit)

def listaDePedidos (pedidos : List (Nat × Entrega)) : String :=
  "\n\n".intercalate (pedidos.map fun p => s!"📦 Pedido #{p.1}\n📞 {p.2.clienteNumero}")

def listarPedidosPendentes (usuarioId : Option Nat) : Fluxo Unit :=
  let listar : Fluxo Unit := do
    let pedidos ← consulta c (.selectAtribuidas usuarioId)
    if pedidos = [] then enviar "📭 *Nenhum pedido atribuído a você no momento.*"
    else enviar s!"📋 *Lista de Pedidos Atribuídos:*\n\n{listaDePedidos pedidos}"
  listar.handle fun _ => enviar "⚠️ *Erro ao buscar os pedidos.*"

def listaDePendentes (pedidos : List (Nat × Entrega)) : String :=
  "\n".intercalate (pedidos.map fun p => s!"📦 Entrega #{p.1} - Cliente: {p.2.clienteNumero}")

def encerrarRota : List Campo :=
  [.rotaAtiva false, .entregadorRotaId none, .etapa (some .submenuOrganizarRota),
    .submenu (some .organizarRota)]

def verificarFinalizarRotaAutomaticamente (r : Nat) : Fluxo Unit :=
  let verificar : Fluxo Unit := do
    let sessao ← faz (.ler c r)
    let pedidosPendentes ← consulta c (.selectEntregas sessao.usuarioId)
    let sessao ← faz (.ler c r)
    if pedidosPendentes = [] ∧ sessao.rotaAtiva then do
      consulta c .startTransaction
      let sessao ← faz (.ler c r)
      consulta c (.encerrarEntregador sessao.entregadorRotaId)
      consulta c .commit
      faz (.atribuir c r encerrarRota)
      -- `sessoes` is no name in this function: the map and the success message are not reached
      fail "sessoes is not defined"
    else if pedidosPendentes ≠ [] then
      enviar (s!"⚠️ *Pedidos pendentes encontrados:*\n\n{listaDePendentes pedidosPendentes}\n\n" ++
        "Finalize ou marque-os como falha para encerrar a rota.")
    else pure ()
  verificar.handle fun _ => do
    consulta c .rollback
    enviar "⚠️ *Erro ao verificar status da rota.*"

def boasVindas : String := "🚚 *Bem-vindo ao painel do entregador!* Escolha uma opção:"

/-- A chat without a session gets one that knows nothing of the login. -/
def iniciarPainel (usuarioId : Option Nat) : Fluxo Unit := do
  let initialState ← faz (.novo c { etapa := some .menu })
  let pedidosPendentes ← consulta c (.selectEntregas usuarioId)
  let rotaAtiva ← consulta c (.selectRotaAberta usuarioId)
  if pedidosPendentes ≠ [] ∨ rotaAtiva.isSome then do
    faz (.atribuir c initialState [.rotaAtiva true, .etapa (some .submenuOrganizarRota),
      .submenu (some .organizarRota)])
    faz (.set c initialState)
    enviar (s!"🚚 *Você tem uma rota ativa com {pedidosPendentes.length} pedido(s) " ++
      "pendente(s). Gerencie sua rota:")
    listarPedidosPendentes c enviar usuarioId
  else do
    faz (.set c initialState)
    enviar boasVindas

variable (r atual : Nat)

def limparPainel : List Campo := [.pedidoId .nulo, .pontoInicial none]

def voltarMenu : Fluxo Unit := do
  faz (.atribuir c atual ([.etapa (some .menu), .submenu none] ++ limparPainel))
  faz (.set c atual)
  enviar boasVindas

def sairDaEntrega : Fluxo Unit := do
  faz (.delete c .sair)
  enviar "🛑 *Você saiu do fluxo.* Para começar, envie *oi* ou sua senha pessoal."

def ajuda : Fluxo Unit :=
  enviar ("ℹ️ *Ajuda:*\n- 📦 Pedidos: Gerencie pedidos (listar, detalhes, status).\n" ++
    "- 🗺️ Organizar Rota: Inicie/finalize rotas e planeje entregas.\n" ++
    "- 💰 Valores a Receber: Veja o total a receber em dinheiro ou pix+dinheiro.")

def submenuPedidos : Fluxo Unit := do
  faz (.atribuir c atual [.etapa (some .submenuPedidos), .submenu (some .pedidos)])
  faz (.set c atual)
  enviar "📦 *Menu de Pedidos:* Escolha uma opção:"

def submenuOrganizarRota : Fluxo Unit := do
  faz (.atribuir c atual [.etapa (some .submenuOrganizarRota), .submenu (some .organizarRota)])
  faz (.set c atual)
  enviar "🗺️ *Menu de Rota:* Escolha uma opção:"

def enderecoDeEntrega (entrega : Entrega) : String :=
  ou entrega.endereco "Endereço não especificado"

def listaDeEntregas (pedidos : List (Nat × Entrega)) : String :=
  "\n\n".intercalate (pedidos.map fun p =>
    s!"📦 Entrega #{p.1}\n📞 {p.2.clienteNumero}\n📍 " ++
      s!"{enderecoDeEntrega p.2}")

def abrirRota (entregadorRotaId : Nat) : Fluxo Unit := do
  faz (.atribuir c atual ([.rotaAtiva true, .etapa (some .aguardandoPontoInicial),
    .submenu (some .organizarRota), .entregadorRotaId (some entregadorRotaId)] ++ limparPainel))
  faz (.set c atual)

/-- A new row of `entregador` for the courier of the session. -/
def criarEntregador (quantidade : Nat) : Fluxo Nat := do
  let sessaoAtual ← faz (.ler c atual)
  let nome ← consulta c (.selectNome sessaoAtual.usuarioId)
  let sessaoAtual ← faz (.ler c atual)
  consulta c (.insertEntregador (ou nome "Entregador Desconhecido") quantidade
    sessaoAtual.usuarioId)

def reabrirRota (pedidosPendentes : List (Nat × Entrega)) (aberta : Option (Nat × Entregador)) :
    Fluxo Unit := do
  let reutilizar : Fluxo Nat :=
    match aberta with
    | some rota => pure rota.1
    | none => criarEntregador c atual pedidosPendentes.length
  let entregadorRotaId ← reutilizar
  abrirRota c atual entregadorRotaId
  enviar (s!"🚚 *Rota ativa com {pedidosPendentes.length} pedido(s) pendente(s):*\n\n" ++
    s!"{listaDeEntregas pedidosPendentes}\n\n📍 *Envie sua localização para recalcular a rota.*")
  consulta c .commit

def fecharAberta (aberta : Option (Nat × Entregador)) : Fluxo Unit :=
  match aberta with
  | some rota => consulta c (.fecharEntregador rota.1)
  | none => pure ()

def novaRota (aberta : Option (Nat × Entregador)) : Fluxo Unit := do
  fecharAberta c aberta
  let sessaoAtual ← faz (.ler c atual)
  let pedidos ← consulta c (.selectEntregas sessaoAtual.usuarioId)
  if pedidos = [] then do
    consulta c .commit
    enviar "📭 *Nenhum pedido atribuído a você com status \"rua\" para iniciar uma rota.*"
  else do
    let entregadorRotaId ← criarEntregador c atual pedidos.length
    abrirRota c atual entregadorRotaId
    let sessaoAtual ← faz (.ler c atual)
    consulta c (.iniciarEntregas sessaoAtual.usuarioId)
    let sessaoAtual ← faz (.ler c atual)
    consulta c (.pedidosNaRua sessaoAtual.usuarioId)
    consulta c .commit
    enviar (s!"🚚 *Rota iniciada com {pedidos.length} pedido(s):*\n\n{listaDeEntregas pedidos}\n\n" ++
      "📍 *Envie sua localização para definir o ponto inicial da rota.*")

/-- A button is answered before its branch runs; a text has nothing to answer. -/
def responderBotao (e : Entrada) : Fluxo Unit :=
  if e.data.isSome then faz (.answerCallbackQuery c) else pure ()

def iniciarRota (e : Entrada) : Fluxo Unit := do
  responderBotao c e
  let iniciar : Fluxo Unit := do
    consulta c .startTransaction
    let sessaoAtual ← faz (.ler c atual)
    if sessaoAtual.usuarioId.getD 0 = 0 then fail "ID do usuário não definido na sessão"
    else do
      let pedidosPendentes ← consulta c (.selectEntregas sessaoAtual.usuarioId)
      let sessaoAtual ← faz (.ler c atual)
      let rotaAberta ← consulta c (.selectRotaAberta sessaoAtual.usuarioId)
      if pedidosPendentes ≠ [] then reabrirRota c enviar atual pedidosPendentes rotaAberta
      else novaRota c enviar atual rotaAberta
  iniciar.handle fun erro => do
    consulta c .rollback
    faz (.atribuir c atual encerrarRota)
    faz (.set c atual)
    enviar s!"⚠️ *Erro ao iniciar/reabrir a rota: {erro}. Tente novamente.*"

def finalizarRota (e : Entrada) : Fluxo Unit := do
  responderBotao c e
  let sessaoAtual ← faz (.ler c atual)
  if !sessaoAtual.rotaAtiva then enviar "⚠️ *Nenhuma rota ativa para finalizar.*"
  else do
    let finalizar : Fluxo Unit := do
      consulta c .startTransaction
      let sessaoAtual ← faz (.ler c atual)
      let pedidosPendentes ← consulta c (.selectEntregas sessaoAtual.usuarioId)
      if pedidosPendentes ≠ [] then do
        consulta c .commit
        enviar ("⚠️ *Existem pedidos pendentes que não foram entregues:*\n\n" ++
          s!"{listaDePendentes pedidosPendentes}\n\n" ++
          "Finalize ou marque-os como falha antes de encerrar a rota.")
      else do
        let sessaoAtual ← faz (.ler c atual)
        consulta c (.finalizarEntregas sessaoAtual.usuarioId)
        let sessaoAtual ← faz (.ler c atual)
        consulta c (.finalizarPedidos sessaoAtual.usuarioId)
        let sessaoAtual ← faz (.ler c atual)
        consulta c (.encerrarEntregador sessaoAtual.entregadorRotaId)
        consulta c .commit
        faz (.atribuir c atual encerrarRota)
        faz (.set c atual)
        enviar "✅ *Rota finalizada com sucesso! Todos os pedidos foram processados.*"
    finalizar.handle fun _ => do
      consulta c .rollback
      enviar "⚠️ *Erro ao finalizar a rota. Tente novamente.*"

def lista : Fluxo Unit := do
  let sessao ← faz (.ler c r)
  listarPedidosPendentes c enviar sessao.usuarioId
  faz (.atribuir c atual [.etapa none, .submenu (some .pedidos)])
  faz (.set c atual)

def pedidos : Fluxo Unit :=
  let carregar : Fluxo Unit := do
    let sessao ← faz (.ler c r)
    let pedidos ← consulta c (.selectAtribuidas sessao.usuarioId)
    if pedidos = [] then enviar "📭 *Nenhum pedido atribuído a você.*"
    else do
      enviar "🔍 *Selecione um pedido para ver os detalhes:*"
      faz (.atribuir c atual [.etapa none])
      faz (.set c atual)
  carregar.handle fun _ => enviar "⚠️ *Erro ao carregar pedidos.*"

/-- The amount a sale shows under 'Valores a Receber'. -/
def valorAReceber (v : ValorDaVenda) : Quantia :=
  match v.valorDinheiro with
  | some valor =>
    if v.formaPagamento = "pix+dinheiro" ∧ valor.verdadeira then valor else v.valorTotal
  | none => v.valorTotal

def listaDeValores (vendas : List (Nat × ValorDaVenda)) : String :=
  "\n".intercalate (vendas.map fun v =>
    s!"📜 Entrega #{v.1}: R$ {(valorAReceber v.2).texto} ({v.2.formaPagamento})")

def valoresReceber : Fluxo Unit :=
  let calcular : Fluxo Unit := do
    let sessao ← faz (.ler c r)
    let vendas ← consulta c (.selectValores sessao.usuarioId)
    if vendas = [] then
      enviar "📭 *Nenhuma venda pendente em dinheiro ou pix+dinheiro atribuída a você.*"
    else enviar s!"💵 *Valores a Receber (Dinheiro/Pix+Dinheiro):*\n\n{listaDeValores vendas}\n\n"
  calcular.handle fun _ => enviar "⚠️ *Erro ao calcular valores a receber.*"

def limparPedido : List Campo := [.etapa none, .submenu (some .pedidos)] ++ limparPainel

def falhaJustificada (data : Texto) (entregaId : IdSql) : Fluxo Unit :=
  let justificativa := String.ofList (Texto.remover "justificativa_".toList data)
  let salvar : Fluxo Unit := do
    consulta c .startTransaction
    consulta c (.falharEntrega justificativa entregaId)
    consulta c (.falharPedido entregaId)
    consulta c .commit
    enviar (s!"❌ *Entrega #{entregaId.texto} marcada como falha com justificativa: " ++
      s!"{justificativa}*")
    let sessao ← faz (.ler c r)
    listarPedidosPendentes c enviar sessao.usuarioId
    verificarFinalizarRotaAutomaticamente c enviar r
    faz (.atribuir c atual limparPedido)
    faz (.set c atual)
  -- then the button is answered by a call that nobody waits for; its rejection is left out
  salvar.handle fun _ => do
    consulta c .rollback
    enviar "⚠️ *Erro ao salvar justificativa.*"

def IdSql.verdadeiro : IdSql → Bool
  | .num n => n ≠ 0
  | _ => false

/-- What is shown for a text or button of no other branch. -/
def menuPadrao : Fluxo Unit := do
  let sessaoAtual ← faz (.ler c atual)
  if sessaoAtual.etapa = some .detalhesPedido ∧ sessaoAtual.pedidoId.verdadeiro then pure ()
  else if sessaoAtual.etapa = some .submenuPedidos ∨ sessaoAtual.submenu = some .pedidos then
    enviar "📦 *Menu de Pedidos:* Escolha uma opção:"
  else if sessaoAtual.etapa = some .submenuOrganizarRota ∨
      sessaoAtual.submenu = some .organizarRota then
    enviar "🗺️ *Menu de Rota:* Escolha uma opção:"
  else do
    let mostrar : Fluxo Unit :=
      if sessaoAtual.etapa = none ∨ sessaoAtual.etapa = some .menu then enviar boasVindas
      else pure ()
    mostrar
    faz (.atribuir c atual ([.etapa (some .menu), .submenu none] ++ limparPainel))
    faz (.set c atual)

def delegar (e : Entrada) : Fluxo Unit := do
  let handledByOrganizarRota ← tratarOrganizarRota c enviar e
  if handledByOrganizarRota then pure () else menuPadrao c enviar atual

/-- `tratarEntrega` for a chat with a session; `r` is the session it was called with. -/
def painel (e : Entrada) : Fluxo Unit := do
  let sessaoAtual ← faz (.ler c atual)
  if e.pede "voltar_menu" then voltarMenu c enviar atual
  else if e.pede "sair" then sairDaEntrega c enviar
  else if e.pede "ajuda" then ajuda enviar
  else if e.pede "submenu_pedidos" ∧ sessaoAtual.etapa ≠ some .submenuPedidos then
    submenuPedidos c enviar atual
  else if e.pede "submenu_organizar_rota" then submenuOrganizarRota c enviar atual
  else if e.pede "iniciar_rota" then iniciarRota c enviar atual e
  else if e.pede "finalizar_rota" then finalizarRota c enviar atual e
  else if e.pede "lista" then lista c enviar r atual
  else if e.pede "pedidos" then pedidos c enviar r atual
  else if e.pede "valores_receber" then valoresReceber c enviar r
  else
    match sessaoAtual.etapa, e.data with
    | some .falhaJustificativa, some data =>
      if data.startsWith "justificativa_".toList then
        falhaJustificada c enviar r atual data sessaoAtual.pedidoId
      else delegar c enviar atual e
    | _, _ => delegar c enviar atual e

def tratarEntrega (e : Entrada) : Fluxo Unit := do
  match ← faz (.get c) with
  | some atual => painel c enviar r atual e
  | none => do
    let sessao ← faz (.ler c r)
    iniciarPainel c enviar sessao.usuarioId

end Painel

section Listener

variable (c : Chat) (r : Nat)

/-- `bot.sendMessage`, as the listener calls it. -/
def enviarMensagemWrapper (mensagem : String) : Fluxo Unit := do
  let _ ← faz (.sendMessage c mensagem [])
  pure ()

/-- `bot.sendMessage` passed on as a value: it loses its `this` and throws. -/
def sendMessageSolto (_ : String) : Fluxo Unit := fail indefinida

def entregaDoBotao (data : Texto) : IdSql := parseInt (Texto.split data)[1]?

def textoDaEntrega (entrega : DetalhesEntrega) : String :=
  let itens := ", ".intercalate (entrega.itens.map toString)
  let endereco := ou entrega.endereco "Não especificado"
  s!"📦 *Entrega #{entrega.id}*\n      📞 {entrega.clienteNumero}\n      " ++
    s!"🛒 Itens: Produto(s) #{itens}\n      📍 Endereço: {endereco}\n      " ++
    s!"💳 Pagamento: {entrega.formaPagamento}"

def verPedido (data : Texto) : Fluxo Unit := do
  faz (.answerCallbackQuery c)
  let entregaId := entregaDoBotao data
  let buscar : Fluxo Unit := do
    let sessao ← faz (.ler c r)
    match ← consulta c (.selectDetalhesItens entregaId sessao.usuarioId) with
    | none => enviarMensagemWrapper c "❌ *Entrega não encontrada ou não atribuída a você.*"
    | some entrega => do
      enviarMensagemWrapper c (textoDaEntrega entrega)
      faz (.atribuir c r [.etapa (some .detalhesPedido), .pedidoId entregaId,
        .submenu (some .pedidos)])
      faz (.set c r)
  buscar.handle fun _ => enviarMensagemWrapper c "⚠️ *Erro ao buscar detalhes da entrega.*"

def recebido (data : Texto) : Fluxo Unit := do
  faz (.answerCallbackQuery c)
  let entregaId := entregaDoBotao data
  let marcar : Fluxo Unit := do
    consulta c .startTransaction
    consulta c (.receberEntrega entregaId)
    consulta c (.receberPedido entregaId)
    consulta c (.receberVenda entregaId)
    consulta c .commit
    enviarMensagemWrapper c s!"✅ *Entrega #{entregaId.texto} marcada como recebida.*"
    let sessao ← faz (.ler c r)
    listarPedidosPendentes c sendMessageSolto sessao.usuarioId
    verificarFinalizarRotaAutomaticamente c sendMessageSolto r
    faz (.atribuir c r limparPedido)
    faz (.set c r)
  marcar.handle fun _ => do
    consulta c .rollback
    enviarMensagemWrapper c "⚠️ *Erro ao atualizar status da entrega.*"

def falha (data : Texto) : Fluxo Unit := do
  faz (.answerCallbackQuery c)
  faz (.atribuir c r [.etapa (some .falhaJustificativa), .pedidoId (entregaDoBotao data),
    .pontoInicial none, .submenu (some .pedidos)])
  faz (.set c r)
  enviarMensagemWrapper c "❗ *Selecione o motivo da falha no recebimento:*"

def cancelarFalha : Fluxo Unit := do
  faz (.answerCallbackQuery c)
  faz (.atribuir c r limparPedido)
  faz (.set c r)
  let sessao ← faz (.ler c r)
  listarPedidosPendentes c sendMessageSolto sessao.usuarioId

/-- The buttons of the listener that `organizar.js` did not take. -/
def ramoEntrega (data : Texto) : Fluxo Unit :=
  if data.startsWith "pedido_".toList then verPedido c r data
  else if data.startsWith "recebido_".toList then recebido c r data
  else if data.startsWith "falha_".toList then falha c r data
  else if data = "cancelar_justificativa".toList then cancelarFalha c r
  else pure ()

/-- The listener of `configurarEntrega`. -/
def callbackEntrega (data : Option Texto) : Fluxo Unit := do
  let r ← obter c { etapa := some .menu }
  let handledByOrganizarRota ← tratarCallbackOrganizarRota c r (enviarMensagemWrapper c) data
  if handledByOrganizarRota then pure ()
  else
    match data with
    | some data => ramoEntrega c r data
    | none => fail indefinida

end Listener
end IceClube
