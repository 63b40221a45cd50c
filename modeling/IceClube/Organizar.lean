import IceClube.Bot

/-! `setores/entregas/organizar.js`: the courier's route. `enviar` is the function that the
caller passes to send a message; the buttons under a message are left out, but for those of the
report of a route. -/
namespace IceClube

open Coop Prog

def cidadeReferencia : String := "Cascavel, Paraná"

def geocodeAddress (address : String) : Fluxo Bool := do
  faz (.setTimeout 600)
  (faz (.geocode s!"{address}, {cidadeReferencia}")).handle fun _ => pure false

section Distancia

variable (enviar : String → Fluxo Unit)

def pedirDistancia (origem destino : String) : Fluxo (Option Texto) := do
  let origin := s!"{origem}, {cidadeReferencia}"
  match ← faz (.distancematrix origin s!"{destino}, {cidadeReferencia}") with
  | some distancia => pure (some distancia)
  | none => fail "Erro na API do Google"

/-- The attempts of `calculateDistance`; `none` is 'N/A', given up after the last one. -/
def tentarDistancia (origem destino : String) : Nat → Fluxo (Option Texto)
  | 0 => pure none
  | restantes + 1 =>
    (pedirDistancia origem destino).handle fun _ =>
      if restantes = 0 then do
        enviar "⚠️ Erro ao calcular distância. Tente novamente mais tarde."
        pure none
      else do
        faz (.setTimeout (1000 * (3 - restantes)))
        tentarDistancia origem destino restantes

def calculateDistance (origem destino : String) : Fluxo (Option Texto) := do
  faz (.setTimeout 600)
  tentarDistancia enviar origem destino 3

/-- What is read of a text without its commas and its unit; `none` is NaN. -/
def distanciaLida (t : Texto) : Option ℚ :=
  Texto.parseDouble (Texto.remover " km".toList (t.filter (· ≠ ',')))

/-- The number compared by the route; `none` is Infinity. -/
def distanceValue (distancia : Option Texto) : Option ℚ :=
  match distancia with
  | none => none
  | some t =>
    if t = "N/A".toList then none
    else
      let lida := (distanciaLida t).getD 0
      if lida = Double.infinity then none else some lida

def melhorar (i : Nat) (loc : Parada) (distancia : Option Texto)
    (nearest : Option (Nat × Parada × ℚ)) : Option (Nat × Parada × ℚ) :=
  match distanceValue distancia, nearest with
  | none, _ => nearest
  | some d, none => some (i, loc, d)
  | some d, some (j, outra, menor) =>
    if d < menor then some (i, loc, d) else some (j, outra, menor)

def maisProxima (currentAddress : String) :
    List (Parada × Nat) → Option (Nat × Parada × ℚ) → Fluxo (Option (Nat × Parada × ℚ))
  | [], nearest => pure nearest
  | (loc, i) :: resto, nearest => do
    let distancia ← calculateDistance enviar currentAddress loc.address
    maisProxima currentAddress resto (melhorar i loc distancia nearest)

/-- The nearest-neighbour loop; each turn takes one of the `voltas` places left. -/
def rotaOtimizada : Nat → String → List Parada → Fluxo (List Parada)
  | 0, _, _ => pure []
  | voltas + 1, currentAddress, unvisited => do
    match ← maisProxima enviar currentAddress unvisited.zipIdx none with
    | none => pure []
    | some (i, loc, _) => do
      let resto ← rotaOtimizada voltas loc.address (unvisited.eraseIdx i)
      pure (loc :: resto)

end Distancia

section OrganizarRota

variable (c : Chat) (r : Nat) (enviar : String → Fluxo Unit)

def semPedidos (campos : List Campo) : Fluxo Unit := do
  faz (.atribuir c r campos)
  faz (.set c r)
  enviar "📭 *Nenhum pedido com status \"rua\" atribuído a você.*"

def voltarAoSubmenu : List Campo :=
  [.etapa (some .submenuOrganizarRota), .submenu (some .organizarRota), .pontoInicial none,
    .pedidoId .nulo, .rota []]

/-- `texto === 'organizar_rota'`. -/
def organizarRota : Fluxo Unit := do
  let sessaoAtual ← faz (.ler c r)
  let pedidosPendentes ← consulta c (.selectEntregas sessaoAtual.usuarioId)
  let rotaAtiva ← consulta c (.selectRotaSalva sessaoAtual.usuarioId)
  if rotaAtiva ∨ pedidosPendentes ≠ [] then do
    let n := pedidosPendentes.length
    enviar s!"⚠️ *Você já tem uma rota ativa com {n} pedido(s) pendente(s).*"
    faz (.atribuir c r [.etapa (some .submenuOrganizarRota), .submenu (some .organizarRota),
      .rotaAtiva true])
    faz (.set c r)
  else do
    faz (.atribuir c r [.rotaAtiva true, .rota [], .pontoInicial none, .pedidoId .nulo,
      .etapa (some .aguardandoPontoInicial)])
    faz (.set c r)
    let fechar : List Campo := [.rotaAtiva false, .etapa (some .submenuOrganizarRota),
      .submenu (some .organizarRota)]
    let listar : Fluxo Unit := do
      let sessaoAtual ← faz (.ler c r)
      let pedidos ← consulta c (.selectNumeroDiario sessaoAtual.usuarioId)
      if pedidos = [] then semPedidos c r enviar fechar
      else enviar (s!"📍 *Digite o endereço do ponto inicial da rota em {cidadeReferencia} ou " ++
        "selecione um pedido para editar o endereço:*")
    listar.handle fun _ => do
      faz (.atribuir c r fechar)
      faz (.set c r)
      enviar "⚠️ *Erro ao carregar pedidos. Verifique sua conexão e tente novamente.*"

def finalizarRotaSalva : Fluxo Unit := do
  faz (.answerCallbackQuery c)
  let sessaoAtual ← faz (.ler c r)
  consulta c (.finalizarRotas sessaoAtual.usuarioId)
  faz (.atribuir c r [.rotaAtiva false, .etapa (some .submenuOrganizarRota),
    .pontoInicial none, .rota [], .pedidoId .nulo])
  faz (.set c r)
  enviar "🛑 *Rota finalizada com sucesso!*"

def cancelarRota : Fluxo Unit := do
  faz (.answerCallbackQuery c)
  let cancelar : Fluxo Unit := do
    consulta c .startTransaction
    let sessaoAtual ← faz (.ler c r)
    consulta c (.finalizarRotas sessaoAtual.usuarioId)
    consulta c .commit
    faz (.atribuir c r [.etapa (some .submenuOrganizarRota), .pontoInicial none, .rota [],
      .pedidoId .nulo, .rotaAtiva false])
    faz (.set c r)
    enviar "🚫 *Ação de organizar rota cancelada.*"
  cancelar.handle fun _ => do
    consulta c .rollback
    enviar "⚠️ *Erro ao cancelar a rota. Tente novamente.*"

def pontoInicial (text : Texto) : Fluxo Unit :=
  let address := Texto.trim text
  let processar : Fluxo Unit := do
    if 5 < address.length then do
      let coords ← geocodeAddress (String.ofList address)
      if !coords then
        enviar ("⚠️ *Endereço inválido. Por favor, digite um endereço válido em " ++
          s!"{cidadeReferencia}.*")
      else do
        faz (.atribuir c r [.pontoInicial (some (String.ofList address)),
          .etapa (some .selecionarPedido), .rota []])
        faz (.set c r)
        let sessaoAtual ← faz (.ler c r)
        let pedidos ← consulta c (.selectEntregas sessaoAtual.usuarioId)
        if pedidos = [] then semPedidos c r enviar (voltarAoSubmenu ++ [.rotaAtiva false])
        else enviar "🔍 *Selecione um pedido para editar o endereço ou conclua a edição:*"
    else
      enviar ("⚠️ *Por favor, digite um endereço válido (mínimo 5 caracteres) em " ++
        s!"{cidadeReferencia}.*")
  processar.handle fun _ => enviar "⚠️ *Erro ao processar o ponto inicial.*"

def editarEnderecoTexto (text : Texto) (pedidoId : IdSql) : Fluxo Unit :=
  let novoEndereco := Texto.trim text
  let processar : Fluxo Unit := do
    if 5 < novoEndereco.length then do
      let coords ← geocodeAddress (String.ofList novoEndereco)
      if !coords then do
        consulta c (.updateEndereco pedidoId none)
        enviar (s!"⚠️ *Endereço inválido. O endereço do pedido #{pedidoId.texto} foi definido " ++
          s!"como não especificado. Digite um endereço válido em {cidadeReferencia}.*")
      else do
        consulta c (.updateEndereco pedidoId (some (String.ofList novoEndereco)))
        enviar (s!"✅ *Endereço do pedido #{pedidoId.texto} atualizado com sucesso!*\n" ++
          s!"Novo endereço: {String.ofList novoEndereco}")
        let sessaoAtual ← faz (.ler c r)
        let pedidos ← consulta c (.selectEntregas sessaoAtual.usuarioId)
        if pedidos = [] then semPedidos c r enviar (voltarAoSubmenu ++ [.rotaAtiva false])
        else do
          enviar "🔍 *Selecione outro pedido para editar o endereço ou conclua a edição:*"
          faz (.atribuir c r [.etapa (some .selecionarPedido), .pedidoId .nulo])
          faz (.set c r)
    else
      enviar ("⚠️ *Por favor, digite um endereço válido (mínimo 5 caracteres) em " ++
        s!"{cidadeReferencia}.*")
  processar.handle fun _ => enviar "⚠️ *Erro ao atualizar o endereço.*"

/-- `tratarOrganizarRota` from where it holds the session in the map. -/
def organizarSessao (e : Entrada) : Fluxo Bool := do
  consulta c .criarTabela
  if e.texto = "organizar_rota".toList ∨ e.data = some "iniciar_rota".toList then do
    organizarRota c r enviar
    pure true
  else if e.data = some "finalizar_rota".toList then do
    finalizarRotaSalva c r enviar
    pure true
  else if e.data = some "cancelar_rota".toList then do
    cancelarRota c r enviar
    pure true
  else do
    let sessaoAtual ← faz (.ler c r)
    match sessaoAtual.etapa, e.text with
    | some .aguardandoPontoInicial, some text => do
      if text = [] then pure false
      else do
        pontoInicial c r enviar text
        pure true
    | some .editarEnderecoTexto, some text => do
      if text = [] then pure false
      else do
        editarEnderecoTexto c r enviar text sessaoAtual.pedidoId
        pure true
    | _, _ => pure false

end OrganizarRota

def tratarOrganizarRota (c : Chat) (enviar : String → Fluxo Unit) (e : Entrada) :
    Fluxo Bool := do
  match ← faz (.get c) with
  | some r => organizarSessao c r enviar e
  | none => do
    consulta c .criarTabela
    fail indefinida

section Callback

variable (c : Chat) (r : Nat) (enviar : String → Fluxo Unit)

/-- The identifier at the end of the data of a button of this module. -/
def pedidoDoBotao (data : Texto) : IdSql := parseInt (Texto.split data)[2]?

def selecionarPedido (data : Texto) : Fluxo Unit := do
  faz (.answerCallbackQuery c)
  let pedidoId := pedidoDoBotao data
  faz (.atribuir c r [.pedidoId pedidoId, .etapa (some .escolherAcaoEndereco)])
  faz (.set c r)
  let pedido ← consulta c (.selectEndereco pedidoId)
  let enderecoAtual := ou pedido.join "Não especificado"
  enviar (s!"📍 *Endereço atual do pedido #{pedidoId.texto}:*\n{enderecoAtual}\n\n" ++
    "Escolha uma ação:")

/-- What the three branches that list the orders again have in common. -/
def listarParaEdicao (mensagem : String) : Fluxo Unit := do
  let sessao ← faz (.ler c r)
  let pedidos ← consulta c (.selectEntregas sessao.usuarioId)
  if pedidos = [] then semPedidos c r enviar voltarAoSubmenu
  else do
    enviar mensagem
    faz (.atribuir c r [.etapa (some .selecionarPedido), .pedidoId .nulo])
    faz (.set c r)

def manterEndereco (data : Texto) : Fluxo Unit := do
  faz (.answerCallbackQuery c)
  listarParaEdicao c r enviar (s!"✅ *Endereço do pedido #{(pedidoDoBotao data).texto} mantido " ++
    "como está.*\n\n🔍 *Selecione outro pedido para editar o endereço ou conclua a edição:*")

def editarEndereco (data : Texto) : Fluxo Unit := do
  faz (.answerCallbackQuery c)
  let pedidoId := pedidoDoBotao data
  faz (.atribuir c r [.pedidoId pedidoId, .etapa (some .editarEnderecoTexto)])
  faz (.set c r)
  enviar s!"📝 *Digite o novo endereço para o pedido #{pedidoId.texto} em {cidadeReferencia}:*"

/-- Unlike the other two, it does not look whether any order is left. -/
def cancelarEdicao : Fluxo Unit := do
  faz (.answerCallbackQuery c)
  let sessao ← faz (.ler c r)
  let _ ← consulta c (.selectEntregas sessao.usuarioId)
  enviar "🔍 *Edição cancelada. Selecione outro pedido ou conclua a edição:*"
  faz (.atribuir c r [.etapa (some .selecionarPedido), .pedidoId .nulo])
  faz (.set c r)

def voltarEdicao : Fluxo Unit := do
  faz (.answerCallbackQuery c)
  listarParaEdicao c r enviar
    "🔍 *Selecione um pedido para editar o endereço ou conclua a edição:*"

def naoEspecificado : String := "Não especificado"

def paradas (pedidos : List (Nat × Entrega)) : List Parada :=
  pedidos.map fun p => ⟨p.1, ou p.2.endereco naoEspecificado⟩

/-- The buttons under the report, by their data. -/
def botoesDaRota (rota : List Parada) : List String :=
  rota.map (fun loc => s!"detalhes_pedido_{loc.pedidoId}") ++ ["voltar_menu", "sair"]

/-- What happens after the route is computed; the session is read anew after each wait. The
report is sent by the bot itself, which is what the caller's `enviar` does too. -/
def relatarRota (optimizedRoute : List Parada) : Fluxo Unit := do
  let sessao ← faz (.ler c r)
  let invalidLocations := sessao.rota.filter fun loc => loc.address = naoEspecificado
  let aviso : Fluxo Unit :=
    if invalidLocations = [] then pure ()
    else
      let lista := invalidLocations.map fun loc => s!"📦 Pedido #{loc.pedidoId}"
      let invalidList := "\n".intercalate lista
      enviar ("⚠️ *Os seguintes pedidos não têm endereços válidos e foram excluídos da " ++
        s!"rota:*\n{invalidList}")
  aviso
  let sessao ← faz (.ler c r)
  match sessao.pontoInicial with
  | none => fail indefinida
  | some address => do
    consulta c (.salvarRota sessao.usuarioId address
      (optimizedRoute.map fun loc => (loc.pedidoId, loc.address)))
    let sessao ← faz (.ler c r)
    match sessao.pontoInicial with
    | none => fail indefinida
    | some address => do
      let _ ← faz (.sendMessage c
        s!"📋 *Relatório de Rota Otimizada*\n\n*Ponto Inicial*: {address}\n"
        (botoesDaRota optimizedRoute))
      faz (.atribuir c r voltarAoSubmenu)
      faz (.set c r)

def gerarRota (pontoInicial : String) (rota : List Parada) : Fluxo Unit := do
  let validLocations := rota.filter fun loc => loc.address ≠ naoEspecificado
  let optimizedRoute ←
    rotaOtimizada enviar validLocations.length pontoInicial validLocations
  relatarRota c r enviar optimizedRoute

def concluirEdicao : Fluxo Unit := do
  faz (.answerCallbackQuery c)
  faz (.atribuir c r [.etapa (some .coletandoPedidos)])
  faz (.set c r)
  let sessao ← faz (.ler c r)
  let pedidos ← consulta c (.selectEntregas sessao.usuarioId)
  if pedidos = [] then
    semPedidos c r enviar [.rotaAtiva false, .etapa (some .submenuOrganizarRota),
      .submenu (some .organizarRota)]
  else do
    faz (.atribuir c r [.rota (paradas pedidos)])
    if (paradas pedidos).all fun loc => loc.address = naoEspecificado then do
      enviar "⚠️ *Nenhum pedido com endereço válido para gerar a rota.*"
      faz (.atribuir c r voltarAoSubmenu)
      faz (.set c r)
    else do
      let sessao ← faz (.ler c r)
      match sessao.pontoInicial with
      | some address => gerarRota c r enviar address sessao.rota
      | none => fail indefinida

/-- The amount the courier has to ask for, where there is one. -/
def valorExibir (entrega : DetalhesEntrega) : Option String :=
  if entrega.formaPagamento = "dinheiro" then some (toFixed2 entrega.valorTotal.valor)
  else if entrega.formaPagamento = "pix+dinheiro" then
    some (toFixed2 (entrega.valorTotal.valor - (entrega.valorPago.map Quantia.valor).getD 0))
  else none

def linhaDoValor (entrega : DetalhesEntrega) : String :=
  match valorExibir entrega with
  | some valor => s!"\n💵 R$ {valor}"
  | none => ""

def detalhesDoPedido (data : Texto) : Fluxo Unit := do
  faz (.answerCallbackQuery c)
  let pedidoId := pedidoDoBotao data
  let sessao ← faz (.ler c r)
  match ← consulta c (.selectDetalhes pedidoId sessao.usuarioId) with
  | none => enviar "❌ *Pedido não encontrado ou não atribuído a você.*"
  | some entrega => do
    let _ ← geocodeAddress (entrega.endereco.getD "null")
    match entrega.endereco with
    | none => fail indefinida
    | some endereco =>
      let limpo := String.ofList (endereco.toList.filter fun x => x ≠ '*' ∧ x ≠ '_')
      enviar (s!"📦 *Detalhes do Pedido #{pedidoId.texto}*\n📞 {entrega.clienteNumero}\n" ++
        s!"📍 {limpo}{linhaDoValor entrega}")

def receberPedido (data : Texto) : Fluxo Unit := do
  faz (.answerCallbackQuery c)
  let pedidoId := pedidoDoBotao data
  let dateTime ← faz .dateNow
  consulta c (.receber dateTime pedidoId)
  enviar s!"✅ *Pedido #{pedidoId.texto} marcado como entregue com sucesso às {dateTime}!*"
  faz (.atribuir c r [.etapa (some .submenuOrganizarRota), .submenu (some .organizarRota),
    .pedidoId .nulo])
  faz (.set c r)

def negarPedido (data : Texto) : Fluxo Unit := do
  faz (.answerCallbackQuery c)
  let pedidoId := pedidoDoBotao data
  faz (.atribuir c r [.etapa (some .justificativaFalha), .pedidoId pedidoId])
  faz (.set c r)
  enviar s!"❗ *Selecione o motivo da falha para o pedido #{pedidoId.texto}:*"

/-- `justificativa_<motivo>_<id>`. -/
def justificar (data : Texto) : Fluxo Unit := do
  faz (.answerCallbackQuery c)
  let justificativa := String.ofList ((Texto.split data)[1]?.getD [])
  let pedidoId := pedidoDoBotao data
  let dateTime ← faz .dateNow
  consulta c (.justificar dateTime justificativa pedidoId)
  enviar (s!"❌ *Pedido #{pedidoId.texto} marcado como falha às {dateTime} com justificativa: " ++
    s!"{justificativa}.*")
  faz (.atribuir c r [.etapa (some .submenuOrganizarRota), .submenu (some .organizarRota),
    .pedidoId .nulo])
  faz (.set c r)

def cancelarJustificativa : Fluxo Unit := do
  faz (.answerCallbackQuery c)
  faz (.atribuir c r [.etapa (some .submenuOrganizarRota), .pedidoId .nulo])
  faz (.set c r)
  enviar "🚫 *Justificativa cancelada.*"

/-- The buttons of this module; `none` is data of another. -/
def ramoOrganizar (data : Texto) : Option (Fluxo Unit) :=
  if data.startsWith "selecionar_pedido_".toList then some (selecionarPedido c r enviar data)
  else if data.startsWith "manter_endereco_".toList then some (manterEndereco c r enviar data)
  else if data.startsWith "editar_endereco_".toList then some (editarEndereco c r enviar data)
  else if data = "cancelar_edicao".toList then some (cancelarEdicao c r enviar)
  else if data = "voltar_edicao".toList then some (voltarEdicao c r enviar)
  else if data = "concluir_edicao".toList then some (concluirEdicao c r enviar)
  else if data.startsWith "detalhes_pedido_".toList then
    some (detalhesDoPedido c r enviar data)
  else if data.startsWith "receber_pedido_".toList then some (receberPedido c r enviar data)
  else if data.startsWith "negar_pedido_".toList then some (negarPedido c r enviar data)
  else if data.startsWith "justificativa_".toList then some (justificar c r enviar data)
  else if data = "cancelar_justificativa".toList then some (cancelarJustificativa c r enviar)
  else none

def erroDeRota : Fluxo Bool := do
  enviar "⚠️ *Erro ao montar a rota otimizada.*"
  faz (.atribuir c r [.etapa (some .aguardandoPontoInicial), .pedidoId .nulo, .rota []])
  faz (.set c r)
  pure true

/-- Data that is missing has no `startsWith`. -/
def tratarCallbackOrganizarRota (data : Option Texto) : Fluxo Bool :=
  let tratar : Fluxo Bool :=
    match data with
    | none => fail indefinida
    | some data =>
      match ramoOrganizar c r enviar data with
      | some ramo => do
        ramo
        pure true
      | none => pure false
  tratar.handle fun _ => erroDeRota c r enviar

end Callback
end IceClube
