import IceClube.Bot

/-! `setores/vendas.js`: the conversation in which a seller registers a sale. The stored
procedures that it calls are not in the repository, so a call is only recorded. -/
namespace IceClube

open Coop Prog

/-- A character that Markdown would take for itself; 96 is the backquote. -/
def especialMarkdown (x : Char) : Bool :=
  x = '*' || x = '_' || x = Char.ofNat 96 || x = '[' || x = ']'

def escaparTexto (t : Texto) : Texto :=
  t.flatMap fun x => if especialMarkdown x then ['\\', x] else [x]

def escapeMarkdown (text : String) : String :=
  if text = "" then "Não informado" else String.ofList (escaparTexto text.toList)

def Metodo.texto : Metodo → String
  | pix => "pix"
  | dinheiro => "dinheiro"
  | dinheiroPix => "dinheiro_pix"

section Vendas

variable (c : Chat) (r : Nat)

/-- The `sendMessage` of this module never throws. -/
def enviarVenda (mensagem : String) : Fluxo Unit :=
  let enviar : Fluxo Unit := do
    let _ ← faz (.sendMessage c mensagem [])
    pure ()
  enviar.handle fun _ => pure ()

def showInitialMenu : Fluxo Unit := do
  let sessao ← faz (.ler c r)
  enviarVenda c (s!"👋 *Bem-vindo às vendas, {escapeMarkdown (nomeOuUsuario sessao.nome)}!* 😊\n" ++
    "Escolha uma opção:")

/-- Assignments that end in `sessao.lastUpdated = Date.now()`. -/
def atualizar (campos : List Campo) : Fluxo Unit := do
  let agora ← faz .dateNow
  faz (.atribuir c r (campos ++ [.lastUpdated agora]))

def pedirNumero : String :=
  "📞 *Digite o número do cliente.*\nExemplo: +5511999999999 ou 5511999999999"

section Callbacks

def criarVenda : Fluxo Unit := do
  atualizar c r [.carrinho [], .etapa (some .criarVenda)]
  faz (.answerCallbackQuery c)
  let sessao ← faz (.ler c r)
  enviarVenda c (s!"🛒 *Criar nova venda, {escapeMarkdown (nomeOuUsuario sessao.nome)}!*\n" ++
    "O que deseja fazer?")

def adicionarItens : Fluxo Unit := do
  atualizar c r [.etapa (some .adicionarItens)]
  faz (.answerCallbackQuery c)
  enviarVenda c ("➕ *Adicione itens ao carrinho.*\n" ++
    "Exemplo: 1un banana, 25g capulho gourmet ou combo caneta refil 1")

def finalizar : Fluxo Unit := do
  let sessao ← faz (.ler c r)
  if sessao.carrinho.getD [] = [] then do
    faz (.answerCallbackQuery c)
    enviarVenda c "⚠️ *O carrinho está vazio. Adicione itens antes de finalizar.*"
  else do
    atualizar c r [.etapa (some .metodoPagamento)]
    faz (.answerCallbackQuery c)
    enviarVenda c "💳 *Escolha o método de pagamento:*"

/-- What 'cancelar' and the timeout clear. -/
def abandonarVenda : List Campo :=
  [.carrinho [], .etapa none, .metodoPagamento none, .comprovantePagamento none,
    .numeroCliente none]

def cancelar : Fluxo Unit := do
  atualizar c r abandonarVenda
  faz (.answerCallbackQuery c)
  showInitialMenu c r

def chavePix (laranja : Option Laranja) : String :=
  match laranja.bind (·.pix) with
  | some pix => if pix = "" then "" else s!"Chave Pix: {escapeMarkdown pix}\n"
  | none => ""

/-- The buttons 'pix' and 'dinheiro_pix'. -/
def pagarComPix (metodo : Metodo) : Fluxo Unit := do
  atualizar c r [.metodoPagamento (some metodo), .etapa (some .comprovante)]
  let laranja ← consulta c .selectLaranja
  faz (.answerCallbackQuery c)
  enviarVenda c s!"📸 *Envie a imagem do comprovante do Pix.*\n{chavePix laranja}"

def pagarComDinheiro : Fluxo Unit := do
  atualizar c r [.metodoPagamento (some .dinheiro),
    .comprovantePagamento (some .semComprovante), .etapa (some .numeroCliente)]
  faz (.answerCallbackQuery c)
  enviarVenda c pedirNumero

def quantidadeDe (item : ItemCarrinho) : ℚ :=
  (Texto.parseFloat (Texto.digitosEPontos item.quantidade)).getD 0

/-- One `CALL`, with the session as it is at that moment. -/
def registrarItem (item : ItemCarrinho) : Fluxo Unit := do
  let sessao ← faz (.ler c r)
  faz (.call c ⟨sessao.numeroCliente, sessao.metodoPagamento, sessao.usuarioId, item.id,
    quantidadeDe item⟩)

def limiteDoComprovante : Nat := 10 * 1024 * 1024

def salvarComprovante (linhas : Nat) : Fluxo Unit := do
  let sessao ← faz (.ler c r)
  match sessao.comprovantePagamento with
  | some (.imagem imagem) => do
    if limiteDoComprovante < imagem.bytes then fail "Imagem do comprovante muito grande."
    else do
      let vendasRecentes ← faz (.selectVendasRecentes sessao.numeroCliente linhas)
      each (fun venda => faz (.updateComprovante c imagem venda)) vendasRecentes
  | _ => pure ()

def limparVenda : List Campo :=
  [.carrinho [], .etapa none, .metodoPagamento none, .comprovantePagamento none,
    .numeroCliente none, .valorDinheiro none]

def registrarCarrinho : Fluxo Unit := do
  faz .beginTransaction
  let sessao ← faz (.ler c r)
  match sessao.carrinho with
  | none => fail indefinida
  | some carrinho => do
    let itensNormais := carrinho.filter fun item => !item.isCombo
    let combos := carrinho.filter ItemCarrinho.isCombo
    each (registrarItem c r) itensNormais
    each (registrarItem c r) combos
    salvarComprovante c r (itensNormais.length + combos.length)
    faz (.commitVenda c r)
    atualizar c r limparVenda
    faz (.answerCallbackQuery c)
    enviarVenda c "✅ *Venda finalizada com sucesso! Pedido registrado.*"
    showInitialMenu c r

def confirmarPedido : Fluxo Unit := do
  let sessao ← faz (.ler c r)
  if sessao.numeroCliente.getD [] = [] then do
    faz (.answerCallbackQuery c)
    enviarVenda c "⚠️ *Por favor, envie o número do cliente antes de confirmar.*"
  else do
    faz .getConnection
    (registrarCarrinho c r).handle fun erro => do
      faz .rollbackVenda
      faz (.answerCallbackQuery c)
      enviarVenda c s!"⚠️ *Erro ao finalizar venda: {erro}. Tente novamente.*"

def nomeDoProduto (id : Nat) : Fluxo Unit := do
  match ← consulta c (.selectNomeProduto id) with
  | some _ => pure ()
  | none => fail indefinida

def gerarListaImagem : Fluxo Bool :=
  let gerar : Fluxo Bool := do
    let categorias ← consulta c .selectCategorias
    let promocoes ← consulta c .selectPromocoes
    each (fun categoria => do
      let _ ← consulta c (.selectProdutos categoria)
      pure ()) categorias
    each (fun combo => do
      nomeDoProduto c combo.1
      nomeDoProduto c combo.2) promocoes
    faz (.screenshot c)
    faz (.sendPhoto c)
    pure true
  gerar.handle fun _ => do
    let _ ← faz (.sendMessage c "⚠️ Erro ao gerar a lista. Tente novamente mais tarde." [])
    pure false

def acaoInvalida : Fluxo Unit := do
  faz (.answerCallbackQuery c)
  enviarVenda c "⚠️ *Ação inválida. Tente novamente.*"

/-- A list that fails goes on to the branch of unknown data. -/
def listaDeVendas : Fluxo Unit := do
  faz (.answerCallbackQuery c)
  let sucesso ← gerarListaImagem c
  if sucesso then do
    faz (.atribuir c r [.etapa none])
    showInitialMenu c r
  else acaoInvalida c

def mostrarQrCode (pix qrcode : String) : Fluxo Unit :=
  let mostrar : Fluxo Unit :=
    match (qrcode.splitOn ",")[1]? with
    | none => fail "The first argument must be of type string"
    | some "" => fail "QR code inválido ou mal formatado"
    | some _ => faz (.sendPhoto c)
  mostrar.handle fun _ =>
    enviarVenda c s!"🟠 *Pix: {escapeMarkdown pix}*\n⚠️ *Erro ao exibir QR Code.*"

def mostrarLaranja : Fluxo Unit := do
  match ← consulta c .selectLaranja with
  | none => do
    faz (.answerCallbackQuery c)
    enviarVenda c "⚠️ *Nenhuma informação de Pix disponível.*"
  | some laranja => do
    faz (.answerCallbackQuery c)
    let pix := laranja.pix.getD ""
    let mostrar : Fluxo Unit :=
      match laranja.qrcode with
      | some qrcode =>
        if qrcode = "" then enviarVenda c s!"🟠 *Pix: {escapeMarkdown pix}*"
        else mostrarQrCode c pix qrcode
      | none => enviarVenda c s!"🟠 *Pix: {escapeMarkdown pix}*"
    mostrar
    faz (.atribuir c r [.etapa none])
    showInitialMenu c r

def pedirInfo : Fluxo Unit := do
  atualizar c r [.etapa (some .info)]
  faz (.answerCallbackQuery c)
  enviarVenda c "ℹ️ *Digite o nome do produto para consultar.*\nExemplo: coca-cola"

/-- Leaving the sector keeps the login, the number, the method and the receipt. -/
def deixarSetor : List Campo :=
  [.carrinho [], .etapa none, .setor none, .autenticado false]

def despedida : String :=
  "🛑 *Você saiu do setor Vendas.*\nPara começar, envie *oi* ou sua senha pessoal."

/-- The button goes on to the branch of unknown data too. -/
def sairDasVendas : Fluxo Unit := do
  atualizar c r deixarSetor
  faz (.answerCallbackQuery c)
  enviarVenda c despedida
  acaoInvalida c

def ramoVendas (data : Texto) : Fluxo Unit :=
  if data = "criar_venda".toList then criarVenda c r
  else if data = "adicionar_itens".toList then adicionarItens c r
  else if data = "finalizar".toList then finalizar c r
  else if data = "cancelar".toList then cancelar c r
  else if data = "pix".toList then pagarComPix c r .pix
  else if data = "dinheiro".toList then pagarComDinheiro c r
  else if data = "dinheiro_pix".toList then pagarComPix c r .dinheiroPix
  else if data = "confirmar_pedido".toList then confirmarPedido c r
  else if data = "lista".toList then listaDeVendas c r
  else if data = "laranja".toList then mostrarLaranja c r
  else if data = "info".toList then pedirInfo c r
  else if data = "sair".toList then sairDasVendas c r
  else acaoInvalida c

def handleCallbacks (data : Texto) : Fluxo Unit :=
  (ramoVendas c r data).handle fun _ => do
    faz (.answerCallbackQuery c)
    enviarVenda c "⚠️ *Erro ao processar ação. Tente novamente.*"

end Callbacks

section Textos

def linhaDoProduto (e : Estoque) : String :=
  s!"- {escapeMarkdown e.nome} ({e.medida}): {textoNumero e.quantidade} disponíveis, " ++
    s!"R${toFixed2 e.valorUnitario}/{e.medida}\n"

def secaoDaCategoria (categoria : Categoria) (produtos : List Estoque) : String :=
  let nome := String.ofList (Texto.toUpperCase categoria.nome.toList)
  if produtos = [] then ""
  else (s!"*{escapeMarkdown nome}*\n" ++
    s!"{String.join (produtos.map linhaDoProduto)}\n")

def secoes : List Categoria → Fluxo String
  | [] => pure ""
  | categoria :: resto => do
    let produtos ← consulta c (.selectProdutos categoria)
    let mensagem ← secoes resto
    pure (secaoDaCategoria categoria produtos ++ mensagem)

def produto : Fluxo Unit := do
  let categorias ← consulta c .selectCategorias
  let mensagem ← secoes c categorias
  let conteudo :=
    if categorias = [] then "⚠️ *Nenhuma categoria disponível no momento.*" else mensagem
  enviarVenda c s!"📋 *Lista de produtos por categoria:*\n\n{conteudo}"
  atualizar c r [.etapa none]
  showInitialMenu c r

def linhasDoCarrinho (carrinho : List ItemCarrinho) : String :=
  String.join (carrinho.map fun item =>
    s!"- {escapeMarkdown (String.ofList item.quantidade)} " ++
      s!"{escapeMarkdown (String.ofList item.nome)}: R${toFixed2 item.valorTotal}\n")

def totalDoCarrinho (carrinho : List ItemCarrinho) : ℚ :=
  (carrinho.map (·.valorTotal)).sum

def verCarrinho : Fluxo Unit := do
  let sessao ← faz (.ler c r)
  let carrinho := sessao.carrinho.getD []
  if carrinho = [] then do
    enviarVenda c "🛒 *O carrinho está vazio.*"
    atualizar c r [.etapa none]
    showInitialMenu c r
  else do
    enviarVenda c (s!"🛒 *Seu carrinho:*\n\n{linhasDoCarrinho carrinho}\n" ++
      s!"*Valor total:* R${toFixed2 (totalDoCarrinho carrinho)}")
    atualizar c r []

def removerItem (texto : Texto) : Fluxo Unit := do
  let produto := Texto.toLowerCase (Texto.trim (texto.drop 8))
  let sessao ← faz (.ler c r)
  match sessao.carrinho with
  | none => fail indefinida
  | some carrinho =>
    match carrinho.findIdx? fun item => Texto.toLowerCase item.nome = produto with
    | none => do
      enviarVenda c
        s!"⚠️ *Produto {escapeMarkdown (String.ofList produto)} não encontrado no carrinho.*"
      atualizar c r [.etapa none]
      showInitialMenu c r
    | some index => do
      atualizar c r [.removeItem index]
      enviarVenda c s!"🗑️ *{escapeMarkdown (String.ofList produto)} removido do carrinho.*"
      faz (.atribuir c r [.etapa none])
      showInitialMenu c r

/-- `sessao.carrinho.push(item)`. -/
def guardarItem (item : ItemCarrinho) : Fluxo Unit := do
  let sessao ← faz (.ler c r)
  if sessao.carrinho.isNone then fail indefinida
  else faz (.atribuir c r [.pushItem item])

def temParaCombo (estoque : Option Estoque × Option Estoque) (quantidade : ℚ) : Bool :=
  estoque.1.any (quantidade ≤ ·.quantidade) && estoque.2.any (quantidade ≤ ·.quantidade)

def adicionarCombo (texto : Texto) : Fluxo Unit := do
  match Texto.primeiroNumero texto with
  | none => do
    enviarVenda c "⚠️ *Formato inválido.* Use: combo caneta refil 1"
    atualizar c r []
  | some 0 => enviarVenda c "⚠️ *Quantidade inválida para o combo.*"
  | some quantidadeCombo => do
    let estoque ← consulta c .selectCombo
    if !temParaCombo estoque quantidadeCombo then
      enviarVenda c "⚠️ *Estoque insuficiente para o combo Caneta + Refil.*"
    else do
      let promocao ← consulta c .selectPromocaoCombo
      let precoCombo := promocao.getD 400
      guardarItem c r ⟨none, "Combo Caneta + Refil".toList, s!"{quantidadeCombo}un".toList,
        precoCombo, precoCombo * quantidadeCombo⟩
      enviarVenda c (s!"✅ {quantidadeCombo}un Combo Caneta + Refil adicionado ao carrinho por " ++
        s!"R${toFixed2 precoCombo} cada.")
      atualizar c r []

def adicionarProduto (id : Nat) (produto : Estoque) (quantidade : Nat) (nome : String) :
    Fluxo Unit := do
  match ← consulta c (.calcularPreco id quantidade) with
  | none => enviarVenda c s!"⚠️ Valor unitário inválido para \"{escapeMarkdown nome}\"."
  | some valorUnitario => do
    guardarItem c r ⟨some id, produto.nome.toList, s!"{quantidade}{produto.medida}".toList,
      valorUnitario, quantidade * valorUnitario⟩
    enviarVenda c (s!"✅ {quantidade}{produto.medida} {escapeMarkdown produto.nome} adicionado " ++
      s!"ao carrinho por R${toFixed2 valorUnitario} cada.")
    atualizar c r []

def adicionarItem (texto : Texto) : Fluxo Unit := do
  match Texto.item (Texto.trim texto) with
  | none => do
    enviarVenda c "⚠️ *Formato inválido.* Use: 1un 25g capulho gourmet ou combo caneta refil 1"
    atualizar c r []
  | some (quantidadeStr, nomeDigitado) => do
    let nome := Texto.toLowerCase nomeDigitado
    let texto := String.ofList nome
    let quantidade := (Texto.primeiroNumero quantidadeStr).getD 0
    if quantidade = 0 then do
      enviarVenda c s!"⚠️ Quantidade inválida para \"{escapeMarkdown texto}\"."
      atualizar c r []
    else do
      match ← consulta c (.selectProduto nome) with
      | none => do
        let estoque ← consulta c (.selectProduto nome)
        let disponivel := (estoque.map (·.2.quantidade)).getD 0
        enviarVenda c (s!"⚠️ Produto {escapeMarkdown texto} não encontrado ou estoque " ++
          s!"insuficiente (disponível: {textoNumero disponivel}).")
      | some (id, produto) => do
        if produto.quantidade < quantidade then
          enviarVenda c (s!"⚠️ Estoque insuficiente para {escapeMarkdown texto}. " ++
            s!"Disponível: {textoNumero produto.quantidade}.")
        else adicionarProduto c r id produto quantidade texto

def textoDeItens (texto : Texto) : Fluxo Unit :=
  let minusculo := Texto.toLowerCase texto
  if minusculo = "ver carrinho".toList then verCarrinho c r
  else if minusculo.startsWith "remover ".toList then removerItem c r texto
  else if minusculo.startsWith "combo caneta refil".toList then adicionarCombo c r texto
  else adicionarItem c r texto

def depoisDoComprovante (metodo : Option Metodo) : Etapa :=
  if metodo = some .dinheiroPix then .valorDinheiro else .numeroCliente

def perguntaSeguinte (metodo : Option Metodo) : String :=
  if metodo = some .dinheiroPix then
    "💵 *Digite o valor a ser pago em dinheiro.*\nExemplo: 50.00"
  else pedirNumero

def receberComprovante (comprovante : Comprovante) : Fluxo Unit := do
  let sessao ← faz (.ler c r)
  let metodo := sessao.metodoPagamento
  atualizar c r [.comprovantePagamento (some comprovante),
    .etapa (some (depoisDoComprovante metodo))]
  enviarVenda c (perguntaSeguinte metodo)

def receberFoto : Fluxo Unit :=
  let baixar : Fluxo Unit := do
    let imagem ← faz (.getFile c)
    if limiteDoComprovante < imagem.bytes then fail "Imagem muito grande (máximo 10MB)."
    else receberComprovante c r (.imagem imagem)
  baixar.handle fun erro => do
    enviarVenda c (s!"⚠️ *Erro ao processar a imagem: {erro}. Tente novamente ou envie " ++
      "\"sem comprovante\".*")
    atualizar c r []

def textoDeComprovante (texto : Texto) (foto : Bool) : Fluxo Unit :=
  if Texto.toLowerCase texto = "sem comprovante".toList then
    receberComprovante c r .semComprovante
  else if foto then receberFoto c r
  else do
    enviarVenda c "📸 *Envie a imagem do comprovante ou digite \"sem comprovante\".*"
    atualizar c r []

def textoDeValor (texto : Texto) : Fluxo Unit := do
  match Texto.parseFloat (Texto.digitosEPontos texto) with
  | none => do
    enviarVenda c "⚠️ *Valor inválido. Digite um valor válido em dinheiro.*\nExemplo: 50.00"
    atualizar c r []
  | some valorDinheiro => do
    atualizar c r [.valorDinheiro (some valorDinheiro), .etapa (some .numeroCliente)]
    enviarVenda c pedirNumero

/-- A number that a sale can be registered for. -/
def numeroValido (numero : Texto) : Bool := 10 ≤ numero.length && numero.length ≤ 15

/-- The line with the cash part; `null` has no `toFixed`, a missing value prints nothing. -/
def linhaDeDinheiro (sessao : Sessao) : Except String String :=
  match sessao.metodoPagamento, sessao.valorDinheiro with
  | some .dinheiroPix, some (some valor) => .ok s!"*Valor em dinheiro:* R${toFixed2 valor}\n"
  | some .dinheiroPix, some none => .error indefinida
  | _, _ => .ok ""

def resumo : Fluxo Unit := do
  let sessao ← faz (.ler c r)
  match sessao.carrinho with
  | none => fail indefinida
  | some carrinho => do
    let dinheiro ← answered (linhaDeDinheiro sessao)
    let metodo := (sessao.metodoPagamento.map Metodo.texto).getD "Não informado"
    let numero := String.ofList (sessao.numeroCliente.getD [])
    enviarVenda c (s!"📋 *Resumo do pedido:*\n\n{linhasDoCarrinho carrinho}\n" ++
      s!"*Valor total:* R${toFixed2 (totalDoCarrinho carrinho)}\n" ++
      s!"*Pagamento:* {escapeMarkdown metodo}\n{dinheiro}*Número do cliente:* {escapeMarkdown numero}")

def textoDeNumero (texto : Texto) : Fluxo Unit :=
  let numero := Texto.digitos texto
  if !numeroValido numero then do
    enviarVenda c ("⚠️ *Número inválido. Digite um número válido com 10 a 15 dígitos.*\n" ++
      "Exemplo: +5511999999999 ou 5511999999999")
    atualizar c r []
  else do
    atualizar c r [.numeroCliente (some (escaparTexto numero))]
    resumo c r

def textoDeInfo (texto : Texto) : Fluxo Unit := do
  let nome := Texto.remover "info ".toList (Texto.toLowerCase texto)
  match ← consulta c (.selectProduto nome) with
  | none => do
    enviarVenda c s!"⚠️ *Produto {escapeMarkdown (String.ofList nome)} não encontrado.*"
    atualizar c r [.etapa none]
    showInitialMenu c r
  | some (_, produto) => do
    enviarVenda c (s!"ℹ️ *Informações do produto:*\n\n- *Nome:* {escapeMarkdown produto.nome}\n" ++
      s!"- *Medida:* {produto.medida}\n- *Quantidade disponível:* {textoNumero produto.quantidade}\n" ++
      s!"- *Valor unitário:* R${toFixed2 produto.valorUnitario}/{produto.medida}")
    atualizar c r [.etapa none]
    showInitialMenu c r

def recomecar : Fluxo Unit := do
  atualizar c r [.etapa none]
  showInitialMenu c r

def textoDaEtapa (etapa : Option Etapa) (texto : Texto) (foto : Bool) : Fluxo Unit :=
  match etapa with
  | some .adicionarItens => textoDeItens c r texto
  | some .comprovante => textoDeComprovante c r texto foto
  | some .valorDinheiro => textoDeValor c r texto
  | some .numeroCliente => textoDeNumero c r texto
  | some .info => textoDeInfo c r texto
  | _ => recomecar c r

/-- Five minutes without an answer; a time that was never set is never too old. -/
def vendaExpirada (sessao : Sessao) (agora : Nat) : Bool :=
  sessao.etapa.isSome && sessao.lastUpdated.any fun antes => 300000 < agora - antes

def handleSales (texto : Texto) (foto : Bool) : Fluxo Unit := do
  let sessao ← faz (.ler c r)
  let agora ← faz .dateNow
  if vendaExpirada sessao agora then do
    atualizar c r abandonarVenda
    enviarVenda c "🕒 *Sessão expirada. O fluxo foi reiniciado.*\nEscolha uma opção:"
    showInitialMenu c r
  else if Texto.toLowerCase texto = "sair".toList then do
    atualizar c r deixarSetor
    enviarVenda c despedida
    showInitialMenu c r
  else if Texto.toLowerCase texto = "produto".toList then produto c r
  else textoDaEtapa c r sessao.etapa texto foto

end Textos
end Vendas
end IceClube
