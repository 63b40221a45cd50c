import IceClube.EntregaBot
import IceClube.Vendas

/-! `chatbot.js`: registration, the two passwords, the choice of a sector and the cleanup
timer. Answers to a button that nobody awaits are left out. -/
namespace IceClube

open Coop Prog

/-- A message; the phone number of a shared contact comes apart from it. -/
structure Mensagem where
  messageId : Option Nat := none
  text : Texto := []
  photo : Bool := false
  deriving DecidableEq, Repr

def senhaMestre : Texto := "#acesso123".toList

def sessionTimeout : Nat := 15 * 60 * 1000

def Cargo.texto : Cargo → String
  | vendedor => "vendedor"
  | entregador => "entregador"
  | outro texto => texto

def Setor.texto : Setor → String
  | vendas => "vendas"
  | entrega => "entrega"

def Setor.deTexto (texto : Texto) : Option Setor :=
  if texto = "vendas".toList then some .vendas
  else if texto = "entrega".toList then some .entrega
  else none

def Setor.cargo : Setor → Cargo
  | vendas => .vendedor
  | entrega => .entregador

section Chatbot

variable (c : Chat)

def enviarMensagem (mensagem : String) : Fluxo Unit :=
  let enviar : Fluxo Unit := do
    let messageId ← faz (.sendMessage c mensagem [])
    let r ← obter c {}
    faz (.atribuir c r [.pushMessageId messageId])
    faz (.set c r)
  enviar.handle fun _ => pure ()

def enviarMenuSetores (cargo : Option Cargo) : Fluxo Unit :=
  match cargo with
  | none => enviarMensagem c semPermissao
  | some .vendedor => enviarMensagem c (bemVindo "VENDEDOR")
  | some .entregador => enviarMensagem c (bemVindo "ENTREGADOR")
  | some (.outro "") => enviarMensagem c semPermissao
  | some (.outro _) => pure ()
where
  semPermissao :=
    "⚠️ *Setores não disponíveis. Você não tem permissão. Contate o administrador.*"
  bemVindo (cargo : String) := s!"ℹ️ *Bem-vindo(a) ao setor {cargo}! Escolha uma opção:*"

def solicitarNumeroTelefone : Fluxo Unit :=
  let solicitar : Fluxo Unit := do
    let _ ← faz (.sendMessage c
      "📲 *Por favor, compartilhe seu número de telefone para completar o cadastro.*" [])
    pure ()
  solicitar.handle fun _ =>
    enviarMensagem c "⚠️ *Erro ao solicitar número de telefone. Tente novamente.*"

def verificarPermissoes : Fluxo Bool :=
  (faz (.getChatMember c)).handle fun _ => pure false

/-- The distinct identifiers from the newest on. -/
def mensagensParaApagar (messageIds : List Nat) : List Nat :=
  messageIds.eraseDups.mergeSort fun a b => b ≤ a

def apagarMensagem (id : Nat) : Fluxo Unit := do
  (faz (.deleteMessage c id)).handle fun _ => pure ()
  faz (.setTimeout 30)

def limparMensagensChat : Fluxo Unit :=
  let limpar : Fluxo Unit := do
    let r ← obter c {}
    let _canDeleteOthers ← verificarPermissoes c
    let sessao ← faz (.ler c r)
    each (apagarMensagem c) (mensagensParaApagar sessao.messageIds)
    faz (.atribuir c r [.messageIds []])
    faz (.set c r)
  limpar.handle fun _ => pure ()

def limparChat : Fluxo Unit := do
  match ← faz (.get c) with
  | none => pure ()
  | some r => do
    let sessao ← faz (.ler c r)
    if sessao.messageIds = [] then pure () else limparMensagensChat c

def sessaoDoDia (agora : Nat) : Inicio where
  data := some (dia agora)
  lastUpdated := some agora

/-- The session of the map, or a new one where it is missing or of another day. -/
def sessaoDeHoje (agora r : Nat) : Fluxo Nat := do
  let sessao ← faz (.ler c r)
  if sessao.data ≠ some (dia agora) then faz (.novo c (sessaoDoDia agora)) else pure r

/-- The listener of shared contacts. -/
def contato (phoneNumber : String) : Fluxo Unit := do
  if phoneNumber = "" then
    enviarMensagem c "⚠️ *Número de telefone inválido. Tente novamente.*"
  else do
    let agora ← faz .dateNow
    let r ← obter c (sessaoDoDia agora)
    let salvar : Fluxo Unit := do
      match ← consulta c (.selectUsuario c) with
      | none =>
        enviarMensagem c "⚠️ *Usuário não encontrado. Envie a senha mestre para registrar.*"
      | some (id, usuario) => do
        if usuario.numero.getD "" ≠ "" then
          enviarMensagem c "⚠️ *Número já cadastrado. Envie sua senha pessoal para continuar.*"
        else do
          consulta c (.updateNumero c phoneNumber)
          let agora ← faz .dateNow
          faz (.atribuir c r [.usuarioId (some id), .cadastroEstado (some .aguardandoSenha),
            .lastUpdated agora])
          faz (.set c r)
          enviarMensagem c (s!"✅ *Número {phoneNumber} salvo com sucesso!* Agora, envie sua " ++
            "*senha pessoal* (mínimo 4 caracteres).")
    salvar.handle fun _ =>
      enviarMensagem c "⚠️ *Erro ao salvar o número de telefone. Tente novamente.*"

section Mensagem

variable (r : Nat)

def registrarUsuario (usuarioId : Nat) : Fluxo Unit := do
  let agora ← faz .dateNow
  faz (.atribuir c r [.usuarioId (some usuarioId), .cadastroEstado (some .aguardandoNumero),
    .lastUpdated agora])
  faz (.set c r)
  solicitarNumeroTelefone c

def novoUsuario (m : Mensagem) : Fluxo Unit :=
  if m.text ≠ senhaMestre then
    enviarMensagem c "🔒 *Envie a senha de acesso para se registrar.*"
  else
    let registrar : Fluxo Unit := do
      match ← consulta c (.selectUsuario c) with
      | some (id, _) => do
        faz (.atribuir c r [.usuarioId (some id), .cadastroEstado (some .aguardandoNumero)])
        faz (.set c r)
        solicitarNumeroTelefone c
      | none => do
        let insertId ← consulta c (.insertUsuario c)
        registrarUsuario c r insertId
        enviarMensagem c
          "✅ *Acesso liberado!* Compartilhe seu número para continuar o cadastro."
    registrar.handle fun erro =>
      if erro = "ER_DUP_ENTRY" then
        enviarMensagem c
          "⚠️ *Usuário já registrado. Envie seu número de telefone ou senha pessoal.*"
      else enviarMensagem c "⚠️ *Erro ao registrar usuário. Tente novamente.*"

def definirSenha (m : Mensagem) : Fluxo Unit :=
  if m.text.length < 4 then
    enviarMensagem c "❗ *A senha deve ter pelo menos 4 caracteres.*"
  else
    let salvar : Fluxo Unit := do
      consulta c (.updateSenha c m.text)
      let agora ← faz .dateNow
      faz (.atribuir c r [.logado true, .cadastroEstado none, .lastUpdated agora])
      faz (.set c r)
      let sessao ← faz (.ler c r)
      enviarMenuSetores c sessao.cargo
    salvar.handle fun _ => enviarMensagem c "⚠️ *Erro ao salvar senha. Tente novamente.*"

def verificarSenha (m : Mensagem) : Fluxo Unit :=
  if m.text = [] then enviarMensagem c "🔒 *Envie sua senha pessoal para acessar.*"
  else
    let verificar : Fluxo Unit := do
      match ← consulta c (.selectLogin c m.text) with
      | none => enviarMensagem c "❌ *Senha incorreta. Envie sua senha pessoal para acessar.*"
      | some (_, usuario) => do
        let agora ← faz .dateNow
        faz (.atribuir c r [.logado true, .cargo usuario.cargo, .nome usuario.nome,
          .lastUpdated agora])
        faz (.set c r)
        enviarMensagem c
          s!"🔓 *Bem-vindo(a), {nomeOuUsuario usuario.nome}! Login diário realizado!*"
    verificar.handle fun _ =>
      enviarMensagem c "⚠️ *Erro ao verificar senha. Tente novamente.*"

def entradaDeTexto (texto : Texto) (m : Mensagem) : Entrada where
  texto := Texto.trim (if m.text = [] then texto else m.text)
  text := some m.text

def liberado (setor : Setor) (cargo : Option Cargo) : String :=
  let mensagem := s!"✅ *Acesso ao setor {setor.texto.toUpper} liberado.*"
  if cargo = none then s!"{mensagem}\nℹ️ Seu cargo ainda não foi definido." else mensagem

def abrirSetor (m : Mensagem) : Fluxo Unit := do
  let agora ← faz .dateNow
  faz (.atribuir c r [.autenticado true, .lastUpdated agora])
  faz (.set c r)
  let sessao ← faz (.ler c r)
  match sessao.setor with
  | none => fail indefinida
  | some .vendas => enviarMensagem c (liberado .vendas sessao.cargo)
  | some .entrega => do
    enviarMensagem c (liberado .entrega sessao.cargo)
    faz (.chama c r .entrega)
    tratarEntrega c (enviarMensagem c) r (entradaDeTexto "menu".toList m)

def autenticarSetor (setor : Setor) (m : Mensagem) : Fluxo Unit :=
  if Texto.trim m.text = [] then
    enviarMensagem c s!"🔐 *Envie a senha do setor {setor.texto.toUpper} para acessar.*"
  else
    let autenticar : Fluxo Unit := do
      match ← consulta c (.selectSetor setor) with
      | none => enviarMensagem c "⚠️ *Setor inválido ou não configurado.*"
      | some senhaSetor => do
        let senhaCorreta ← faz (.compare c setor m.text senhaSetor)
        if !senhaCorreta then
          enviarMensagem c ("🔐 *Senha incorreta. Envie a senha do setor " ++
            s!"{setor.texto.toUpper} para acessar.*")
        else abrirSetor c r m
    autenticar.handle fun _ =>
      enviarMensagem c "⚠️ *Erro ao autenticar setor. Tente novamente.*"

def executarSetor (setor : Setor) (m : Mensagem) : Fluxo Unit :=
  let executar : Fluxo Unit := do
    faz (.chama c r setor)
    match setor with
    | .vendas => handleSales c r m.text m.photo
    | .entrega => tratarEntrega c (enviarMensagem c) r (entradaDeTexto [] m)
  executar.handle fun _ =>
    enviarMensagem c "⚠️ *Erro ao processar sua solicitação. Tente novamente.*"

/-- From the login on: the sector's password, then the sector. -/
def usuarioLogado (m : Mensagem) : Fluxo Unit := do
  let sessao ← faz (.ler c r)
  match sessao.setor with
  | none => enviarMenuSetores c sessao.cargo
  | some setor =>
    if sessao.autenticado then executarSetor c r setor m else autenticarSetor c r setor m

def usuarioCadastrado (m : Mensagem) (id : Nat) (usuario : Usuario) : Fluxo Unit := do
  faz (.atribuir c r [.usuarioId (some id), .cargo usuario.cargo, .nome usuario.nome])
  faz (.set c r)
  let sessao ← faz (.ler c r)
  if usuario.senha.getD "" = "" ∧ sessao.cadastroEstado = some .aguardandoSenha then
    definirSenha c r m
  else if usuario.numero.getD "" = "" then do
    solicitarNumeroTelefone c
    enviarMensagem c "❗ *Compartilhe seu número de telefone antes de definir a senha.*"
  else if !sessao.logado then verificarSenha c r m
  else usuarioLogado c r m

/-- The answer of the query, or `none` once its error was reported. -/
def consultarUsuario : Fluxo (Option (Option (Nat × Usuario))) :=
  let consultar : Fluxo (Option (Option (Nat × Usuario))) := do
    let usuario ← consulta c (.selectUsuario c)
    pure (some usuario)
  consultar.handle fun _ => do
    enviarMensagem c "⚠️ *Erro ao acessar o sistema. Tente novamente.*"
    pure none

def sessaoExpirada (sessao : Sessao) (agora : Nat) : Bool :=
  sessao.lastUpdated.any fun antes => antes ≠ 0 ∧ sessionTimeout < agora - antes

/-- The message handler from where it holds the session it goes on with. -/
def mensagemNaSessao (agora : Nat) (m : Mensagem) : Fluxo Unit := do
  let sessao ← faz (.ler c r)
  if sessaoExpirada sessao agora then do
    faz (.delete c .expirada)
    enviarMensagem c "🕒 *Sessão expirada. Envie sua senha pessoal para continuar.*"
  else do
    faz (.atribuir c r [.lastUpdated agora])
    faz (.set c r)
    match ← consultarUsuario c with
    | none => pure ()
    | some none => novoUsuario c r m
    | some (some (id, usuario)) => usuarioCadastrado c r m id usuario

end Mensagem

/-- The listener of messages. -/
def mensagem (m : Mensagem) : Fluxo Unit := do
  let agora ← faz .dateNow
  let r ← obter c (sessaoDoDia agora)
  faz (.atribuir c r (m.messageId.toList.map Campo.pushMessageId))
  let r ← sessaoDeHoje c agora r
  mensagemNaSessao c r agora m

section Callback

variable (r : Nat)

def escolherSetor (data : Texto) : Fluxo Unit := do
  let sessao ← faz (.ler c r)
  if sessao.autenticado then
    enviarMensagem c
      "⚠️ *Você já está autenticado em um setor. Clique em Sair para reiniciar.*"
  else
    match Setor.deTexto (Texto.remover "setor_".toList data) with
    | none => enviarMensagem c "⚠️ *Setor inválido. Escolha novamente.*"
    | some setor =>
      if sessao.cargo ≠ some setor.cargo then
        enviarMensagem c "⚠️ *Você não tem permissão para acessar este setor.*"
      else do
        let agora ← faz .dateNow
        faz (.atribuir c r [.setor (some setor), .lastUpdated agora])
        faz (.set c r)
        enviarMensagem c (s!"🔑 *Setor selecionado: {setor.texto.toUpper}.*\n" ++
          "Envie a senha do setor para continuar.")

def sairDoChat : Fluxo Unit := do
  faz (.delete c .sair)
  enviarMensagem c "🛑 *Você saiu do fluxo.* Para começar, envie *oi* ou sua senha pessoal."

def semSetor (data : Texto) : Fluxo Unit := do
  let sessao ← faz (.ler c r)
  if data.startsWith "setor_".toList then escolherSetor c r data
  else if data = "escolher_setor".toList then enviarMenuSetores c sessao.cargo
  else if data = "sair".toList then sairDoChat c
  else enviarMensagem c "⚠️ *Ação inválida. Tente novamente.*"

def callbackNaSessao (data : Texto) : Fluxo Unit :=
  let processar : Fluxo Unit := do
    let sessao ← faz (.ler c r)
    match sessao.setor, sessao.autenticado with
    | some .vendas, true => do
      faz (.chama c r .vendas)
      handleCallbacks c r data
    | some .entrega, true => do
      faz (.chama c r .entrega)
      tratarEntrega c (enviarMensagem c) r { texto := Texto.trim data, data := some data }
    | _, _ => semSetor c r data
  processar.handle fun _ =>
    enviarMensagem c "⚠️ *Erro ao processar ação. Tente novamente.*"

end Callback

/-- The listener of callback queries of `chatbot.js`. -/
def callbackChat (data : Option Texto) : Fluxo Unit :=
  if data.getD [] = [] then pure ()
  else do
    faz (.botao c (data.getD []))
    let agora ← faz .dateNow
    let r ← obter c (sessaoDoDia agora)
    let r ← sessaoDeHoje c agora r
    callbackNaSessao c r (data.getD [])

end Chatbot

/-- What reaches the bot. A button is delivered to its two listeners one by one, and the
timer visits the chats that the live iterator over the map yields. -/
inductive Evento where
  | mensagem (c : Chat) (m : Mensagem)
  | contato (c : Chat) (phoneNumber : String)
  | callbackEntrega (c : Chat) (data : Option Texto)
  | callbackChat (c : Chat) (data : Option Texto)
  | limpeza (chats : List Chat)
  deriving DecidableEq, Repr

def Evento.tratar : Evento → Fluxo Unit
  | .mensagem c m => IceClube.mensagem c m
  | .contato c phoneNumber => IceClube.contato c phoneNumber
  | .callbackEntrega c data => IceClube.callbackEntrega c data
  | .callbackChat c data => IceClube.callbackChat c data
  | .limpeza chats => each limparChat chats

/-- What others do between two steps of the bot: to the database, or by answering. -/
structure Deriva where
  db : Db
  acaso : List Acaso := []
  falhas : List Falha := []

def Mundo.derivar (d : Deriva) (m : Mundo) : Mundo :=
  { m with db := d.db, acaso := d.acaso, falhas := d.falhas }

/-- The bot whose calls yield as `sync` says. -/
def botCom (sync : Ato → Bool) : System Evento Deriva String Ato.Res Unit Mundo where
  exec := Ato.exec
  sync := sync
  listeners evento := [evento.tratar]
  drift := Mundo.derivar

/-- Handlers that run one at a time. -/
def botSequencial : System Evento Deriva String Ato.Res Unit Mundo := botCom fun _ => true

/-- Handlers that interleave wherever they await. -/
def bot : System Evento Deriva String Ato.Res Unit Mundo := botCom Ato.sync

end IceClube
