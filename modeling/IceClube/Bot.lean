import IceClube.Pool
import IceClube.Sessao
import IceClube.SqlBot

/-! The world of the Telegram bot: the map of sessions with the objects it refers to, the
database, and everything outside, which answers or rejects as it likes. Each chat also
keeps the history of what was done for it, newest first; no handler reads it. -/
namespace IceClube

open Coop Prog

abbrev Chat := Nat

inductive Saida where
  | sair | expirada
  deriving DecidableEq, Repr

/-- The arguments of `registrar_venda`, or of the combo's procedure without a product. -/
structure Chamada where
  numeroCliente : Option Texto
  metodoPagamento : Option Metodo
  usuarioId : Option Nat
  produtoId : Option Nat
  quantidade : ℚ
  deriving DecidableEq, Repr

inductive Fato where
  | criou (r : Nat)
  /-- `proximo` is the next object: every object before it existed at the deletion. -/
  | apagou (saida : Saida) (proximo : Nat)
  /-- The chat's text has the SHA2 of its stored password. -/
  | senhaPessoal
  | senhaDefinida (estado : Option CadastroEstado)
  /-- bcrypt accepted the chat's text for the stored `senha_setor`. -/
  | senhaSetor (setor : Setor)
  | atribuiu (r : Nat) (cargo : Option Cargo) (campo : Campo)
  /-- The data of a button, as `chatbot.js` received it. -/
  | botao (data : Texto)
  | chamou (r : Nat) (setor : Setor)
  | registrou (chamada : Chamada)
  | comprovou (imagem : Imagem)
  | confirmou (r : Nat)
  deriving DecidableEq, Repr

structure Conversa where
  /-- The entry of the map `sessoes`. -/
  sessao : Option Nat := none
  objetos : Nat → Sessao := fun _ => {}
  proximo : Nat := 0
  historia : List Fato := []

/-- How a call that is awaited ends; the effect of a lost one stays. -/
inductive Falha where
  | nenhuma
  | rejeitada (erro : String)
  | perdida
  deriving DecidableEq, Repr

structure Acaso where
  numero : Nat := 0
  texto : Texto := []
  deriving DecidableEq, Repr

structure Mundo where
  db : Db := {}
  conversas : Chat → Conversa := fun _ => {}
  acaso : List Acaso := []
  falhas : List Falha := []
  bcrypt : Texto → String → Bool := fun texto hash => String.ofList texto = hash

/-- The calls of the handlers. `botao` and `chama` are the two that only tell the history
where `chatbot.js` stands. -/
inductive Ato where
  | get (c : Chat)
  | set (c : Chat) (r : Nat)
  | delete (c : Chat) (saida : Saida)
  | novo (c : Chat) (inicio : Inicio)
  | ler (c : Chat) (r : Nat)
  | atribuir (c : Chat) (r : Nat) (campos : List Campo)
  | dateNow
  | botao (c : Chat) (data : Texto)
  | chama (c : Chat) (r : Nat) (setor : Setor)
  /-- `teclado` has the data of the buttons under the message, where they matter. -/
  | sendMessage (c : Chat) (texto : String) (teclado : List String)
  | answerCallbackQuery (c : Chat)
  | deleteMessage (c : Chat) (id : Nat)
  | getChatMember (c : Chat)
  | getFile (c : Chat)
  | screenshot (c : Chat)
  | sendPhoto (c : Chat)
  | geocode (endereco : String)
  | distancematrix (origem destino : String)
  | setTimeout (ms : Nat)
  | compare (c : Chat) (setor : Setor) (texto : Texto) (hash : String)
  | query (c : Chat) (q : SqlBot)
  | getConnection
  | beginTransaction
  | call (c : Chat) (chamada : Chamada)
  | selectVendasRecentes (numeroCliente : Option Texto) (limite : Nat)
  | updateComprovante (c : Chat) (imagem : Imagem) (vendaId : Nat)
  | commitVenda (c : Chat) (r : Nat)
  | rollbackVenda

@[reducible] def Ato.Res : Ato → Type
  | .get _ => Option Nat
  | .novo .. => Nat
  | .ler .. => Sessao
  | .dateNow => Nat
  | .sendMessage .. => Nat
  | .getChatMember _ => Bool
  | .getFile _ => Imagem
  | .geocode _ => Bool
  | .distancematrix .. => Option Texto
  | .compare .. => Bool
  | .query _ q => q.Res
  | .selectVendasRecentes .. => List Nat
  | _ => Unit

/-- The calls that JavaScript does not await. -/
def Ato.sync : Ato → Bool
  | .get _ | .set .. | .delete .. | .novo .. | .ler .. | .atribuir .. | .dateNow | .botao ..
  | .chama .. => true
  | _ => false

/-- A timer never rejects. -/
def Ato.infalivel : Ato → Bool
  | .setTimeout _ => true
  | o => o.sync

namespace Conversa

def anota (fatos : List Fato) (k : Conversa) : Conversa :=
  { k with historia := fatos ++ k.historia }

def guarda (r : Nat) (k : Conversa) : Conversa := { k with sessao := some r }

def apaga (saida : Saida) (k : Conversa) : Conversa :=
  { k with sessao := none, historia := .apagou saida k.proximo :: k.historia }

def troca (r : Nat) (s : Sessao) (k : Conversa) : Conversa :=
  { k with objetos := fun r' => if r' = r then s else k.objetos r' }

def cria (inicio : Inicio) (k : Conversa) : Conversa :=
  { k.troca k.proximo inicio.sessao with
    proximo := k.proximo + 1, historia := .criou k.proximo :: k.historia }

def atribui (r : Nat) (campos : List Campo) (k : Conversa) : Conversa :=
  let fatos := campos.map fun campo => Fato.atribuiu r (k.objetos r).cargo campo
  (k.troca r ((k.objetos r).atribuirTodos campos)).anota fatos.reverse

def atual (k : Conversa) : Option Sessao := k.sessao.map k.objetos

section Campos

variable (k : Conversa) (r : Nat) (fatos : List Fato) (campos : List Campo) (inicio : Inicio)

@[simp] theorem sessao_anota : (k.anota fatos).sessao = k.sessao := rfl
@[simp] theorem objetos_anota : (k.anota fatos).objetos = k.objetos := rfl
@[simp] theorem historia_anota : (k.anota fatos).historia = fatos ++ k.historia := rfl
@[simp] theorem sessao_guarda : (k.guarda r).sessao = some r := rfl
@[simp] theorem objetos_guarda : (k.guarda r).objetos = k.objetos := rfl
@[simp] theorem historia_guarda : (k.guarda r).historia = k.historia := rfl
@[simp] theorem sessao_atribui : (k.atribui r campos).sessao = k.sessao := rfl
@[simp] theorem proximo_atribui : (k.atribui r campos).proximo = k.proximo := rfl
@[simp] theorem sessao_cria : (k.cria inicio).sessao = k.sessao := rfl

@[simp] theorem objetos_atribui : (k.atribui r campos).objetos r =
    (k.objetos r).atribuirTodos campos := if_pos rfl

theorem objetos_atribui_ne {r' : Nat} (other : r' ≠ r) :
    (k.atribui r campos).objetos r' = k.objetos r' := if_neg other

@[simp] theorem objetos_cria : (k.cria inicio).objetos k.proximo = inicio.sessao := if_pos rfl

end Campos

end Conversa

namespace Mundo

def conversa (c : Chat) (f : Conversa → Conversa) (m : Mundo) : Mundo :=
  { m with conversas := fun c' => if c' = c then f (m.conversas c) else m.conversas c' }

def hoje (m : Mundo) : Nat := m.db.hoje

def sorte (m : Mundo) : Acaso := m.acaso.headD {}

def seguinte (m : Mundo) : Mundo := { m with acaso := m.acaso.tail }

end Mundo

def SqlBot.fatos (estado : Option CadastroEstado) (db : Db) : SqlBot → List Fato
  | .selectLogin chatId senha =>
    if (SqlBot.sem (.selectLogin chatId senha) db).1.isSome then [.senhaPessoal] else []
  | .updateSenha .. => [.senhaDefinida estado]
  | _ => []

/-- The call takes effect; only statements are refused here. -/
def Ato.sem : (o : Ato) → Mundo → Except String o.Res × Mundo
  | .get c, m => (.ok (m.conversas c).sessao, m)
  | .set c r, m => (.ok (), m.conversa c (·.guarda r))
  | .delete c saida, m => (.ok (), m.conversa c (·.apaga saida))
  | .novo c inicio, m => (.ok (m.conversas c).proximo, m.conversa c (·.cria inicio))
  | .ler c r, m => (.ok ((m.conversas c).objetos r), m)
  | .atribuir c r campos, m => (.ok (), m.conversa c (·.atribui r campos))
  | .dateNow, m => (.ok m.db.agora, m)
  | .botao c data, m => (.ok (), m.conversa c (·.anota [.botao data]))
  | .chama c r setor, m => (.ok (), m.conversa c (·.anota [.chamou r setor]))
  | .sendMessage .., m => (.ok m.sorte.numero, m.seguinte)
  | .answerCallbackQuery _, m => (.ok (), m)
  | .deleteMessage .., m => (.ok (), m)
  | .getChatMember _, m => (.ok (m.sorte.numero ≠ 0), m.seguinte)
  | .getFile _, m => (.ok ⟨m.sorte.numero, m.sorte.texto.length⟩, m.seguinte)
  | .screenshot _, m => (.ok (), m)
  | .sendPhoto _, m => (.ok (), m)
  | .geocode _, m => (.ok (m.sorte.numero ≠ 0), m.seguinte)
  | .distancematrix .., m =>
    (.ok (if m.sorte.numero = 0 then none else some m.sorte.texto), m.seguinte)
  | .setTimeout _, m => (.ok (), m)
  | .compare c setor texto hash, m =>
    let aceita := m.bcrypt texto hash
    let certa : Bool := aceita ∧ m.db.setores setor = some hash
    (.ok aceita, m.conversa c (·.anota (if certa then [.senhaSetor setor] else [])))
  | .query c q, m =>
    match q.recusa with
    | some erro => (.error erro, m)
    | none =>
      let estado := (m.conversas c).atual.bind (·.cadastroEstado)
      (.ok (q.sem m.db).1,
        { m.conversa c (·.anota (q.fatos estado m.db)) with db := (q.sem m.db).2 })
  | .getConnection, m => (.ok (), m)
  | .beginTransaction, m => (.ok (), m)
  | .call c chamada, m => (.ok (), m.conversa c (·.anota [.registrou chamada]))
  | .selectVendasRecentes numeroCliente limite, m =>
    let vendas := m.db.vendas.rows.filter fun v => some v.2.clienteNumero.toList = numeroCliente
    (.ok ((vendas.reverse.take limite).map (·.1)), m)
  | .updateComprovante c imagem vendaId, m =>
    let comprovante := some (toString imagem.conteudo)
    let vendas := m.db.vendas.modify vendaId fun v => { v with comprovante := comprovante }
    (.ok (), { m.conversa c (·.anota [.comprovou imagem]) with
      db := { m.db with vendas := vendas } })
  | .commitVenda c r, m => (.ok (), m.conversa c (·.anota [.confirmou r]))
  | .rollbackVenda, m => (.ok (), m)

/-- The error of an answer that never came. -/
def semResposta : String := "Query timeout"

def Ato.exec : Exec String Ato.Res Mundo := fun o m =>
  if o.infalivel then o.sem m
  else
    let resto := { m with falhas := m.falhas.tail }
    match m.falhas.headD .nenhuma with
    | .nenhuma => o.sem resto
    | .rejeitada erro => (.error erro, resto)
    | .perdida => (.error semResposta, (o.sem resto).2)

abbrev Fluxo := Prog String Ato.Res

abbrev faz (o : Ato) : Fluxo o.Res := ask o

abbrev consulta (c : Chat) (q : SqlBot) : Fluxo q.Res := ask (Ato.query c q)

/-- `get(c) || { … }`. -/
def obter (c : Chat) (inicio : Inicio) : Fluxo Nat := do
  match ← faz (.get c) with
  | some r => pure r
  | none => faz (.novo c inicio)

def indefinida : String := "Cannot read properties of undefined"

/-- What reaches the handlers of the sector: the trimmed text, the data of a button and
the text of a message. -/
structure Entrada where
  texto : Texto
  data : Option Texto := none
  text : Option Texto := none
  deriving DecidableEq, Repr

def Entrada.pede (e : Entrada) (comando : String) : Bool :=
  e.texto = comando.toList || e.data = some comando.toList

def ou (valor : Option String) (padrao : String) : String :=
  match valor with
  | some t => if t = "" then padrao else t
  | none => padrao

def nomeOuUsuario (nome : Option String) : String := ou nome "Usuário"

def IdSql.texto : IdSql → String
  | nulo => "null"
  | nan => "NaN"
  | num n => toString n

end IceClube
