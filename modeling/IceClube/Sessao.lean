import IceClube.Db
import IceClube.Texto

/-! The session object that the bot keeps for each chat, and the assignments its handlers
make to it. A property that was never assigned is `none`, like one assigned null, except
`valor_dinheiro`, where the code tells the two apart. -/
namespace IceClube

inductive Etapa where
  | menu | submenuPedidos | submenuOrganizarRota | aguardandoPontoInicial | falhaJustificativa
  | detalhesPedido | selecionarPedido | escolherAcaoEndereco | editarEnderecoTexto
  | coletandoPedidos | justificativaFalha
  | criarVenda | adicionarItens | metodoPagamento | comprovante | valorDinheiro | numeroCliente
  | info
  deriving DecidableEq, Repr

inductive Submenu where
  | pedidos | organizarRota
  deriving DecidableEq, Repr

inductive CadastroEstado where
  | aguardandoNumero | aguardandoSenha
  deriving DecidableEq, Repr

inductive Metodo where
  | pix | dinheiro | dinheiroPix
  deriving DecidableEq, Repr

structure Imagem where
  conteudo : Nat
  bytes : Nat
  deriving DecidableEq, Repr

inductive Comprovante where
  | semComprovante
  | imagem (imagem : Imagem)
  deriving DecidableEq, Repr

/-- `id` is `none` for the combo. -/
structure ItemCarrinho where
  id : Option Nat
  nome : Texto
  quantidade : Texto
  valorUnitario : ℚ
  valorTotal : ℚ
  deriving DecidableEq, Repr

def ItemCarrinho.isCombo (item : ItemCarrinho) : Bool := item.id.isNone

structure Parada where
  pedidoId : Nat
  address : String
  deriving DecidableEq, Repr

structure Sessao where
  setor : Option Setor := none
  data : Option Nat := none
  autenticado : Bool := false
  logado : Bool := false
  usuarioId : Option Nat := none
  cargo : Option Cargo := none
  nome : Option String := none
  lastUpdated : Option Nat := none
  messageIds : List Nat := []
  cadastroEstado : Option CadastroEstado := none
  etapa : Option Etapa := none
  submenu : Option Submenu := none
  pedidoId : IdSql := .nulo
  pontoInicial : Option String := none
  rota : List Parada := []
  rotaAtiva : Bool := false
  entregadorRotaId : Option Nat := none
  carrinho : Option (List ItemCarrinho) := none
  metodoPagamento : Option Metodo := none
  comprovantePagamento : Option Comprovante := none
  numeroCliente : Option Texto := none
  valorDinheiro : Option (Option ℚ) := none
  deriving DecidableEq, Repr

structure Inicio where
  data : Option Nat := none
  lastUpdated : Option Nat := none
  etapa : Option Etapa := none
  submenu : Option Submenu := none
  rotaAtiva : Bool := false
  deriving DecidableEq, Repr

def Inicio.sessao (i : Inicio) : Sessao where
  data := i.data
  lastUpdated := i.lastUpdated
  etapa := i.etapa
  submenu := i.submenu
  rotaAtiva := i.rotaAtiva

/-- An assignment `sessao.campo = valor`. -/
inductive Campo where
  | setor (valor : Option Setor)
  | autenticado (valor : Bool)
  | logado (valor : Bool)
  | usuarioId (valor : Option Nat)
  | cargo (valor : Option Cargo)
  | nome (valor : Option String)
  | lastUpdated (valor : Nat)
  | pushMessageId (id : Nat)
  | messageIds (valor : List Nat)
  | cadastroEstado (valor : Option CadastroEstado)
  | etapa (valor : Option Etapa)
  | submenu (valor : Option Submenu)
  | pedidoId (valor : IdSql)
  | pontoInicial (valor : Option String)
  | rota (valor : List Parada)
  | rotaAtiva (valor : Bool)
  | entregadorRotaId (valor : Option Nat)
  | carrinho (valor : List ItemCarrinho)
  | pushItem (item : ItemCarrinho)
  | removeItem (index : Nat)
  | metodoPagamento (valor : Option Metodo)
  | comprovantePagamento (valor : Option Comprovante)
  | numeroCliente (valor : Option Texto)
  | valorDinheiro (valor : Option ℚ)
  deriving DecidableEq, Repr

namespace Sessao

def atribuir (s : Sessao) : Campo → Sessao
  | .setor valor => { s with setor := valor }
  | .autenticado valor => { s with autenticado := valor }
  | .logado valor => { s with logado := valor }
  | .usuarioId valor => { s with usuarioId := valor }
  | .cargo valor => { s with cargo := valor }
  | .nome valor => { s with nome := valor }
  | .lastUpdated valor => { s with lastUpdated := some valor }
  | .pushMessageId id => { s with messageIds := s.messageIds ++ [id] }
  | .messageIds valor => { s with messageIds := valor }
  | .cadastroEstado valor => { s with cadastroEstado := valor }
  | .etapa valor => { s with etapa := valor }
  | .submenu valor => { s with submenu := valor }
  | .pedidoId valor => { s with pedidoId := valor }
  | .pontoInicial valor => { s with pontoInicial := valor }
  | .rota valor => { s with rota := valor }
  | .rotaAtiva valor => { s with rotaAtiva := valor }
  | .entregadorRotaId valor => { s with entregadorRotaId := valor }
  | .carrinho valor => { s with carrinho := some valor }
  | .pushItem item => { s with carrinho := s.carrinho.map (· ++ [item]) }
  | .removeItem index => { s with carrinho := s.carrinho.map (·.eraseIdx index) }
  | .metodoPagamento valor => { s with metodoPagamento := valor }
  | .comprovantePagamento valor => { s with comprovantePagamento := valor }
  | .numeroCliente valor => { s with numeroCliente := valor }
  | .valorDinheiro valor => { s with valorDinheiro := some valor }

def atribuirTodos (s : Sessao) (campos : List Campo) : Sessao := campos.foldl atribuir s

structure Acesso where
  setor : Option Setor
  data : Option Nat
  autenticado : Bool
  logado : Bool
  usuarioId : Option Nat
  deriving DecidableEq, Repr

def acesso (s : Sessao) : Acesso := ⟨s.setor, s.data, s.autenticado, s.logado, s.usuarioId⟩

/-- The session without what `chatbot.js` assigns to it. -/
def trabalho (s : Sessao) : Sessao :=
  { s with
    setor := none, autenticado := false, logado := false, usuarioId := none, cargo := none,
    nome := none, lastUpdated := none, messageIds := [], cadastroEstado := none }

@[simp] theorem atribuirTodos_nil (s : Sessao) : s.atribuirTodos [] = s := rfl

@[simp] theorem atribuirTodos_cons (s : Sessao) (campo : Campo) (campos : List Campo) :
    s.atribuirTodos (campo :: campos) = (s.atribuir campo).atribuirTodos campos := rfl

end Sessao

namespace Campo

/-- The assignment leaves what opens a sector alone. -/
def inocuo : Campo → Bool
  | setor _ | autenticado _ | logado _ | usuarioId _ => false
  | _ => true

/-- The assignment is one of `chatbot.js`. -/
def doChat : Campo → Bool
  | setor _ | autenticado _ | logado _ | usuarioId _ | cargo _ | nome _ | lastUpdated _
  | pushMessageId _ | messageIds _ | cadastroEstado _ => true
  | _ => false

end Campo

/-- A view that each assignment of a kind leaves alone is left alone by a list of them. -/
theorem atribuirTodos_visao {α : Type} {visao : Sessao → α} {tipo : Campo → Bool}
    (um : ∀ s campo, tipo campo = true → visao (s.atribuir campo) = visao s)
    {campos : List Campo} (todos : campos.all tipo = true) (s : Sessao) :
    visao (s.atribuirTodos campos) = visao s := by
  induction campos generalizing s with
  | nil => rfl
  | cons campo campos ih =>
    rw [List.all_cons, Bool.and_eq_true] at todos
    exact (ih todos.2 _).trans (um s campo todos.1)

theorem acesso_atribuirTodos {campos : List Campo} (todos : campos.all Campo.inocuo = true)
    (s : Sessao) : (s.atribuirTodos campos).acesso = s.acesso :=
  atribuirTodos_visao (fun s campo h => by cases campo <;> first | rfl | cases h) todos s

theorem trabalho_atribuirTodos {campos : List Campo} (todos : campos.all Campo.doChat = true)
    (s : Sessao) : (s.atribuirTodos campos).trabalho = s.trabalho :=
  atribuirTodos_visao (fun s campo h => by cases campo <;> first | rfl | cases h) todos s

theorem data_atribuirTodos (campos : List Campo) (s : Sessao) :
    (s.atribuirTodos campos).data = s.data :=
  atribuirTodos_visao (fun s campo _ => by cases campo <;> rfl)
    (show campos.all (fun _ => true) = true by simp) s

end IceClube
