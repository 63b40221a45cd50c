import IceClube.Table
import IceClube.Texto

/-! The MySQL database shared by the web server and the Telegram bot: the columns that
the modelled statements read or write. Amounts and quantities are exact rationals. -/
namespace IceClube

/-- `pedidos_diarios.status`. -/
inductive Status where
  | novo | embalado | entrega | rua | finalizado | falha | incorreto | devolvido
  deriving DecidableEq, Repr

/-- `entregas.status`; `zero` is the text '0' of the courier's queries. -/
inductive StatusEntrega where
  | zero | rua | finalizado | falha
  | outro (texto : String)
  deriving DecidableEq, Repr

structure Estoque where
  nome : String
  quantidade : ℚ
  medida : String
  valorUnitario : ℚ
  deriving DecidableEq, Repr

/-- A row of `pedidos_diarios`; `data` is a day number and `valido` may be NULL. -/
structure Pedido where
  clienteNumero : String
  status : Status
  valido : Option Int := none
  vendaId : Option Nat := none
  recebido : Bool := false
  data : Nat := 0
  deriving DecidableEq, Repr

structure PedidoItem where
  pedidoId : Nat
  produtoId : Nat
  quantidade : ℚ
  deriving DecidableEq, Repr

structure Venda where
  clienteNumero : String
  formaPagamento : String
  comprovante : Option String := none
  valorTotal : ℚ
  valorPago : Option ℚ := none
  valorDinheiro : Option ℚ := none
  recebido : Bool := false
  deriving DecidableEq, Repr

structure Entrega where
  pedidoId : Nat
  clienteNumero : String
  recebido : Bool := false
  rota : Option Nat := none
  entregadorId : Option Nat := none
  dataPedido : Nat := 0
  status : StatusEntrega
  observacoes : Option String := none
  endereco : Option String := none
  horaInicio : Option Nat := none
  dataSaida : Option Nat := none
  dataEntrega : Option Nat := none
  horaFim : Option Nat := none
  deriving DecidableEq, Repr

structure Lancamento where
  descricao : String
  categoria : Option String
  dataLancamento : String
  tipo : Option String
  pedidoId : Option Nat := none
  valor : Option ℚ := none
  deriving DecidableEq, Repr

/-- A row of `log_alteracoes` for `pedidos_diarios`. -/
structure LogAlteracao where
  registroId : Nat
  detalhes : String
  deriving DecidableEq, Repr

/-- `usuarios.cargo`, told apart as `toLowerCase` does. -/
inductive Cargo where
  | vendedor | entregador
  | outro (texto : String)
  deriving DecidableEq, Repr

inductive Setor where
  | vendas | entrega
  deriving DecidableEq, Repr

/-- A row of `usuarios`; `senha` is the stored SHA2 digest. -/
structure Usuario where
  chatId : Nat
  nome : Option String := none
  numero : Option String := none
  senha : Option String := none
  cargo : Option Cargo := none
  deriving DecidableEq, Repr

/-- A row of the table `entregador`, one for each route a courier opened. -/
structure Entregador where
  entregador : String
  quantidadePedidos : Nat
  horaInicio : Nat
  horaFim : Option Nat := none
  entregadorId : Nat
  deriving DecidableEq, Repr

structure RotaSalva where
  entregadorId : Nat
  pontoInicial : String
  rota : List (Nat × String)
  ultimaAtualizacao : Nat
  horaFim : Option Nat := none
  deriving DecidableEq, Repr

/-- The row of `laranja` in use. -/
structure Laranja where
  pix : Option String
  qrcode : Option String
  deriving DecidableEq, Repr

/-- A row of `categorias_estoque` with the products that are in it. -/
structure Categoria where
  nome : String
  produtos : List Nat
  deriving DecidableEq, Repr

/-- The type of the amounts of `vendas`; the schema is not in the repository. -/
inductive ColunaDeValor where
  | decimal
  | double
  deriving DecidableEq, Repr

/-- An amount as the driver gives it: a DECIMAL(10, 2) as the text with two decimals, a DOUBLE as
the number. -/
inductive Quantia where
  | decimal (centavos : Int)
  | double (numero : ℚ)
  deriving DecidableEq, Repr

namespace Quantia

def valor : Quantia → ℚ
  | decimal centavos => centavos / 100
  | double numero => numero

/-- Every text with a digit is truthy, '0.00' too. -/
def verdadeira : Quantia → Bool
  | decimal _ => true
  | double numero => numero ≠ 0

def texto : Quantia → String
  | decimal centavos => toFixed2 (centavos / 100)
  | double numero => textoNumero numero

end Quantia

/-- An amount in hundredths, half of one away from zero. -/
def emCentavos (q : ℚ) : Int :=
  if q < 0 then -⌊-q * 100 + 1 / 2⌋ else ⌊q * 100 + 1 / 2⌋

def ColunaDeValor.quantia : ColunaDeValor → ℚ → Quantia
  | decimal, q => .decimal (emCentavos q)
  | double, q => .double q

structure Db where
  estoque : Table Estoque := .empty
  pedidosDiarios : Table Pedido := .empty
  pedidoItens : List PedidoItem := []
  vendas : Table Venda := .empty
  entregas : Table Entrega := .empty
  lancamentos : Table Lancamento := .empty
  logAlteracoes : List LogAlteracao := []
  usuarios : Table Usuario := .empty
  setores : Setor → Option String := fun _ => none
  entregador : Table Entregador := .empty
  rotasSalvas : Table RotaSalva := .empty
  laranja : Option Laranja := none
  categorias : List Categoria := []
  /-- The two products of each promotion of the kind 'combo'. -/
  combos : List (Nat × Nat) := []
  /-- The promotional price of the combo of the products 6 and 7. -/
  promocaoCombo : Option ℚ := none
  /-- What `calcular_preco_promocional` answers; the procedure is not in the repository. -/
  precoPromocional : Nat → ℚ → Option ℚ := fun _ _ => none
  /-- `LOWER(nome) = ?` of `estoque`, under the collation of the column. -/
  chamaSe : String → Texto → Bool := fun nome texto => Texto.toLowerCase nome.toList = texto
  colunaDeValor : ColunaDeValor := .double
  /-- `SHA2(texto, 256)`. -/
  sha2 : List Char → String := String.ofList
  /-- The column default of `entregas.status`; the schema is not in the repository. -/
  statusPadrao : StatusEntrega := .zero
  /-- `NOW()`, in milliseconds. -/
  agora : Nat := 0

def dia (instante : Nat) : Nat := instante / 86400000

/-- `CURDATE()`. -/
def Db.hoje (db : Db) : Nat := dia db.agora

end IceClube
