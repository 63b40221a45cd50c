import IceClube.Db

/-! The statements that the Telegram bot sends to the database and what they do. Couriers
are named by `usuario_id`, which is NULL in a session without a user and then matches no
row. -/
namespace IceClube

structure DetalhesEntrega where
  id : Nat
  clienteNumero : String
  endereco : Option String
  status : StatusEntrega
  formaPagamento : String
  valorTotal : Quantia
  valorPago : Option Quantia
  itens : List Nat
  deriving DecidableEq, Repr

structure ValorDaVenda where
  valorTotal : Quantia
  formaPagamento : String
  valorDinheiro : Option Quantia
  deriving DecidableEq, Repr

def Venda.valores (v : Venda) (coluna : ColunaDeValor) : ValorDaVenda :=
  ⟨coluna.quantia v.valorTotal, v.formaPagamento, v.valorDinheiro.map coluna.quantia⟩

inductive SqlBot where
  | startTransaction
  | commit
  | rollback
  -- usuarios e setores
  | selectUsuario (chatId : Nat)
  | insertUsuario (chatId : Nat)
  | updateNumero (chatId : Nat) (numero : String)
  | updateSenha (chatId : Nat) (senha : Texto)
  | selectLogin (chatId : Nat) (senha : Texto)
  | selectSetor (setor : Setor)
  -- entregas
  | selectEntregas (usuarioId : Option Nat)
  | selectAtribuidas (usuarioId : Option Nat)
  | selectValores (usuarioId : Option Nat)
  | selectDetalhes (id : IdSql) (usuarioId : Option Nat)
  | selectDetalhesItens (id : IdSql) (usuarioId : Option Nat)
  | selectEndereco (id : IdSql)
  | updateEndereco (id : IdSql) (endereco : Option String)
  | iniciarEntregas (usuarioId : Option Nat)
  | pedidosNaRua (usuarioId : Option Nat)
  | finalizarEntregas (usuarioId : Option Nat)
  | finalizarPedidos (usuarioId : Option Nat)
  | receberEntrega (id : IdSql)
  | receberPedido (id : IdSql)
  | receberVenda (id : IdSql)
  | falharEntrega (justificativa : String) (id : IdSql)
  | falharPedido (id : IdSql)
  | receber (dateTime : Nat) (id : IdSql)
  | justificar (dateTime : Nat) (justificativa : String) (id : IdSql)
  -- entregador e rotas_salvas
  | selectRotaAberta (usuarioId : Option Nat)
  | selectNome (usuarioId : Option Nat)
  | insertEntregador (nome : String) (quantidade : Nat) (usuarioId : Option Nat)
  | fecharEntregador (id : Nat)
  | encerrarEntregador (id : Option Nat)
  | criarTabela
  | selectRotaSalva (usuarioId : Option Nat)
  | selectNumeroDiario (usuarioId : Option Nat)
  | finalizarRotas (usuarioId : Option Nat)
  | salvarRota (usuarioId : Option Nat) (pontoInicial : String) (rota : List (Nat × String))
  -- vendas
  | selectLaranja
  | selectCategorias
  | selectProdutos (categoria : Categoria)
  | selectPromocoes
  | selectNomeProduto (id : Nat)
  | selectProduto (nome : Texto)
  | selectCombo
  | selectPromocaoCombo
  | calcularPreco (produtoId : Nat) (quantidade : ℚ)

@[reducible] def SqlBot.Res : SqlBot → Type
  | .selectUsuario _ | .selectLogin .. => Option (Nat × Usuario)
  | .insertUsuario _ | .insertEntregador .. => Nat
  | .selectSetor _ | .selectNome _ | .selectNomeProduto _ => Option String
  | .selectEntregas _ | .selectAtribuidas _ => List (Nat × Entrega)
  | .selectValores _ => List (Nat × ValorDaVenda)
  | .selectDetalhes .. | .selectDetalhesItens .. => Option DetalhesEntrega
  | .selectEndereco _ => Option (Option String)
  | .selectRotaAberta _ => Option (Nat × Entregador)
  | .selectRotaSalva _ => Bool
  | .selectNumeroDiario _ => List (Nat × Entrega)
  | .selectLaranja => Option Laranja
  | .selectCategorias => List Categoria
  | .selectProdutos _ => List Estoque
  | .selectPromocoes => List (Nat × Nat)
  | .selectProduto _ => Option (Nat × Estoque)
  | .selectCombo => Option Estoque × Option Estoque
  | .selectPromocaoCombo | .calcularPreco .. => Option ℚ
  | _ => Unit

/-- The row an identifier names. -/
def IdSql.linha : IdSql → Option Nat
  | num n => some n
  | _ => none

def Entrega.de (e : Entrega) (usuarioId : Option Nat) : Bool :=
  usuarioId.isSome && e.entregadorId = usuarioId

namespace Db

def pedidoValido (db : Db) (pedidoId : Nat) : Bool :=
  (db.pedidosDiarios.get pedidoId).any fun p => p.valido = some 1

/-- The courier's deliveries in one of the given states, of approved orders. -/
def entregasDe (db : Db) (status : List StatusEntrega) (usuarioId : Option Nat) :
    List (Nat × Entrega) :=
  db.entregas.rows.filter fun e =>
    db.pedidoValido e.2.pedidoId && status.contains e.2.status && e.2.de usuarioId

def pedidoDaEntrega (db : Db) (id : IdSql) : Option Nat :=
  id.linha.bind fun n => (db.entregas.get n).map (·.pedidoId)

def vendaDaEntrega (db : Db) (id : IdSql) : Option Nat :=
  (db.pedidoDaEntrega id).bind fun n => (db.pedidosDiarios.get n).bind (·.vendaId)

def detalhes (db : Db) (id : IdSql) (usuarioId : Option Nat) : Option DetalhesEntrega := do
  let n ← id.linha
  let e ← (db.entregas.get n).filter (·.de usuarioId)
  let p ← db.pedidosDiarios.get e.pedidoId
  let v ← p.vendaId.bind db.vendas.get
  let itens := (db.pedidoItens.filter (·.pedidoId = e.pedidoId)).map (·.produtoId)
  pure ⟨n, e.clienteNumero, e.endereco, e.status, v.formaPagamento,
    db.colunaDeValor.quantia v.valorTotal, v.valorPago.map db.colunaDeValor.quantia, itens⟩

def alterarEntrega (id : IdSql) (f : Entrega → Entrega) (db : Db) : Db :=
  match id.linha with
  | some n => { db with entregas := db.entregas.modify n f }
  | none => db

/-- `UPDATE pedidos_diarios … WHERE id = (SELECT pedido_id FROM entregas WHERE id = ?)`. -/
def alterarPedidoDaEntrega (id : IdSql) (f : Pedido → Pedido) (db : Db) : Db :=
  match db.pedidoDaEntrega id with
  | some n => { db with pedidosDiarios := db.pedidosDiarios.modify n f }
  | none => db

def alterarVendaDaEntrega (id : IdSql) (f : Venda → Venda) (db : Db) : Db :=
  match db.vendaDaEntrega id with
  | some n => { db with vendas := db.vendas.modify n f }
  | none => db

def alterarEntregasDe (usuarioId : Option Nat) (f : Entrega → Entrega) (db : Db) : Db :=
  { db with entregas :=
      db.entregas.alter fun _ e => if e.de usuarioId ∧ e.status = .rua then f e else e }

/-- The order is named by a delivery of the courier in the given state. -/
def naEntregaDe (db : Db) (status : StatusEntrega) (usuarioId : Option Nat) (pedidoId : Nat) :
    Bool :=
  db.entregas.rows.any fun e =>
    e.2.pedidoId = pedidoId && e.2.de usuarioId && e.2.status = status

def alterarPedidosDe (status : StatusEntrega) (usuarioId : Option Nat) (f : Pedido → Pedido)
    (db : Db) : Db :=
  { db with pedidosDiarios :=
      db.pedidosDiarios.alter fun n p => if db.naEntregaDe status usuarioId n then f p else p }

def alterarUsuario (chatId : Nat) (f : Usuario → Usuario) (db : Db) : Db :=
  { db with usuarios := db.usuarios.alter fun _ u => if u.chatId = chatId then f u else u }

def alterarRotas (f : Nat → Entregador → Entregador) (db : Db) : Db :=
  { db with entregador := db.entregador.alter f }

def novaRotaAberta (nome : String) (quantidade : Nat) (usuarioId : Option Nat) (db : Db) : Db :=
  let rota : Entregador := ⟨nome, quantidade, db.agora, none, usuarioId.getD 0⟩
  { db with entregador := db.entregador.insert rota }

def fecharRotasSalvas (usuarioId : Option Nat) (db : Db) : Db :=
  let aberta (r : RotaSalva) : Bool := usuarioId = some r.entregadorId ∧ r.horaFim = none
  let fechar (r : RotaSalva) : RotaSalva := { r with horaFim := some db.agora }
  { db with rotasSalvas := db.rotasSalvas.alter fun _ r => if aberta r then fechar r else r }

def novaRotaSalva (usuarioId : Option Nat) (pontoInicial : String) (rota : List (Nat × String))
    (db : Db) : Db :=
  let nova : RotaSalva := ⟨usuarioId.getD 0, pontoInicial, rota, db.agora, none⟩
  { db with rotasSalvas := db.rotasSalvas.insert nova }

end Db

/-- `NaN` is no column, one of the statements is not SQL, and `rotas_salvas` wants a courier. -/
def SqlBot.recusa : SqlBot → Option String
  | .selectDetalhes .nan _ | .selectDetalhesItens .nan _ | .selectEndereco .nan
  | .updateEndereco .nan _ | .receberEntrega .nan | .receberPedido .nan | .receberVenda .nan
  | .falharEntrega _ .nan | .falharPedido .nan | .receber _ .nan | .justificar _ _ .nan =>
    some "Unknown column 'NaN' in 'where clause'"
  | .selectNumeroDiario _ => some "You have an error in your SQL syntax"
  | .salvarRota none _ _ => some "Column 'entregador_id' cannot be null"
  | _ => none

def SqlBot.sem : (q : SqlBot) → Db → q.Res × Db
  | .startTransaction, db => ((), db)
  | .commit, db => ((), db)
  -- what the pool's connections make of a block is in `Banco`
  | .rollback, db => ((), db)
  | .selectUsuario chatId, db => (db.usuarios.rows.find? fun u => u.2.chatId = chatId, db)
  | .insertUsuario chatId, db =>
    (db.usuarios.next, { db with usuarios := db.usuarios.insert { chatId := chatId } })
  | .updateNumero chatId numero, db =>
    ((), db.alterarUsuario chatId fun u => { u with numero := some numero })
  | .updateSenha chatId senha, db =>
    ((), db.alterarUsuario chatId fun u => { u with senha := some (db.sha2 senha) })
  | .selectLogin chatId senha, db =>
    (db.usuarios.rows.find? fun u => u.2.chatId = chatId ∧ u.2.senha = some (db.sha2 senha), db)
  | .selectSetor setor, db => (db.setores setor, db)
  | .selectEntregas usuarioId, db => (db.entregasDe [.rua] usuarioId, db)
  | .selectAtribuidas usuarioId, db => (db.entregasDe [.zero, .rua] usuarioId, db)
  | .selectValores usuarioId, db =>
    ((db.entregasDe [.zero, .rua] usuarioId).filterMap fun e => do
      let p ← db.pedidosDiarios.get e.2.pedidoId
      let v ← p.vendaId.bind db.vendas.get
      if v.formaPagamento = "dinheiro" ∨ v.formaPagamento = "pix+dinheiro" then
        pure (e.1, v.valores db.colunaDeValor)
      else none, db)
  | .selectDetalhes id usuarioId, db => (db.detalhes id usuarioId, db)
  | .selectDetalhesItens id usuarioId, db =>
    ((db.detalhes id usuarioId).filter (·.itens ≠ []), db)
  | .selectEndereco id, db =>
    (id.linha.bind fun n => (db.entregas.get n).map (·.endereco), db)
  | .updateEndereco id endereco, db =>
    ((), db.alterarEntrega id fun e => { e with endereco := endereco })
  | .iniciarEntregas usuarioId, db =>
    ((), db.alterarEntregasDe usuarioId fun e =>
      { e with horaInicio := some db.agora, dataSaida := some db.agora })
  | .pedidosNaRua usuarioId, db =>
    ((), db.alterarPedidosDe .rua usuarioId fun p => { p with status := .rua })
  | .finalizarEntregas usuarioId, db =>
    ((), db.alterarEntregasDe usuarioId fun e =>
      { e with horaFim := some db.agora, status := .finalizado })
  | .finalizarPedidos usuarioId, db =>
    ((), db.alterarPedidosDe .finalizado usuarioId fun p => { p with status := .finalizado })
  | .receberEntrega id, db =>
    ((), db.alterarEntrega id fun e =>
      { e with status := .finalizado, dataEntrega := some db.agora, recebido := true })
  | .receberPedido id, db =>
    ((), db.alterarPedidoDaEntrega id fun p => { p with status := .finalizado, recebido := true })
  | .receberVenda id, db => ((), db.alterarVendaDaEntrega id fun v => { v with recebido := true })
  | .falharEntrega justificativa id, db =>
    ((), db.alterarEntrega id fun e =>
      { e with status := .falha, observacoes := some justificativa })
  | .falharPedido id, db =>
    ((), db.alterarPedidoDaEntrega id fun p => { p with status := .falha })
  | .receber dateTime id, db =>
    ((), db.alterarEntrega id fun e =>
      { e with status := .finalizado, horaFim := some dateTime, recebido := true })
  | .justificar dateTime justificativa id, db =>
    ((), db.alterarEntrega id fun e =>
      { e with status := .falha, horaFim := some dateTime, observacoes := some justificativa })
  | .selectRotaAberta usuarioId, db =>
    (db.entregador.rows.find? fun r =>
      usuarioId = some r.2.entregadorId ∧ r.2.horaFim = none, db)
  | .selectNome usuarioId, db => ((usuarioId.bind db.usuarios.get).bind (·.nome), db)
  | .insertEntregador nome quantidade usuarioId, db =>
    (db.entregador.next, db.novaRotaAberta nome quantidade usuarioId)
  | .fecharEntregador id, db =>
    ((), db.alterarRotas fun n r => if n = id then { r with horaFim := some db.agora } else r)
  | .encerrarEntregador id, db =>
    ((), db.alterarRotas fun n r =>
      if id = some n ∧ 0 < r.quantidadePedidos then { r with horaFim := some db.agora } else r)
  | .criarTabela, db => ((), db)
  | .selectRotaSalva usuarioId, db =>
    (db.rotasSalvas.rows.any fun r => usuarioId = some r.2.entregadorId ∧ r.2.horaFim = none, db)
  | .selectNumeroDiario _, db => ([], db)
  | .finalizarRotas usuarioId, db =>
    ((), db.fecharRotasSalvas usuarioId)
  | .salvarRota usuarioId pontoInicial rota, db =>
    ((), db.novaRotaSalva usuarioId pontoInicial rota)
  | .selectLaranja, db => (db.laranja, db)
  | .selectCategorias, db => (db.categorias, db)
  | .selectProdutos categoria, db =>
    ((categoria.produtos.filterMap db.estoque.get).filter (0 < ·.quantidade), db)
  | .selectPromocoes, db => (db.combos, db)
  | .selectNomeProduto id, db => ((db.estoque.get id).map (·.nome), db)
  | .selectProduto nome, db =>
    (db.estoque.rows.find? fun e => db.chamaSe e.2.nome nome, db)
  | .selectCombo, db => ((db.estoque.get 6, db.estoque.get 7), db)
  | .selectPromocaoCombo, db => (db.promocaoCombo, db)
  | .calcularPreco produtoId quantidade, db => (db.precoPromocional produtoId quantidade, db)

end IceClube
