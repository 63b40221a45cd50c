import IceClube.Ajustes
import IceClube.Almoxarifado
import IceClube.Chatbot
import IceClube.Desligamento
import IceClube.Growth
import IceClube.ValorRecebido

/-! What ties an order to its sale and a delivery to its order, and what the statements of the
web server and of the bot leave of it: rows are inserted and changed, never deleted, and the
columns that tie them are written once. -/
namespace IceClube

open Coop Prog

def StatusEntrega.fechada : StatusEntrega → Bool
  | finalizado | falha => true
  | _ => false

structure Pedido.Ligado (p p' : Pedido) : Prop where
  clienteNumero : p'.clienteNumero = p.clienteNumero
  vendaId : p'.vendaId = p.vendaId
  data : p'.data = p.data

structure Venda.Ligada (v v' : Venda) : Prop where
  clienteNumero : v'.clienteNumero = v.clienteNumero

structure Entrega.Ligada (e e' : Entrega) : Prop where
  pedidoId : e'.pedidoId = e.pedidoId
  clienteNumero : e'.clienteNumero = e.clienteNumero
  entregadorId : e'.entregadorId = e.entregadorId
  rota : e'.rota = e.rota
  dataPedido : e'.dataPedido = e.dataPedido

structure Pedido.Mantem (p p' : Pedido) : Prop extends Pedido.Ligado p p' where
  recebido : p.recebido = true → p'.recebido = true

structure Venda.Mantem (v v' : Venda) : Prop extends Venda.Ligada v v' where
  recebido : v.recebido = true → v'.recebido = true

structure Entrega.Mantem (e e' : Entrega) : Prop extends Entrega.Ligada e e' where
  recebido : e.recebido = true → e'.recebido = true
  fechada : e.status.fechada = true → e'.status.fechada = true

section Linhas

variable {p q r : Pedido} {u v w : Venda} {d e f : Entrega}

theorem Pedido.Ligado.refl (p : Pedido) : p.Ligado p := ⟨rfl, rfl, rfl⟩

theorem Venda.Ligada.refl (v : Venda) : v.Ligada v := ⟨rfl⟩

theorem Entrega.Ligada.refl (e : Entrega) : e.Ligada e := ⟨rfl, rfl, rfl, rfl, rfl⟩

theorem Pedido.Mantem.refl (p : Pedido) : p.Mantem p := ⟨.refl p, id⟩

theorem Venda.Mantem.refl (v : Venda) : v.Mantem v := ⟨.refl v, id⟩

theorem Entrega.Mantem.refl (e : Entrega) : e.Mantem e := ⟨.refl e, id, id⟩

theorem Pedido.Ligado.trans (first : p.Ligado q) (second : q.Ligado r) : p.Ligado r :=
  ⟨second.clienteNumero.trans first.clienteNumero, second.vendaId.trans first.vendaId,
    second.data.trans first.data⟩

theorem Venda.Ligada.trans (first : u.Ligada v) (second : v.Ligada w) : u.Ligada w :=
  ⟨second.clienteNumero.trans first.clienteNumero⟩

theorem Entrega.Ligada.trans (first : d.Ligada e) (second : e.Ligada f) : d.Ligada f where
  pedidoId := second.pedidoId.trans first.pedidoId
  clienteNumero := second.clienteNumero.trans first.clienteNumero
  entregadorId := second.entregadorId.trans first.entregadorId
  rota := second.rota.trans first.rota
  dataPedido := second.dataPedido.trans first.dataPedido

theorem Pedido.Mantem.trans (first : p.Mantem q) (second : q.Mantem r) : p.Mantem r :=
  ⟨first.toLigado.trans second.toLigado, fun received => second.recebido (first.recebido received)⟩

theorem Venda.Mantem.trans (first : u.Mantem v) (second : v.Mantem w) : u.Mantem w :=
  ⟨first.toLigada.trans second.toLigada, fun received => second.recebido (first.recebido received)⟩

theorem Entrega.Mantem.trans (first : d.Mantem e) (second : e.Mantem f) : d.Mantem f where
  toLigada := first.toLigada.trans second.toLigada
  recebido received := second.recebido (first.recebido received)
  fechada closed := second.fechada (first.fechada closed)

end Linhas

/-- The database later on: no order, sale or delivery is gone or tied to something else. -/
structure Db.Liga (db db' : Db) : Prop where
  pedidos : Table.Grows Pedido.Ligado db.pedidosDiarios db'.pedidosDiarios
  vendas : Table.Grows Venda.Ligada db.vendas db'.vendas
  entregas : Table.Grows Entrega.Ligada db.entregas db'.entregas

structure Db.MesmosVinculos (db db' : Db) : Prop where
  pedidos : Table.Evolves Pedido.Ligado db.pedidosDiarios db'.pedidosDiarios
  vendas : Table.Evolves Venda.Ligada db.vendas db'.vendas
  entregas : Table.Evolves Entrega.Ligada db.entregas db'.entregas

structure Db.Mantem (db db' : Db) : Prop where
  pedidos : Table.Grows Pedido.Mantem db.pedidosDiarios db'.pedidosDiarios
  vendas : Table.Grows Venda.Mantem db.vendas db'.vendas
  entregas : Table.Grows Entrega.Mantem db.entregas db'.entregas

structure Db.Altera (db db' : Db) : Prop where
  pedidos : Table.Evolves Pedido.Mantem db.pedidosDiarios db'.pedidosDiarios
  vendas : Table.Evolves Venda.Mantem db.vendas db'.vendas
  entregas : Table.Evolves Entrega.Mantem db.entregas db'.entregas

/-- Every sale belongs to at most one order. An order with a sale and a delivery name rows that
exist and repeat their client; a delivery also repeats the day. -/
structure Db.Coerente (db : Db) : Prop where
  venda : ∀ id p vendaId, db.pedidosDiarios.get id = some p → p.vendaId = some vendaId →
    ∃ v, db.vendas.get vendaId = some v ∧ v.clienteNumero = p.clienteNumero
  unica : ∀ id id' p p' vendaId, db.pedidosDiarios.get id = some p →
    db.pedidosDiarios.get id' = some p' → p.vendaId = some vendaId → p'.vendaId = some vendaId →
    id = id'
  entrega : ∀ id e, db.entregas.get id = some e → ∃ p, db.pedidosDiarios.get e.pedidoId = some p ∧
    p.clienteNumero = e.clienteNumero ∧ p.data = e.dataPedido

namespace Db

variable {db db' db'' : Db}

theorem mantem_refl (db : Db) : db.Mantem db :=
  ⟨Table.grows_refl Pedido.Mantem.refl _, Table.grows_refl Venda.Mantem.refl _,
    Table.grows_refl Entrega.Mantem.refl _⟩

theorem Mantem.trans (first : db.Mantem db') (second : db'.Mantem db'') : db.Mantem db'' where
  pedidos := first.pedidos.trans (fun _ _ _ => Pedido.Mantem.trans) second.pedidos
  vendas := first.vendas.trans (fun _ _ _ => Venda.Mantem.trans) second.vendas
  entregas := first.entregas.trans (fun _ _ _ => Entrega.Mantem.trans) second.entregas

theorem liga_refl (db : Db) : db.Liga db :=
  ⟨Table.grows_refl Pedido.Ligado.refl _, Table.grows_refl Venda.Ligada.refl _,
    Table.grows_refl Entrega.Ligada.refl _⟩

theorem Liga.trans (first : db.Liga db') (second : db'.Liga db'') : db.Liga db'' where
  pedidos := first.pedidos.trans (fun _ _ _ => Pedido.Ligado.trans) second.pedidos
  vendas := first.vendas.trans (fun _ _ _ => Venda.Ligada.trans) second.vendas
  entregas := first.entregas.trans (fun _ _ _ => Entrega.Ligada.trans) second.entregas

theorem Mantem.liga (mantem : db.Mantem db') : db.Liga db' :=
  ⟨mantem.pedidos.mono fun _ _ => (·.toLigado), mantem.vendas.mono fun _ _ => (·.toLigada),
    mantem.entregas.mono fun _ _ => (·.toLigada)⟩

theorem MesmosVinculos.liga (mesmos : db.MesmosVinculos db') : db.Liga db' :=
  ⟨mesmos.pedidos.grows, mesmos.vendas.grows, mesmos.entregas.grows⟩

theorem Altera.mantem (altera : db.Altera db') : db.Mantem db' :=
  ⟨altera.pedidos.grows, altera.vendas.grows, altera.entregas.grows⟩

theorem Altera.mesmosVinculos (altera : db.Altera db') : db.MesmosVinculos db' :=
  ⟨altera.pedidos.mono fun _ _ => (·.toLigado), altera.vendas.mono fun _ _ => (·.toLigada),
    altera.entregas.mono fun _ _ => (·.toLigada)⟩

theorem MesmosVinculos.coerente (altera : db.MesmosVinculos db') (coerente : db.Coerente) :
    db'.Coerente := by
  constructor
  case venda =>
    intro id p' vendaId found sold
    obtain ⟨p, before, kept⟩ := altera.pedidos.back found
    rw [kept.vendaId] at sold
    obtain ⟨v, sale, client⟩ := coerente.venda id p vendaId before sold
    obtain ⟨v', sale', changed⟩ := altera.vendas.grows vendaId v sale
    exact ⟨v', sale', by rw [changed.clienteNumero, client, kept.clienteNumero]⟩
  case unica =>
    intro id id' p' q' vendaId found found' sold sold'
    obtain ⟨p, before, kept⟩ := altera.pedidos.back found
    obtain ⟨q, before', kept'⟩ := altera.pedidos.back found'
    rw [kept.vendaId] at sold
    rw [kept'.vendaId] at sold'
    exact coerente.unica id id' p q vendaId before before' sold sold'
  case entrega =>
    intro id e' found
    obtain ⟨e, before, kept⟩ := altera.entregas.back found
    obtain ⟨p, order, client, day⟩ := coerente.entrega id e before
    obtain ⟨p', order', changed⟩ := altera.pedidos.grows e.pedidoId p order
    rw [kept.pedidoId, kept.clienteNumero, kept.dataPedido]
    exact ⟨p', order', changed.clienteNumero.trans client, changed.data.trans day⟩

def Segue (db db' : Db) : Prop := db.Mantem db' ∧ (db.Coerente → db'.Coerente)

theorem Altera.segue (altera : db.Altera db') : db.Segue db' :=
  ⟨altera.mantem, altera.mesmosVinculos.coerente⟩

theorem altera_igual (pedidos : db'.pedidosDiarios = db.pedidosDiarios)
    (vendas : db'.vendas = db.vendas) (entregas : db'.entregas = db.entregas) : db.Altera db' :=
  ⟨pedidos ▸ Table.evolves_refl Pedido.Mantem.refl _, vendas ▸ Table.evolves_refl Venda.Mantem.refl _,
    entregas ▸ Table.evolves_refl Entrega.Mantem.refl _⟩

theorem segue_igual (pedidos : db'.pedidosDiarios = db.pedidosDiarios)
    (vendas : db'.vendas = db.vendas) (entregas : db'.entregas = db.entregas) : db.Segue db' :=
  (altera_igual pedidos vendas entregas).segue

theorem altera_pedidos {t : Table Pedido} (evolves : db.pedidosDiarios.Evolves Pedido.Mantem t) :
    db.Altera { db with pedidosDiarios := t } :=
  ⟨evolves, Table.evolves_refl Venda.Mantem.refl _, Table.evolves_refl Entrega.Mantem.refl _⟩

theorem altera_vendas {t : Table Venda} (evolves : db.vendas.Evolves Venda.Mantem t) :
    db.Altera { db with vendas := t } :=
  ⟨Table.evolves_refl Pedido.Mantem.refl _, evolves, Table.evolves_refl Entrega.Mantem.refl _⟩

theorem segue_modificaVenda {f : Venda → Venda} (id : Nat) (db : Db)
    (kept : ∀ v : Venda, v.Mantem (f v)) :
    db.Segue { db with vendas := db.vendas.modify id f } :=
  (altera_vendas (Table.evolves_modify Venda.Mantem.refl kept)).segue

theorem altera_entregas {t : Table Entrega} (evolves : db.entregas.Evolves Entrega.Mantem t) :
    db.Altera { db with entregas := t } :=
  ⟨Table.evolves_refl Pedido.Mantem.refl _, Table.evolves_refl Venda.Mantem.refl _, evolves⟩

theorem altera_setStatus (status : Status) (id : Nat) (db : Db) :
    db.Altera (db.setStatus status id) :=
  altera_pedidos (Table.evolves_modify Pedido.Mantem.refl fun _ => ⟨.mk rfl rfl rfl, fun h => h⟩)

theorem altera_setValido (valido : Option Int) (status : Status) (id : Nat) (db : Db) :
    db.Altera (db.setValido valido status id) :=
  altera_pedidos (Table.evolves_modify Pedido.Mantem.refl fun _ => ⟨.mk rfl rfl rfl, fun h => h⟩)

section Bot

variable {e : Entrega → Entrega} {p : Pedido → Pedido} (id : IdSql) (usuarioId : Option Nat)

theorem altera_alterarEntrega (kept : ∀ x : Entrega, x.Mantem (e x)) (db : Db) :
    db.Altera (db.alterarEntrega id e) := by
  rw [alterarEntrega]
  cases id.linha with
  | none => exact altera_igual rfl rfl rfl
  | some n => exact altera_entregas (Table.evolves_modify Entrega.Mantem.refl kept)

theorem altera_alterarPedidoDaEntrega (kept : ∀ x : Pedido, x.Mantem (p x)) (db : Db) :
    db.Altera (db.alterarPedidoDaEntrega id p) := by
  rw [alterarPedidoDaEntrega]
  cases db.pedidoDaEntrega id with
  | none => exact altera_igual rfl rfl rfl
  | some n => exact altera_pedidos (Table.evolves_modify Pedido.Mantem.refl kept)

theorem altera_receberVenda (db : Db) :
    db.Altera (db.alterarVendaDaEntrega id fun v => { v with recebido := true }) := by
  rw [alterarVendaDaEntrega]
  cases db.vendaDaEntrega id with
  | none => exact altera_igual rfl rfl rfl
  | some n =>
    exact altera_vendas (Table.evolves_modify Venda.Mantem.refl fun _ => ⟨.mk rfl, fun _ => rfl⟩)

theorem altera_alterarEntregasDe (kept : ∀ x : Entrega, x.Mantem (e x)) (db : Db) :
    db.Altera (db.alterarEntregasDe usuarioId e) :=
  altera_entregas (Table.evolves_alter fun _ x => by
    split
    · exact kept x
    · exact .refl x)

theorem altera_alterarPedidosDe (status : StatusEntrega) (kept : ∀ x : Pedido, x.Mantem (p x))
    (db : Db) : db.Altera (db.alterarPedidosDe status usuarioId p) :=
  altera_pedidos (Table.evolves_alter fun _ x => by
    split
    · exact kept x
    · exact .refl x)

end Bot

section Novos

theorem segue_novaEntrega {entrega : Entrega} {pedido : Pedido}
    (order : db.pedidosDiarios.get entrega.pedidoId = some pedido)
    (client : pedido.clienteNumero = entrega.clienteNumero)
    (day : pedido.data = entrega.dataPedido) : db.Segue (db.novaEntrega entrega) := by
  constructor
  · exact ⟨Table.grows_refl Pedido.Mantem.refl _, Table.grows_refl Venda.Mantem.refl _,
      Table.grows_insert Entrega.Mantem.refl _ _⟩
  · intro coerente
    refine ⟨coerente.venda, coerente.unica, fun id e found => ?_⟩
    rcases Table.get_insert_eq_some.mp found with ⟨-, rfl⟩ | old
    · exact ⟨pedido, order, client, day⟩
    · exact coerente.entrega id e old

theorem segue_comPedido (corpo : CorpoPedido) (total : ℚ) (db : Db) :
    db.Segue (db.comPedido corpo total) := by
  have orders := pedidos_comPedido corpo total db
  have sales := vendas_comPedido corpo total db
  have deliveries := entregas_comPedido corpo total db
  constructor
  · exact ⟨orders ▸ Table.grows_insert Pedido.Mantem.refl _ _,
      sales ▸ Table.grows_insert Venda.Mantem.refl _ _,
      deliveries ▸ Table.grows_refl Entrega.Mantem.refl _⟩
  · intro coerente
    -- an older order names an older sale, so it cannot name the new one
    have older : ∀ id p, db.pedidosDiarios.get id = some p → p.vendaId ≠ some db.vendas.next := by
      intro id p found sold
      obtain ⟨v, sale, -⟩ := coerente.venda id p _ found sold
      exact absurd (Table.lt_next sale) (Nat.lt_irrefl _)
    constructor
    case venda =>
      intro id p vendaId found sold
      rw [sales]
      rcases Table.get_insert_eq_some.mp (orders ▸ found) with ⟨-, rfl⟩ | old
      · cases sold
        exact ⟨_, Table.get_insert_eq_some.mpr (.inl ⟨rfl, rfl⟩), rfl⟩
      · obtain ⟨v, sale, client⟩ := coerente.venda id p vendaId old sold
        exact ⟨v, Table.get_insert_of_get _ sale, client⟩
    case unica =>
      intro id id' p p' vendaId found found' sold sold'
      rcases Table.get_insert_eq_some.mp (orders ▸ found) with ⟨new, rfl⟩ | old <;>
        rcases Table.get_insert_eq_some.mp (orders ▸ found') with ⟨new', rfl⟩ | old'
      · exact new.trans new'.symm
      · cases sold
        exact absurd sold' (older id' p' old')
      · cases sold'
        exact absurd sold (older id p old)
      · exact coerente.unica id id' p p' vendaId old old' sold sold'
    case entrega =>
      intro id e found
      rw [deliveries] at found
      obtain ⟨p, order, same⟩ := coerente.entrega id e found
      exact ⟨p, orders ▸ Table.get_insert_of_get _ order, same⟩

end Novos
end Db

section Comandos

open Db

theorem vendas_comLancamento (corpo : CorpoLancamento) (db : Db) :
    (db.comLancamento corpo).vendas = db.vendas := by
  rw [Db.comLancamento]
  cases naoZero corpo.pedidoId with
  | none => rfl
  | some pedidoId =>
    exact foldl_frame (f := Db.comRetorno corpo.dataLancamento pedidoId) Db.vendas
      (fun _ _ => rfl) _ _

theorem altera_comLancamento (corpo : CorpoLancamento) (db : Db) :
    db.Altera (db.comLancamento corpo) := by
  have orders := pedidos_comLancamento corpo db
  refine ⟨?_, vendas_comLancamento corpo db ▸ Table.evolves_refl Venda.Mantem.refl _,
    entregas_comLancamento corpo db ▸ Table.evolves_refl Entrega.Mantem.refl _⟩
  rw [orders]
  cases naoZero corpo.pedidoId with
  | none => exact Table.evolves_refl Pedido.Mantem.refl _
  | some pedidoId =>
    exact Table.evolves_modify Pedido.Mantem.refl fun _ => ⟨.mk rfl rfl rfl, fun h => h⟩

theorem altera_desfeito (db depois : Db) : db.Altera (db.desfeito depois) :=
  ⟨Table.evolves_refl Pedido.Mantem.refl db.pedidosDiarios,
    Table.evolves_refl Venda.Mantem.refl db.vendas, Table.evolves_refl Entrega.Mantem.refl _⟩

theorem Tx.segue (t : Tx) (w : Faulty Db) : w.state.Segue (t.executar w).2.state := by
  by_cases commits : t.Confirma w
  · have written := (Tx.executar_confirma commits).2
    cases t with
    | valido corpo => exact written ▸ (altera_setValido _ _ _ _).segue
    | lancamento corpo => exact written ▸ (altera_comLancamento _ _).segue
    | pedidoManual corpo =>
      obtain ⟨total, written⟩ := written
      exact written ▸ segue_comPedido corpo total w.state
  · obtain ⟨depois, same⟩ := (Tx.executar_recusa commits).2
    rw [same]
    exact (altera_desfeito w.state depois).segue

theorem SqlBot.altera (q : SqlBot) (db : Db) : db.Altera (q.sem db).2 := by
  cases q with
  | updateEndereco id endereco =>
    refine altera_alterarEntrega id (fun e => ?_) db
    exact ⟨.mk rfl rfl rfl rfl rfl, fun h => h, fun h => h⟩
  | receberEntrega id | receber dateTime id =>
    refine altera_alterarEntrega id (fun e => ?_) db
    exact ⟨.mk rfl rfl rfl rfl rfl, fun _ => rfl, fun _ => rfl⟩
  | falharEntrega justificativa id | justificar dateTime justificativa id =>
    refine altera_alterarEntrega id (fun e => ?_) db
    exact ⟨.mk rfl rfl rfl rfl rfl, fun h => h, fun _ => rfl⟩
  | iniciarEntregas usuarioId =>
    refine altera_alterarEntregasDe usuarioId (fun e => ?_) db
    exact ⟨.mk rfl rfl rfl rfl rfl, fun h => h, fun h => h⟩
  | finalizarEntregas usuarioId =>
    refine altera_alterarEntregasDe usuarioId (fun e => ?_) db
    exact ⟨.mk rfl rfl rfl rfl rfl, fun h => h, fun _ => rfl⟩
  | pedidosNaRua usuarioId | finalizarPedidos usuarioId =>
    refine altera_alterarPedidosDe usuarioId _ (fun p => ?_) db
    exact ⟨.mk rfl rfl rfl, fun h => h⟩
  | receberPedido id =>
    refine altera_alterarPedidoDaEntrega id (fun p => ?_) db
    exact ⟨.mk rfl rfl rfl, fun _ => rfl⟩
  | falharPedido id =>
    refine altera_alterarPedidoDaEntrega id (fun p => ?_) db
    exact ⟨.mk rfl rfl rfl, fun h => h⟩
  | receberVenda id => exact altera_receberVenda id db
  | _ => exact altera_igual rfl rfl rfl

end Comandos
end IceClube
