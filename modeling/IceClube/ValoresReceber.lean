import IceClube.Passos
import IceClube.Quantidade

/-! From the payment of a sale to the list 'Valores a Receber' of the courier who delivers it.
A sale enters through the bot, which leaves its row to stored procedures that are not in the
repository, or through `POST /api/pedido_manual`. -/
namespace IceClube

open Coop Prog

/-- `registrar_venda` and the combo's procedure: they receive nothing but their arguments, and
a sale they write carries the payment method they are given. -/
structure Procedimentos where
  registrar : Chamada → Db → Db
  forma : ∀ chamada db id venda metodo, chamada.metodoPagamento = some metodo →
    (registrar chamada db).vendas.get id = some venda →
      db.vendas.get id = some venda ∨ venda.formaPagamento = metodo.texto

/-- What the seller said of the payment; the amount is the one typed as cash. -/
inductive Pagamento where
  | bot (metodo : Option Metodo) (valorDinheiro : Option ℚ)
  | manual (formaPagamento : String)
  deriving DecidableEq, Repr

namespace Pagamento

def incluiDinheiro : Pagamento → Bool
  | bot metodo _ => metodo = some .dinheiro || metodo = some .dinheiroPix
  | manual forma => forma = "dinheiro" || forma = "pix+dinheiro"

def digitado : Pagamento → Option ℚ
  | bot (some .dinheiroPix) valor => valor
  | _ => none

/-- What a statement of the sale's row is given as `forma_pagamento`, if it is given one. -/
def forma : Pagamento → Option String
  | bot metodo _ => metodo.map Metodo.texto
  | manual forma => some forma

end Pagamento

def Sessao.pagamento (s : Sessao) : Pagamento := .bot s.metodoPagamento s.valorDinheiro.join

def Confirma (c : Chat) (r : Nat) (m : Mundo) : Prop :=
  ∃ fatos, (((confirmarPedido c r).run Ato.exec m).2.conversas c).historia =
    fatos ++ (m.conversas c).historia ∧ .confirmou r ∈ fatos

/-- The row `venda` came into the database with a sale paid so. -/
inductive Entrou (P : Procedimentos) : Pagamento → Nat → Venda → Prop
  | bot {m : Mundo} {c : Chat} {r : Nat} {itens : List ItemCarrinho} {novas : List Chamada}
    {db : Db} {id : Nat} {venda : Venda}
    (carrinho : ((m.conversas c).objetos r).carrinho = some itens)
    (confirmada : Confirma c r m)
    (chamadas : (((confirmarPedido c r).run Ato.exec m).2.conversas c).registradas =
      (m.conversas c).registradas ++ novas)
    (nova : db.vendas.get id ≠ some venda)
    (escrita : (novas.foldl (fun db chamada => P.registrar chamada db) db).vendas.get id =
      some venda) :
    Entrou P ((m.conversas c).objetos r).pagamento id venda
  | manual {w : Faulty Db} {corpo : CorpoPedido} {resposta : Resposta} {id : Nat} {venda : Venda}
    (aceito : ((pedidoManual corpo).run Op.exec w).1 = .ok resposta)
    (sucesso : resposta.status = 200)
    (nova : w.state.vendas.get id ≠ some venda)
    (escrita : ((pedidoManual corpo).run Op.exec w).2.state.vendas.get id = some venda) :
    Entrou P (.manual corpo.formaPagamento) id venda

/-- Two rows of the same sale, whose payment columns were left alone. -/
def Venda.MesmoPagamento (v w : Venda) : Prop :=
  v.formaPagamento = w.formaPagamento ∧ v.valorTotal = w.valorTotal ∧
    v.valorDinheiro = w.valorDinheiro

/-- The order of the sale is approved, and an open delivery of it is the courier's. -/
def Db.Atribuida (db : Db) (entregador entregaId vendaId : Nat) (venda : Venda) : Prop :=
  ∃ e p v, db.entregas.get entregaId = some e ∧ (e.status = .zero ∨ e.status = .rua) ∧
    e.entregadorId = some entregador ∧ db.pedidosDiarios.get e.pedidoId = some p ∧
    p.valido = some 1 ∧ p.vendaId = some vendaId ∧ db.vendas.get vendaId = some v ∧
    v.MesmoPagamento venda

/-- The lines of 'Valores a Receber': the deliveries and their amounts. -/
def Db.valoresDe (db : Db) (entregador : Option Nat) : List (Nat × ℚ) :=
  (SqlBot.sem (.selectValores entregador) db).1.map fun v => (v.1, (valorAReceber v.2).valor)

structure Pagamento.Chega (pagamento : Pagamento) (db : Db) (entregador entregaId : Nat) :
    Prop where
  listada : pagamento.incluiDinheiro → ∃ valor, (entregaId, valor) ∈ db.valoresDe (some entregador)
  valor : ∀ valor, pagamento.digitado = some valor →
    (entregaId, valor) ∈ db.valoresDe (some entregador)

section Escrita

variable {P : Procedimentos}

theorem forma_registradas {metodo : Metodo} {id : Nat} {venda : Venda} {novas : List Chamada}
    (paid : ∀ chamada ∈ novas, chamada.metodoPagamento = some metodo) (db : Db)
    (written : (novas.foldl (fun db chamada => P.registrar chamada db) db).vendas.get id =
      some venda) :
    db.vendas.get id = some venda ∨ venda.formaPagamento = metodo.texto := by
  induction novas generalizing db with
  | nil => exact .inl written
  | cons chamada novas ih =>
    have later := ih (fun other member => paid other (List.mem_cons_of_mem _ member)) _ written
    rcases later with old | new
    · exact P.forma chamada db id venda metodo (paid chamada List.mem_cons_self) old
    · exact .inr new

theorem metodo_confirmarPedido {m : Mundo} {c : Chat} {r : Nat} {itens : List ItemCarrinho}
    {novas : List Chamada} (cart : ((m.conversas c).objetos r).carrinho = some itens)
    (calls : (((confirmarPedido c r).run Ato.exec m).2.conversas c).registradas =
      (m.conversas c).registradas ++ novas) :
    ∀ chamada ∈ novas, chamada.metodoPagamento = ((m.conversas c).objetos r).metodoPagamento := by
  intro chamada member
  obtain ⟨novas', calls', first, -⟩ :=
    registradas_confirmarPedido False cart fun false => false.elim
  obtain rfl : novas = novas' := List.append_cancel_left (calls.symm.trans calls')
  obtain ⟨item, -, rfl⟩ := List.mem_map.mp (first.subset member)
  rfl

/-- A manual order writes one sale at most, its own. -/
theorem venda_pedidoManual {w : Faulty Db} {corpo : CorpoPedido} {id : Nat} {venda : Venda}
    (written : ((pedidoManual corpo).run Op.exec w).2.state.vendas.get id = some venda) :
    w.state.vendas.get id = some venda ∨ ∃ total, venda = corpo.venda total := by
  rw [pedidoManual] at written
  split at written
  · exact .inl written
  · rcases run_segue .getConnection (fun _ => do
      dbQuery .beginTransaction
      transacao (.pedidoManual corpo)) w with same | begun
    · rw [same] at written
      exact .inl written
    rw [begun] at written
    let tail : Rota Resposta := dbQuery .beginTransaction >>= fun _ => transacao (.pedidoManual corpo)
    change (tail.run Op.exec ⟨w.state, w.faults.tail⟩).2.state.vendas.get id = _ at written
    rcases run_segue .beginTransaction (fun _ => transacao (.pedidoManual corpo))
      ⟨w.state, w.faults.tail⟩ with same | begun
    · rw [same] at written
      exact .inl written
    rw [begun] at written
    change ((Tx.pedidoManual corpo).executar ⟨w.state, _⟩).2.state.vendas.get id = _ at written
    by_cases commits : (Tx.pedidoManual corpo).Confirma ⟨w.state, w.faults.tail.tail⟩
    · obtain ⟨total, stored⟩ := (Tx.executar_confirma commits).2
      rw [stored, vendas_comPedido, Table.get_insert] at written
      split at written
      · exact .inr ⟨total, (Option.some.inj written).symm⟩
      · exact .inl written
    · obtain ⟨depois, same⟩ := (Tx.executar_recusa commits).2
      rw [same] at written
      exact .inl written

/-- The row carries the method that was given, if one was. -/
theorem forma_entrou {pagamento : Pagamento} {id : Nat} {venda : Venda}
    (entered : Entrou P pagamento id venda) {forma : String}
    (given : pagamento.forma = some forma) : venda.formaPagamento = forma := by
  cases entered with
  | @bot m c r itens novas db _ _ cart _ calls new written =>
    obtain ⟨metodo, paid, rfl⟩ := Option.map_eq_some_iff.mp given
    have registered := metodo_confirmarPedido cart calls
    simp only [paid] at registered
    exact (forma_registradas registered db written).resolve_left new
  | manual _ _ new written =>
    obtain ⟨total, rfl⟩ := (venda_pedidoManual written).resolve_left new
    exact Option.some.inj given

end Escrita

section Lista

variable {db : Db} {entregador entregaId : Nat}

theorem mem_selectValores {valores : ValorDaVenda} :
    (entregaId, valores) ∈ (SqlBot.sem (.selectValores (some entregador)) db).1 ↔
      ∃ e p v, db.entregas.get entregaId = some e ∧ (e.status = .zero ∨ e.status = .rua) ∧
        e.entregadorId = some entregador ∧ db.pedidosDiarios.get e.pedidoId = some p ∧
        p.valido = some 1 ∧ p.vendaId.bind db.vendas.get = some v ∧
        (v.formaPagamento = "dinheiro" ∨ v.formaPagamento = "pix+dinheiro") ∧
        valores = v.valores db.colunaDeValor := by
  simp only [SqlBot.sem, List.mem_filterMap, Db.entregasDe, List.mem_filter, Prod.exists,
    Table.mem_rows]
  constructor
  · rintro ⟨_, e, ⟨found, kept⟩, row⟩
    simp only [Option.bind_eq_bind, Option.bind_eq_some_iff, Option.ite_none_right_eq_some,
      Option.pure_def, Option.some.injEq, Prod.mk.injEq] at row
    obtain ⟨p, order, v, sale, cash, rfl, rfl⟩ := row
    simp only [Db.pedidoValido, order, Option.any_some, Bool.and_eq_true, decide_eq_true_eq,
      List.contains_eq_mem, List.mem_cons, List.not_mem_nil, or_false, Entrega.de,
      Option.isSome_some, true_and] at kept
    exact ⟨e, p, v, found, kept.1.2, kept.2, order, kept.1.1, Option.bind_eq_some_iff.mpr sale,
      cash, rfl⟩
  · rintro ⟨e, p, v, found, status, mine, order, approved, sale, cash, rfl⟩
    refine ⟨entregaId, e, ⟨found, ?_⟩, ?_⟩
    · simp [Db.pedidoValido, order, approved, Entrega.de, mine, status]
    · simp [order, sale, cash]

theorem mem_valoresDe {valor : ℚ} :
    (entregaId, valor) ∈ db.valoresDe (some entregador) ↔
      ∃ valores, (entregaId, valores) ∈ (SqlBot.sem (.selectValores (some entregador)) db).1 ∧
        valor = (valorAReceber valores).valor := by
  simp only [Db.valoresDe, List.mem_map, Prod.exists, Prod.mk.injEq]
  constructor
  · rintro ⟨_, valores, inside, rfl, rfl⟩
    exact ⟨valores, inside, rfl⟩
  · rintro ⟨valores, inside, rfl⟩
    exact ⟨entregaId, valores, inside, rfl, rfl⟩

/-- The courier's request sends the lines of the list. -/
theorem run_valoresReceber {c : Chat} {r : Nat} {m : Mundo} {enviar : String → Fluxo Unit}
    (calm : m.falhas = []) :
    let usuarioId := ((m.conversas c).objetos r).usuarioId
    let vendas := (SqlBot.sem (.selectValores usuarioId) m.db).1
    let mostrar : Fluxo Unit :=
      if vendas = [] then
        enviar "📭 *Nenhuma venda pendente em dinheiro ou pix+dinheiro atribuída a você.*"
      else
        enviar s!"💵 *Valores a Receber (Dinheiro/Pix+Dinheiro):*\n\n{listaDeValores vendas}\n\n"
    (valoresReceber c enviar r).run Ato.exec m =
      (mostrar.handle fun _ => enviar "⚠️ *Erro ao calcular valores a receber.*").run Ato.exec m := by
  intro usuarioId vendas mostrar
  have world : (Ato.exec (.query c (.selectValores usuarioId)) m).2 = m := by
    rw [Ato.exec_calmo _ calm]
    cases m with
    | mk db conversas acaso falhas bcrypt =>
      simp only [Ato.sem, SqlBot.recusa, SqlBot.fatos, Mundo.conversa, SqlBot.sem]
      congr
      funext c'
      split
      next same => rw [same]; rfl
      next => rfl
  rw [valoresReceber]
  simp only [ask, bind_call, handle, run]
  rw [Ato.exec_infalivel (o := .ler c r) rfl]
  simp only [Ato.sem, answered_ok, bind_done, handle, run]
  change Prog.run Ato.exec _ (Ato.exec (.query c (.selectValores usuarioId)) m).2 = _
  rw [world, Ato.exec_calmo _ calm]
  rfl

/-- The list of the courier shows the sale exactly if its row says 'dinheiro' or
'pix+dinheiro'. -/
theorem listada_iff {vendaId : Nat} {venda : Venda}
    (assigned : db.Atribuida entregador entregaId vendaId venda) :
    (∃ valor, (entregaId, valor) ∈ db.valoresDe (some entregador)) ↔
      venda.formaPagamento = "dinheiro" ∨ venda.formaPagamento = "pix+dinheiro" := by
  obtain ⟨e, p, v, found, status, mine, order, approved, named, row, method, -, -⟩ := assigned
  have sale : p.vendaId.bind db.vendas.get = some v := by rw [named, Option.bind_some, row]
  rw [← method]
  constructor
  · rintro ⟨valor, listed⟩
    obtain ⟨_, inside, -⟩ := mem_valoresDe.mp listed
    obtain ⟨e', p', v', found', -, -, order', -, sale', cash, -⟩ := mem_selectValores.mp inside
    obtain rfl := Option.some.inj (found.symm.trans found')
    obtain rfl := Option.some.inj (order.symm.trans order')
    obtain rfl := Option.some.inj (sale.symm.trans sale')
    exact cash
  · intro cash
    have inside := mem_selectValores.mpr
      ⟨e, p, v, found, status, mine, order, approved, sale, cash, rfl⟩
    exact ⟨_, mem_valoresDe.mpr ⟨_, inside, rfl⟩⟩

end Lista

/-- The cash reaches the courier's list unless the bot called it 'dinheiro_pix'. -/
theorem chega_iff {P : Procedimentos} {pagamento : Pagamento} {id : Nat} {venda : Venda} {db : Db}
    {entregador entregaId : Nat} (entered : Entrou P pagamento id venda)
    (assigned : db.Atribuida entregador entregaId id venda) :
    pagamento.Chega db entregador entregaId ↔
      ∀ valorDinheiro, pagamento ≠ .bot (some .dinheiroPix) valorDinheiro := by
  have method {forma : String} (given : pagamento.forma = some forma) :
      venda.formaPagamento = forma := forma_entrou entered given
  constructor
  · rintro ⟨listada, -⟩ valorDinheiro rfl
    have stored : venda.formaPagamento = "dinheiro_pix" := method rfl
    have cash := (listada_iff assigned).mp (listada rfl)
    rw [stored] at cash
    revert cash
    decide
  · intro other
    refine ⟨fun cash => (listada_iff assigned).mpr ?_, fun valor typed => ?_⟩
    · cases pagamento with
      | manual forma =>
        rw [show venda.formaPagamento = forma from method rfl]
        simpa [Pagamento.incluiDinheiro] using cash
      | bot metodo valorDinheiro =>
        match metodo with
        | none | some .pix => cases cash
        | some .dinheiro => exact .inl (method rfl)
        | some .dinheiroPix => exact absurd rfl (other valorDinheiro)
    · match pagamento with
      | .bot (some .dinheiroPix) valorDinheiro => exact absurd rfl (other valorDinheiro)
      | .bot none _ | .bot (some .pix) _ | .bot (some .dinheiro) _ | .manual _ => cases typed

section Exemplo

/-- Procedures that write a sale and its order for each line. -/
def procedimentos : Procedimentos where
  registrar chamada db :=
    let cliente := String.ofList (chamada.numeroCliente.getD [])
    let forma := (chamada.metodoPagamento.map Metodo.texto).getD ""
    let venda : Venda :=
      { clienteNumero := cliente, formaPagamento := forma, valorTotal := 5 * chamada.quantidade }
    (db.novaVenda venda).novoPedido cliente db.vendas.next
  forma chamada db id venda metodo paid written := by
    simp only [Db.novoPedido, Db.novaVenda, Table.get_insert] at written
    split at written
    · rw [paid] at written
      exact .inr (by rw [← Option.some.inj written]; rfl)
    · exact .inl written

/-- A seller with twenty units in the cart, who was told of 50 in cash. -/
def vendedor (metodo : Metodo) : Sessao where
  carrinho := some [⟨some 1, "kiwi".toList, "20un".toList, 5, 100⟩]
  metodoPagamento := some metodo
  numeroCliente := some "5511999990000".toList
  valorDinheiro := some (some 50)

def vendaDe (metodo : Metodo) : Venda where
  clienteNumero := "5511999990000"
  formaPagamento := metodo.texto
  valorTotal := 100

theorem entrou_vendaDe (metodo : Metodo) :
    Entrou procedimentos (.bot (some metodo) (some 50)) 1 (vendaDe metodo) := by
  let m : Mundo := { conversas := fun _ => { objetos := fun _ => vendedor metodo } }
  refine @Entrou.bot _ m 7 0 _
    [⟨some "5511999990000".toList, some metodo, none, some 1, 20⟩] {} 1 (vendaDe metodo) rfl
    ⟨_, (List.append_nil _).symm, ?_⟩ ?_ nofun ?_
  · cases metodo <;> decide +kernel
  · cases metodo <;> decide +kernel
  · cases metodo <;> decide +kernel

def entregue (metodo : Metodo) : Db where
  vendas := .ofList [vendaDe metodo]
  pedidosDiarios := .ofList
    [{ clienteNumero := "5511999990000", status := .rua, valido := some 1, vendaId := some 1 }]
  entregas := .ofList
    [{ pedidoId := 1, clienteNumero := "5511999990000", entregadorId := some 5, status := .rua }]

theorem atribuida_entregue (metodo : Metodo) :
    (entregue metodo).Atribuida 5 1 1 (vendaDe metodo) :=
  ⟨_, _, _, rfl, .inr rfl, rfl, rfl, rfl, rfl, rfl, rfl, rfl, rfl⟩

theorem dinheiro_chega : (Pagamento.bot (some .dinheiro) (some 50)).Chega (entregue .dinheiro) 5 1 :=
  (chega_iff (entrou_vendaDe .dinheiro) (atribuida_entregue .dinheiro)).mpr (by simp)

theorem pix_e_dinheiro_perdidos :
    Entrou procedimentos (.bot (some .dinheiroPix) (some 50)) 1 (vendaDe .dinheiroPix) ∧
      (entregue .dinheiroPix).Atribuida 5 1 1 (vendaDe .dinheiroPix) ∧
      ¬ (Pagamento.bot (some .dinheiroPix) (some 50)).Chega (entregue .dinheiroPix) 5 1 := by
  refine ⟨entrou_vendaDe .dinheiroPix, atribuida_entregue .dinheiroPix, fun chega => ?_⟩
  have listed := chega.valor 50 rfl
  revert listed
  decide +kernel

end Exemplo
end IceClube
