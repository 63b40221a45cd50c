import IceClube.DuasTelas
import IceClube.PaginaDeVendas

/-! The amount received for a sale, from the form that records it
(`POST /api/atualizar_valor_recebido`) to the list that reports it (`GET /api/vendas`), while
manual orders are created and further amounts recorded. -/
namespace IceClube

open Coop Prog

/-- A value of a request that is not falsy: as a template prints it, as `<` compares it and as
`parseFloat` reads it; `none` is NaN. -/
structure ValorLido where
  texto : String
  numero : Option ℚ
  parseFloat : Option ℚ
  deriving DecidableEq, Repr

/-- The body of `POST /api/atualizar_valor_recebido`; 0 and `none` are missing or falsy fields. -/
structure CorpoValor where
  id : Nat
  valorRecebido : Option ValorLido
  deriving DecidableEq, Repr

/-- The shop with the rows of `log_alteracoes` for `vendas`. -/
structure LojaConferida extends Loja where
  logVendas : List LogAlteracao := []

inductive SqlValor where
  | updateValor (valor : ℚ) (id : Nat)
  | insertLog (id : Nat) (detalhes : String)

/-- `updateValor` answers `affectedRows`. -/
@[reducible] def SqlValor.Res : SqlValor → Type
  | .updateValor .. => Nat
  | .insertLog .. => Unit

/-- What 'Valores a Receber' asks for the sale where the amounts are DOUBLE, as they are here
throughout. -/
def Venda.aReceber (v : Venda) : ℚ := (valorAReceber (v.valores .double)).valor

theorem aReceber_dinheiro {v : Venda} (cash : v.formaPagamento = "dinheiro") :
    v.aReceber = v.valorTotal := by
  rw [Venda.aReceber, valorAReceber_dinheiro cash]
  rfl

theorem aReceber_mista {v : Venda} {valor : ℚ} (mixed : v.formaPagamento = "pix+dinheiro")
    (row : v.valorDinheiro = some valor) :
    v.aReceber = if valor ≠ 0 then valor else v.valorTotal := by
  by_cases zero : valor = 0 <;>
    simp [Venda.aReceber, Venda.valores, valorAReceber, mixed, row, ColunaDeValor.quantia,
      Quantia.verdadeira, Quantia.valor, zero]

namespace LojaConferida

variable (x : LojaConferida)

/-- `UPDATE vendas SET valor_dinheiro = ?, conferido = 1 WHERE id = ?`. -/
def comValor (valor : ℚ) (id : Nat) : LojaConferida :=
  { x with
    db := { x.db with
      vendas := x.db.vendas.modify id fun v => { v with valorDinheiro := some valor } }
    colunasVenda := fun other =>
      if other = id then { x.colunasVenda id with conferido := some 1 } else x.colunasVenda other }

/-- The row of a new sale is written with `status = 'novo'` and `data = NOW()`. -/
def comBanco (db : Db) : LojaConferida :=
  { x with
    db
    colunasVenda := fun id =>
      if x.db.vendas.next ≤ id ∧ id < db.vendas.next then
        { data := some x.db.agora, status := some "novo" }
      else x.colunasVenda id }

/-- What `GET /api/vendas` reports as the amount received for a sale. -/
def relatado (id : Nat) : Option ℚ :=
  (x.db.vendas.get id).map fun v => (x.listada id v).valorRecebido

/-- The cash that the courier is told to collect for a sale. -/
def aCobrar (id : Nat) : Option ℚ :=
  ((x.db.vendas.get id).filter fun v =>
    v.formaPagamento = "dinheiro" ∨ v.formaPagamento = "pix+dinheiro").map Venda.aReceber

end LojaConferida

def SqlValor.sem : (q : SqlValor) → LojaConferida → q.Res × LojaConferida
  | .updateValor valor id, x => (if (x.db.vendas.get id).isSome then 1 else 0, x.comValor valor id)
  | .insertLog id detalhes, x => ((), { x with logVendas := x.logVendas ++ [⟨id, detalhes⟩] })

section Rota

abbrev RotaDeValor := Prog String SqlValor.Res

def CorpoValor.aceito (corpo : CorpoValor) : Option ValorLido :=
  corpo.valorRecebido.filter fun valor => corpo.id ≠ 0 && !valor.numero.any (· < 0)

/-- MySQL knows no column NaN. -/
def gravarValor (id : Nat) (valor : ValorLido) : RotaDeValor Resposta :=
  match valor.parseFloat with
  | none => fail "ER_BAD_FIELD_ERROR"
  | some quantia => do
    let affectedRows ← ask (SqlValor.updateValor quantia id)
    if affectedRows = 0 then pure ⟨404, "Venda não encontrada", none⟩
    else do
      ask (SqlValor.insertLog id s!"Valor recebido atualizado para R$ {valor.texto}")
      pure ⟨200, "Valor recebido atualizado com sucesso", none⟩

def atualizarValorRecebido (corpo : CorpoValor) : RotaDeValor Resposta :=
  match corpo.aceito with
  | none =>
    pure ⟨400, "ID da venda e valor recebido são obrigatórios e devem ser válidos", none⟩
  | some valor =>
    (gravarValor corpo.id valor).handle fun _ =>
      pure ⟨500, "Erro ao atualizar valor recebido", none⟩

end Rota

/-- A request, and which of its calls are rejected. -/
inductive Lancado where
  | manual (corpo : CorpoPedido) (faults : List Bool)
  | recebido (corpo : CorpoValor) (faults : List Bool)
  deriving DecidableEq, Repr

namespace LojaConferida

def atender (x : LojaConferida) : Lancado → Except String Resposta × LojaConferida
  | .manual corpo faults =>
    let feito := (pedidoManual corpo).run Op.exec ⟨x.db, faults⟩
    (feito.1, x.comBanco feito.2.state)
  | .recebido corpo faults =>
    let feito :=
      (atualizarValorRecebido corpo).run (Faulty.exec SqlValor.sem Tx.rejeicao) ⟨x, faults⟩
    (feito.1, feito.2.state)

end LojaConferida

/-- The `valor_pago` of a new order; a method without cash takes none. -/
def CorpoPedido.pago (corpo : CorpoPedido) : ℚ :=
  if corpo.formaPagamento = "dinheiro" ∨ corpo.formaPagamento = "pix+dinheiro" then
    corpo.valorPago.getD 0
  else 0

def CorpoValor.quantia (corpo : CorpoValor) : Option ℚ := corpo.valorRecebido.bind (·.parseFloat)

structure Conferencia where
  loja : LojaConferida
  esperado : Nat → Option ℚ

namespace Conferencia

/-- A new sale is expected with what was paid at its creation, and from a recorded amount on
with that amount. -/
def apos (c : Conferencia) (l : Lancado) : Conferencia where
  loja := (c.loja.atender l).2
  esperado id :=
    if Sucesso (c.loja.atender l).1 then
      match l with
      | .manual corpo _ => if id = c.loja.db.vendas.next then some corpo.pago else c.esperado id
      | .recebido corpo _ => if id = corpo.id then corpo.quantia else c.esperado id
    else c.esperado id

def corrida (c : Conferencia) (lancados : List Lancado) : Conferencia := lancados.foldl apos c

/-- The sales that are already there are expected as they are reported. -/
def inicial (loja : LojaConferida) : Conferencia := ⟨loja, loja.relatado⟩

/-- What is recorded is reported. -/
def Certa (c : Conferencia) : Prop := ∀ id, c.loja.relatado id = c.esperado id

end Conferencia

section Colunas

variable {x : LojaConferida} {id : Nat}

theorem relatado_get (x : LojaConferida) (id : Nat) :
    x.relatado id = (x.db.vendas.get id).map fun v => v.valorPago.getD 0 := rfl

theorem relatado_lista {filtros : FiltrosVendas} {linha : VendaListada}
    (member : linha ∈ x.listaVendas filtros) : x.relatado linha.id = some linha.valorRecebido := by
  obtain ⟨v, inside, rfl⟩ := List.mem_map.mp member
  have sorted := List.mem_of_mem_drop (List.mem_of_mem_take inside)
  have row := Table.mem_rows.mp (List.mem_filter.mp ((List.mem_insertionSort _).mp sorted)).1
  rw [relatado_get]
  exact congrArg (Option.map _) row

theorem aCobrar_lista {entregador entregaId : Nat} {valor : ℚ}
    (column : x.db.colunaDeValor = .double)
    (listed : (entregaId, valor) ∈ x.db.valoresDe (some entregador)) :
    ∃ e p vendaId, x.db.entregas.get entregaId = some e ∧
      x.db.pedidosDiarios.get e.pedidoId = some p ∧ p.vendaId = some vendaId ∧
      x.aCobrar vendaId = some valor := by
  obtain ⟨_, inside, same⟩ := mem_valoresDe.mp listed
  obtain ⟨e, p, v, found, -, -, order, -, sale, cash, rfl⟩ := mem_selectValores.mp inside
  obtain ⟨vendaId, named, row⟩ := Option.bind_eq_some_iff.mp sale
  refine ⟨e, p, vendaId, found, order, named, ?_⟩
  rw [LojaConferida.aCobrar, row, Option.filter_some, if_pos (decide_eq_true cash), same, column]
  rfl

theorem relatado_comValor (valor : ℚ) (vendaId : Nat) :
    (x.comValor valor vendaId).relatado id = x.relatado id := by
  simp only [relatado_get, LojaConferida.comValor, Table.get_modify]
  split
  next same =>
    subst same
    cases x.db.vendas.get id <;> rfl
  next => rfl

/-- The cash to collect once an amount is recorded. -/
theorem aCobrar_comValor {v : Venda} {valor : ℚ} (row : x.db.vendas.get id = some v) :
    (x.comValor valor id).aCobrar id = x.aCobrar id ↔
      (v.formaPagamento = "pix+dinheiro" →
        v.aReceber = if valor ≠ 0 then valor else v.valorTotal) := by
  have now : (x.comValor valor id).db.vendas.get id =
      some { v with valorDinheiro := some valor } := by
    simp [LojaConferida.comValor, Table.get_modify, row]
  simp only [LojaConferida.aCobrar, now, row, Option.filter_some]
  by_cases mixed : v.formaPagamento = "pix+dinheiro"
  · have recorded : Venda.aReceber { v with valorDinheiro := some valor } =
        if valor ≠ 0 then valor else v.valorTotal := aReceber_mista mixed rfl
    have cash : v.formaPagamento = "dinheiro" ∨ v.formaPagamento = "pix+dinheiro" := .inr mixed
    simp only [cash, decide_true, if_true, Option.map_some, Option.some.injEq, recorded]
    exact ⟨fun same _ => same.symm, fun same => (same mixed).symm⟩
  · by_cases cash : v.formaPagamento = "dinheiro"
    · simp [cash, aReceber_dinheiro]
    · simp [cash, mixed]

end Colunas

/-- The request passes its checks, finds its sale, and neither of its two calls is rejected. -/
structure CorpoValor.Grava (corpo : CorpoValor) (x : LojaConferida) (faults : List Bool) :
    Prop where
  aceito : corpo.aceito.isSome
  numero : corpo.quantia.isSome
  venda : (x.db.vendas.get corpo.id).isSome
  atualiza : faults.headD false = false
  registra : faults.tail.headD false = false

section Gravacao

variable {x : LojaConferida} {corpo : CorpoValor} {faults : List Bool}

theorem quantia_aceito {valor : ValorLido} (accepted : corpo.aceito = some valor) :
    corpo.quantia = valor.parseFloat := by
  rw [CorpoValor.quantia, (Option.filter_eq_some_iff.mp accepted).1, Option.bind_some]

section Instrucoes

variable {valor : ValorLido} {quantia : ℚ} {id : Nat}

/-- `gravarValor` with calls that may be rejected. -/
abbrev gravando (id : Nat) (valor : ValorLido) (x : LojaConferida) (faults : List Bool) :
    Except String Resposta × Faulty LojaConferida :=
  (gravarValor id valor).run (Faulty.exec SqlValor.sem Tx.rejeicao) ⟨x, faults⟩

theorem gravarValor_nan (read : valor.parseFloat = none) :
    gravando id valor x faults = (.error "ER_BAD_FIELD_ERROR", ⟨x, faults⟩) := by
  rw [gravando, gravarValor, read]
  rfl

theorem gravarValor_rejeitado (read : valor.parseFloat = some quantia)
    (first : faults.headD false = true) :
    gravando id valor x faults = (.error Tx.rejeicao, ⟨x, faults.tail⟩) := by
  rw [gravando, gravarValor, read]
  exact run_ask_rejected first _

theorem gravarValor_semVenda (read : valor.parseFloat = some quantia)
    (first : faults.headD false = false) (absent : ¬(x.db.vendas.get id).isSome) :
    gravando id valor x faults =
      (.ok ⟨404, "Venda não encontrada", none⟩, ⟨x.comValor quantia id, faults.tail⟩) := by
  rw [gravando, gravarValor, read]
  dsimp only
  rw [run_ask_answered first]
  simp only [SqlValor.sem, if_neg absent, if_true]
  rfl

/-- The row is written before the log is. -/
theorem gravarValor_semRegistro (read : valor.parseFloat = some quantia)
    (first : faults.headD false = false) (there : (x.db.vendas.get id).isSome)
    (second : faults.tail.headD false = true) :
    gravando id valor x faults =
      (.error Tx.rejeicao, ⟨x.comValor quantia id, faults.tail.tail⟩) := by
  rw [gravando, gravarValor, read]
  dsimp only
  rw [run_ask_answered first]
  simp only [SqlValor.sem, if_pos there, Nat.one_ne_zero, if_false]
  exact run_ask_rejected second _

theorem gravarValor_registrado (read : valor.parseFloat = some quantia)
    (first : faults.headD false = false) (there : (x.db.vendas.get id).isSome)
    (second : faults.tail.headD false = false) :
    gravando id valor x faults = (.ok ⟨200, "Valor recebido atualizado com sucesso", none⟩,
      ⟨((SqlValor.insertLog id s!"Valor recebido atualizado para R$ {valor.texto}").sem
        (x.comValor quantia id)).2, faults.tail.tail⟩) := by
  rw [gravando, gravarValor, read]
  dsimp only
  rw [run_ask_answered first]
  simp only [SqlValor.sem, if_pos there, Nat.one_ne_zero, if_false]
  exact run_ask_answered second _

end Instrucoes

theorem atender_recusado (refused : corpo.aceito = none) :
    x.atender (.recebido corpo faults) = (.ok ⟨400,
      "ID da venda e valor recebido são obrigatórios e devem ser válidos", none⟩, x) := by
  rw [LojaConferida.atender, atualizarValorRecebido, refused]
  rfl

/-- A rejected call is answered with 500, whatever was written before it. -/
theorem atender_rejeitado {valor : ValorLido} {e : String} {depois : Faulty LojaConferida}
    (accepted : corpo.aceito = some valor)
    (rejected : gravando corpo.id valor x faults = (.error e, depois)) :
    x.atender (.recebido corpo faults) =
      (.ok ⟨500, "Erro ao atualizar valor recebido", none⟩, depois.state) := by
  rw [gravando] at rejected
  rw [LojaConferida.atender, atualizarValorRecebido, accepted]
  dsimp only
  rw [run_handle, rejected]
  rfl

theorem atender_respondido {valor : ValorLido} {resposta : Resposta}
    {depois : Faulty LojaConferida} (accepted : corpo.aceito = some valor)
    (answered : gravando corpo.id valor x faults = (.ok resposta, depois)) :
    x.atender (.recebido corpo faults) = (.ok resposta, depois.state) := by
  rw [gravando] at answered
  rw [LojaConferida.atender, atualizarValorRecebido, accepted]
  dsimp only
  rw [run_handle, answered]

theorem naoSucesso {resposta : Resposta} (other : resposta.status ≠ 200) :
    ¬Sucesso (.ok resposta) := other

/-- An amount is recorded and answered with success, or what is reported stays. -/
theorem atender_recebido (x : LojaConferida) (corpo : CorpoValor) (faults : List Bool) :
    (corpo.Grava x faults ∧ Sucesso (x.atender (.recebido corpo faults)).1 ∧
      ∃ quantia, corpo.quantia = some quantia ∧
        (x.atender (.recebido corpo faults)).2.db = (x.comValor quantia corpo.id).db) ∨
    (¬corpo.Grava x faults ∧ ¬Sucesso (x.atender (.recebido corpo faults)).1 ∧
      ∀ id, (x.atender (.recebido corpo faults)).2.relatado id = x.relatado id) := by
  cases accepted : corpo.aceito with
  | none =>
    rw [atender_recusado accepted]
    refine .inr ⟨fun grava => ?_, naoSucesso (by decide), fun _ => rfl⟩
    have isSome := grava.aceito
    rw [accepted] at isSome
    cases isSome
  | some valor =>
    have amount := quantia_aceito accepted
    cases read : valor.parseFloat with
    | none =>
      rw [atender_rejeitado accepted (gravarValor_nan read)]
      refine .inr ⟨fun grava => ?_, naoSucesso (by decide), fun _ => rfl⟩
      have isSome := grava.numero
      rw [amount, read] at isSome
      cases isSome
    | some quantia =>
      rw [read] at amount
      cases first : faults.headD false with
      | true =>
        rw [atender_rejeitado accepted (gravarValor_rejeitado read first)]
        refine .inr ⟨fun grava => ?_, naoSucesso (by decide), fun _ => rfl⟩
        cases first.symm.trans grava.atualiza
      | false =>
        by_cases there : (x.db.vendas.get corpo.id).isSome
        · cases second : faults.tail.headD false with
          | true =>
            rw [atender_rejeitado accepted (gravarValor_semRegistro read first there second)]
            refine .inr ⟨fun grava => ?_, naoSucesso (by decide), fun _ => relatado_comValor _ _⟩
            cases second.symm.trans grava.registra
          | false =>
            rw [atender_respondido accepted (gravarValor_registrado read first there second)]
            refine .inl ⟨⟨?_, ?_, there, first, second⟩, rfl, quantia, amount, rfl⟩
            · rw [accepted]
              rfl
            · rw [amount]
              rfl
        · rw [atender_respondido accepted (gravarValor_semVenda read first there)]
          exact .inr ⟨fun grava => there grava.venda, naoSucesso (by decide),
            fun _ => relatado_comValor _ _⟩

theorem atender_manual (x : LojaConferida) (corpo : CorpoPedido) (faults : List Bool) :
    (Sucesso (x.atender (.manual corpo faults)).1 ∧
      ∀ id, (x.atender (.manual corpo faults)).2.relatado id =
        if id = x.db.vendas.next then some corpo.pago else x.relatado id) ∨
    (¬Sucesso (x.atender (.manual corpo faults)).1 ∧
      ∀ id, (x.atender (.manual corpo faults)).2.relatado id = x.relatado id) := by
  rcases inteira_pedidoManual corpo ⟨x.db, faults⟩ with
    ⟨failure, depois, same⟩ | ⟨success, -, ready, total, value, state⟩
  · refine .inr ⟨failure, fun id => ?_⟩
    have db : (x.atender (.manual corpo faults)).2.db = x.db.desfeito depois := same
    rw [relatado_get, relatado_get, db]
    rfl
  · refine .inl ⟨success, fun id => ?_⟩
    have sales := (pedidoCriado_comPedido ready value).vendas
    rw [← state] at sales
    have vendas : (x.atender (.manual corpo faults)).2.db.vendas = _ := sales
    rw [relatado_get, vendas, Table.get_insert, relatado_get]
    split
    · rw [Option.map_some, CorpoPedido.pago]
      simp only [CorpoPedido.venda]
      split <;> simp_all [or_comm]
    · rfl

end Gravacao

/-- The amount is the `valor_pago` that the sale has, and the cash to collect comes out of it
as before. -/
structure Venda.Condiz (v : Venda) (quantia : ℚ) : Prop where
  pago : v.valorPago.getD 0 = quantia
  dinheiro : v.formaPagamento = "pix+dinheiro" →
    v.aReceber = if quantia ≠ 0 then quantia else v.valorTotal

/-- The amount of a request changes nothing of its sale. -/
def LojaConferida.Condiz (x : LojaConferida) (corpo : CorpoValor) : Prop :=
  ∀ v quantia, x.db.vendas.get corpo.id = some v → corpo.quantia = some quantia → v.Condiz quantia

section Passos

variable {c : Conferencia}

theorem corrida_append (c : Conferencia) (antes : List Lancado) (l : Lancado) :
    c.corrida (antes ++ [l]) = (c.corrida antes).apos l :=
  List.foldl_append ..

theorem certa_manual (corpo : CorpoPedido) (faults : List Bool) (certa : c.Certa) :
    (c.apos (.manual corpo faults)).Certa := by
  intro id
  simp only [Conferencia.apos]
  rcases atender_manual c.loja corpo faults with ⟨success, reported⟩ | ⟨failure, same⟩
  · rw [if_pos success, reported, certa id]
  · rw [if_neg failure, same, certa id]

/-- A recorded amount is reported, and the cash to collect stays, just where it changes
nothing. -/
theorem certa_recebido (corpo : CorpoValor) (faults : List Bool) (certa : c.Certa) :
    ((c.apos (.recebido corpo faults)).Certa ∧
      (Sucesso (c.loja.atender (.recebido corpo faults)).1 →
        (c.loja.atender (.recebido corpo faults)).2.aCobrar corpo.id =
          c.loja.aCobrar corpo.id)) ↔
    (corpo.Grava c.loja faults → c.loja.Condiz corpo) := by
  have expected (id : Nat) : (c.apos (.recebido corpo faults)).esperado id =
      if Sucesso (c.loja.atender (.recebido corpo faults)).1 then
        if id = corpo.id then corpo.quantia else c.esperado id
      else c.esperado id := rfl
  rcases atender_recebido c.loja corpo faults with
    ⟨grava, success, quantia, amount, written⟩ | ⟨refused, failure, same⟩
  · obtain ⟨v, row⟩ := Option.isSome_iff_exists.mp grava.venda
    have cash : (c.loja.atender (.recebido corpo faults)).2.aCobrar corpo.id =
        (c.loja.comValor quantia corpo.id).aCobrar corpo.id := by
      rw [LojaConferida.aCobrar, written, LojaConferida.aCobrar]
    have reported (id : Nat) :
        (c.apos (.recebido corpo faults)).loja.relatado id = c.loja.relatado id := by
      have db : (c.apos (.recebido corpo faults)).loja.db = (c.loja.comValor quantia corpo.id).db :=
        written
      rw [relatado_get, db, ← relatado_get, relatado_comValor]
    rw [cash, aCobrar_comValor row]
    simp only [success, grava, true_implies, Conferencia.Certa, reported, expected, if_true]
    constructor
    · rintro ⟨each, same⟩ v' quantia' row' amount'
      obtain rfl := Option.some.inj (row.symm.trans row')
      obtain rfl := Option.some.inj (amount.symm.trans amount')
      have here := each corpo.id
      rw [if_pos rfl, relatado_get, row, amount] at here
      exact ⟨Option.some.inj here, same⟩
    · intro condiz
      have same := condiz v quantia row amount
      refine ⟨fun id => ?_, same.dinheiro⟩
      split
      next here => rw [here, relatado_get, row, amount, ← same.pago, Option.map_some]
      next => exact certa id
  · simp only [failure, refused, false_imp_iff, and_true, iff_true]
    intro id
    rw [expected, if_neg failure, ← certa id]
    exact same id

def LojaConferida.depois (x : LojaConferida) (antes : List Lancado) : LojaConferida :=
  ((Conferencia.inicial x).corrida antes).loja

/-- In every state that a run reaches each sale is reported with the amount recorded last, or
paid at its creation, and no recorded amount changes the cash to collect. -/
structure ValorCerto (x : LojaConferida) (lancados : List Lancado) : Prop where
  relatado : ∀ antes, antes <+: lancados → ((Conferencia.inicial x).corrida antes).Certa
  cobrado : ∀ antes corpo faults, antes ++ [.recebido corpo faults] <+: lancados →
    Sucesso ((x.depois antes).atender (.recebido corpo faults)).1 →
      ((x.depois antes).atender (.recebido corpo faults)).2.aCobrar corpo.id =
        (x.depois antes).aCobrar corpo.id

/-- For every shop and every sequence of orders and amounts: the run is right just where every
amount that is recorded changes nothing. -/
theorem valor_certo_sse (x : LojaConferida) (lancados : List Lancado) :
    ValorCerto x lancados ↔ ∀ antes corpo faults, antes ++ [.recebido corpo faults] <+: lancados →
      corpo.Grava (x.depois antes) faults → (x.depois antes).Condiz corpo := by
  constructor
  · intro right antes corpo faults part
    have certa := right.relatado antes ((List.prefix_append _ _).trans part)
    have next := right.relatado _ part
    rw [corrida_append] at next
    exact (certa_recebido corpo faults certa).mp ⟨next, right.cobrado antes corpo faults part⟩
  · intro harmless
    have certas : ∀ antes, antes <+: lancados → ((Conferencia.inicial x).corrida antes).Certa := by
      intro antes
      induction antes using List.reverseRecOn with
      | nil => exact fun _ _ => rfl
      | append_singleton antes l ih =>
        intro part
        have certa := ih ((List.prefix_append _ _).trans part)
        rw [corrida_append]
        cases l with
        | manual corpo faults => exact certa_manual corpo faults certa
        | recebido corpo faults =>
          exact ((certa_recebido corpo faults certa).mpr (harmless antes corpo faults part)).1
    refine ⟨certas, fun antes corpo faults part => ?_⟩
    have certa := certas antes ((List.prefix_append _ _).trans part)
    exact ((certa_recebido corpo faults certa).mpr (harmless antes corpo faults part)).2

def oitenta : CorpoValor := ⟨1, some ⟨"80", some 80, some 80⟩⟩

/-- The order of `corpoDeCem` and then the 80 received for it. -/
def recebendoOitenta (pagamento : String) : List Lancado :=
  [.manual (corpoDeCem pagamento) [], .recebido oitenta []]

def freezerDeCem : LojaConferida where
  db := lojaDeCem.state

/-- 80 are recorded; the list goes on with the 30 of the creation, and where part was paid by
pix the courier is told to collect 80 instead of 30. -/
theorem oitenta_nao_relatados :
    ¬ValorCerto freezerDeCem (recebendoOitenta "dinheiro") ∧
      ((freezerDeCem.depois (recebendoOitenta "dinheiro")).relatado 1 = some 30 ∧
        ((Conferencia.inicial freezerDeCem).corrida
          (recebendoOitenta "dinheiro")).esperado 1 = some 80) ∧
      (freezerDeCem.depois ((recebendoOitenta "pix+dinheiro").take 1)).aCobrar 1 = some 30 ∧
      (freezerDeCem.depois (recebendoOitenta "pix+dinheiro")).aCobrar 1 = some 80 := by
  have values : ((freezerDeCem.depois (recebendoOitenta "dinheiro")).relatado 1 = some 30 ∧
      ((Conferencia.inicial freezerDeCem).corrida
        (recebendoOitenta "dinheiro")).esperado 1 = some 80) ∧
      (freezerDeCem.depois ((recebendoOitenta "pix+dinheiro").take 1)).aCobrar 1 = some 30 ∧
      (freezerDeCem.depois (recebendoOitenta "pix+dinheiro")).aCobrar 1 = some 80 := by
    decide +kernel
  refine ⟨fun right => ?_, values⟩
  have reported := right.relatado _ (List.prefix_refl _) 1
  rw [values.1.2] at reported
  have amounts := Option.some.inj (values.1.1.symm.trans reported)
  norm_num at amounts

end Passos
end IceClube
