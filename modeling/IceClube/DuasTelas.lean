import Mathlib.Tactic.NormNum
import IceClube.TudoOuNada
import IceClube.ValoresReceber

/-! The cash to collect for a sale of the sales panel, as the courier reads it on two screens:
the list 'Valores a Receber' and the details of a stop of the route. -/
namespace IceClube

open Coop Prog

structure FormularioPedido where
  clienteNumero : String
  formaPagamento : String
  valorPago : Option ℚ := none
  comprovante : Option Arquivo := none
  produtos : List Linha
  deriving DecidableEq, Repr

namespace FormularioPedido

def produtosEscolhidos (f : FormularioPedido) : List Linha :=
  f.produtos.filter fun p => p.produtoId.isSome && p.quantidade.any (0 < ·)

/-- What `confirmarPedidoBtn` sends, if it sends anything. -/
def corpo (f : FormularioPedido) : Option CorpoPedido :=
  let cliente := String.ofList (Texto.trim f.clienteNumero.toList)
  if cliente = "" ∨ f.formaPagamento = "" then none
  else if f.produtosEscolhidos = [] then none
  else some {
    clienteNumero := cliente
    formaPagamento := f.formaPagamento
    itens := .lista f.produtosEscolhidos
    valorPago := f.valorPago
    valorDinheiro :=
      if f.formaPagamento = "pix+dinheiro" ∨ f.formaPagamento = "dinheiro" then f.valorPago
      else none
    comprovante := f.comprovante }

theorem corpo_pagamento {f : FormularioPedido} {corpo : CorpoPedido} (sent : f.corpo = some corpo) :
    corpo.formaPagamento = f.formaPagamento ∧ corpo.valorPago = f.valorPago ∧
      (f.formaPagamento = "pix+dinheiro" → corpo.valorDinheiro = f.valorPago) := by
  simp only [FormularioPedido.corpo, Option.ite_none_left_eq_some, Option.some.injEq] at sent
  obtain ⟨-, -, rfl⟩ := sent
  refine ⟨rfl, rfl, fun both => ?_⟩
  simp [both]

end FormularioPedido

def CorpoPedido.total (corpo : CorpoPedido) (db : Db) : ℚ :=
  (corpo.linhas.map (Linha.parcela db)).sum

/-- The request was answered with success, and this is the row of its sale. -/
structure CorpoPedido.Vendeu (corpo : CorpoPedido) (w : Faulty Db) (vendaId : Nat) (venda : Venda) :
    Prop where
  sucesso : Sucesso ((pedidoManual corpo).run Op.exec w).1
  nova : w.state.vendas.get vendaId = none
  escrita : ((pedidoManual corpo).run Op.exec w).2.state.vendas.get vendaId = some venda

def Db.valoresListados (db : Db) (entregador : Nat) : List (Nat × String) :=
  (SqlBot.sem (.selectValores (some entregador)) db).1.map fun v => (v.1, (valorAReceber v.2).texto)

/-- The amount under 'Detalhes do Pedido'; a delivery without an address has no details. -/
def Db.valorNosDetalhes (db : Db) (entregador entregaId : Nat) : Option String := do
  let entrega ← db.detalhes (.num entregaId) (some entregador)
  let _ ← entrega.endereco
  valorExibir entrega

def Db.MesmoValor (db : Db) (entregador entregaId : Nat) : Prop :=
  ∀ listado exibido, (entregaId, listado) ∈ db.valoresListados entregador →
    db.valorNosDetalhes entregador entregaId = some exibido → listado = exibido

theorem vendeu_venda {corpo : CorpoPedido} {w : Faulty Db} {vendaId : Nat} {venda : Venda}
    (sold : corpo.Vendeu w vendaId venda) :
    corpo.recusa = none ∧ venda = corpo.venda (corpo.total w.state) := by
  obtain ⟨success, new, written⟩ := sold
  rcases inteira_pedidoManual corpo w with ⟨failure, -⟩ | ⟨-, passed, ready, total, value, state⟩
  · exact absurd success failure
  have sales := (pedidoCriado_comPedido ready value).vendas
  rw [← state] at sales
  rw [sales, Table.get_insert] at written
  split at written
  · exact ⟨passed, (Option.some.inj written).symm⟩
  · rw [new] at written
    cases written

section Centavos

/-- The text of an amount in hundredths. -/
theorem toFixed2_centavos (k : ℤ) : (toFixed2 (k / 100)).toList = (if k < 0 then ['-'] else []) ++
    ((toString (k.natAbs / 100)).toList ++ '.' :: ((toString (k.natAbs / 10 % 10)).toList ++
      (toString (k.natAbs % 10)).toList)) := by
  have hundredths : |(k : ℚ) / 100| * 100 = (k.natAbs : ℤ) := by
    rw [abs_div, abs_of_pos (by norm_num : (0 : ℚ) < 100), div_mul_cancel₀ _ (by norm_num)]
    push_cast
    rfl
  have floored : (|(k : ℚ) / 100| * 100 + 1 / 2).floor.toNat = k.natAbs := by
    rw [hundredths]
    change ⌊((k.natAbs : ℤ) : ℚ) + 1 / 2⌋.toNat = k.natAbs
    rw [Int.floor_intCast_add, show ⌊(1 / 2 : ℚ)⌋ = 0 by norm_num, add_zero, Int.toNat_natCast]
  have negative : (k : ℚ) / 100 < 0 ↔ k < 0 := by
    rw [div_neg_iff]
    norm_num
  simp only [toFixed2, floored, negative, String.toList_append, List.append_assoc]
  split <;> rfl

theorem toFixed2_inj {a b : ℤ} : toFixed2 (a / 100) = toFixed2 (b / 100) ↔ a = b := by
  refine ⟨fun same => ?_, fun same => same ▸ rfl⟩
  have sign (k : ℤ) : '-' ∈ (toFixed2 (k / 100)).toList ↔ k < 0 := by
    have noSign (n : Nat) : '-' ∉ (toString n).toList := fun inside =>
      absurd (digitos_repr n _ inside) (by decide)
    rw [toFixed2_centavos]
    by_cases negative : k < 0
    · simp [negative]
    · simp only [negative, if_false, List.nil_append, List.mem_append, List.mem_cons, noSign,
        false_or, or_false, iff_false]
      decide
  have digits (k : ℤ) : Texto.valor (Texto.digitos (toFixed2 (k / 100)).toList) = k.natAbs := by
    have kept (n : Nat) : (toString n).toList.filter Char.isDigit = (toString n).toList :=
      List.filter_eq_self.mpr (digitos_repr n)
    have one (n : Nat) (small : n < 10) : (toString n).toList.length = 1 := by
      revert n
      decide
    have unsigned : (if k < 0 then ['-'] else []).filter Char.isDigit = [] := by
      split <;> rfl
    rw [toFixed2_centavos, Texto.digitos, List.filter_append, unsigned, List.nil_append,
      List.filter_append, List.filter_cons_of_neg (by decide), List.filter_append, kept, kept, kept,
      Texto.valor_append, Texto.valor_append, List.length_append, one _ (Nat.mod_lt _ (by decide)),
      one _ (Nat.mod_lt _ (by decide)), Texto.valor_repr, Texto.valor_repr, Texto.valor_repr]
    omega
  have signs : a < 0 ↔ b < 0 := by rw [← sign, ← sign, same]
  have sizes : a.natAbs = b.natAbs := by rw [← digits, ← digits, same]
  omega

end Centavos

section Telas

theorem valorAReceber_dinheiro {v : ValorDaVenda} (cash : v.formaPagamento = "dinheiro") :
    valorAReceber v = v.valorTotal := by
  unfold valorAReceber
  split
  · simp [cash]
  · rfl

variable {db : Db} {entregador entregaId vendaId : Nat} {venda : Venda}

theorem mem_valoresListados (column : db.colunaDeValor = .decimal)
    (assigned : db.Atribuida entregador entregaId vendaId venda)
    (cash : venda.formaPagamento = "dinheiro" ∨ venda.formaPagamento = "pix+dinheiro")
    {valor : String} :
    (entregaId, valor) ∈ db.valoresListados entregador ↔
      valor = (valorAReceber (venda.valores .decimal)).texto := by
  obtain ⟨e, p, v, found, status, mine, order, approved, named, row, method, total, kept⟩ := assigned
  have amount : v.valores .decimal = venda.valores .decimal := by
    simp only [Venda.valores, method, total, kept]
  have sale : p.vendaId.bind db.vendas.get = some v := by rw [named, Option.bind_some, row]
  simp only [Db.valoresListados, List.mem_map, Prod.exists, Prod.mk.injEq]
  constructor
  · rintro ⟨_, valores, inside, rfl, rfl⟩
    obtain ⟨e', p', v', found', -, -, order', -, sale', -, rfl⟩ := mem_selectValores.mp inside
    obtain rfl := Option.some.inj (found.symm.trans found')
    obtain rfl := Option.some.inj (order.symm.trans order')
    obtain rfl := Option.some.inj (sale.symm.trans sale')
    rw [column, amount]
  · rintro rfl
    refine ⟨entregaId, _, mem_selectValores.mpr
      ⟨e, p, v, found, status, mine, order, approved, sale, method ▸ cash, rfl⟩, rfl, ?_⟩
    rw [column, amount]

theorem valorNosDetalhes_venda (column : db.colunaDeValor = .decimal)
    (assigned : db.Atribuida entregador entregaId vendaId venda)
    (cash : venda.formaPagamento = "dinheiro" ∨ venda.formaPagamento = "pix+dinheiro")
    (paid : ∀ v, db.vendas.get vendaId = some v → v.valorPago = venda.valorPago) :
    db.valorNosDetalhes entregador entregaId =
      ((db.entregas.get entregaId).bind (·.endereco)).bind fun _ =>
        if venda.formaPagamento = "dinheiro" then some (toFixed2 (emCentavos venda.valorTotal / 100))
        else some (toFixed2 ((emCentavos venda.valorTotal -
          (venda.valorPago.map emCentavos).getD 0 : ℤ) / 100)) := by
  obtain ⟨e, p, v, found, -, mine, order, -, named, row, method, total, -⟩ := assigned
  have sale : p.vendaId.bind db.vendas.get = some v := by rw [named, Option.bind_some, row]
  have rest : (Quantia.decimal (emCentavos venda.valorTotal)).valor -
      ((venda.valorPago.map ColunaDeValor.decimal.quantia).map Quantia.valor).getD 0 =
        ((emCentavos venda.valorTotal - (venda.valorPago.map emCentavos).getD 0 : ℤ) : ℚ) / 100 := by
    cases venda.valorPago with
    | none => simp [Quantia.valor]
    | some pago =>
      simp only [Quantia.valor, ColunaDeValor.quantia, Option.map_some, Option.getD_some]
      push_cast
      rw [sub_div]
  simp only [Db.valorNosDetalhes, Db.detalhes, IdSql.linha, Entrega.de, found, mine, order, sale,
    valorExibir, method, total, paid v row, column, Option.bind_eq_bind, Option.bind_some,
    Option.filter_some, Option.isSome_some, decide_true, Bool.and_true, if_true, Option.pure_def]
  rcases cash with cash | cash
  · simp [cash, ColunaDeValor.quantia, Quantia.valor]
  · rw [ColunaDeValor.quantia, rest]
    simp [cash]

/-- The list shows one amount, and the details the other if the delivery has an address. -/
theorem mesmoValor_venda (column : db.colunaDeValor = .decimal)
    (assigned : db.Atribuida entregador entregaId vendaId venda)
    (cash : venda.formaPagamento = "dinheiro" ∨ venda.formaPagamento = "pix+dinheiro")
    (paid : ∀ v, db.vendas.get vendaId = some v → v.valorPago = venda.valorPago) :
    db.MesmoValor entregador entregaId ↔
      (db.entregas.get entregaId).bind (·.endereco) = none ∨ venda.formaPagamento = "dinheiro" ∨
        (valorAReceber (venda.valores .decimal)).texto =
          toFixed2 ((emCentavos venda.valorTotal - (venda.valorPago.map emCentavos).getD 0 : ℤ) / 100)
        := by
  have same : db.MesmoValor entregador entregaId ↔
      ∀ exibido, db.valorNosDetalhes entregador entregaId = some exibido →
        (valorAReceber (venda.valores .decimal)).texto = exibido := by
    constructor
    · intro both exibido shown
      exact both _ _ ((mem_valoresListados column assigned cash).mpr rfl) shown
    · intro all listado exibido member shown
      rw [(mem_valoresListados column assigned cash).mp member]
      exact all exibido shown
  rw [same, valorNosDetalhes_venda column assigned cash paid]
  cases (db.entregas.get entregaId).bind (·.endereco) with
  | none => simp
  | some endereco =>
    by_cases only : venda.formaPagamento = "dinheiro"
    · rw [valorAReceber_dinheiro only]
      simp [only]
      rfl
    · simp [only]

/-- A cash method passes the checks only with the amount. -/
theorem valorPago_recusa {corpo : CorpoPedido} (passed : corpo.recusa = none)
    (cash : corpo.formaPagamento = "dinheiro" ∨ corpo.formaPagamento = "pix+dinheiro") :
    ∃ pago, corpo.valorPago = some pago := by
  have other : corpo.formaPagamento ≠ "pix" := by rcases cash with cash | cash <;> simp [cash]
  apply Option.ne_none_iff_exists'.mp
  intro absent
  unfold CorpoPedido.recusa at passed
  rw [if_neg other, if_pos absent] at passed
  split_ifs at passed

/-- Where the amounts are DECIMAL the two screens ask for the same money exactly if all of it is
cash, or half of the price was typed. -/
theorem mesmoValor_iff {f : FormularioPedido} {corpo : CorpoPedido} {w : Faulty Db}
    (sent : f.corpo = some corpo)
    (cash : f.formaPagamento = "dinheiro" ∨ f.formaPagamento = "pix+dinheiro")
    (sold : corpo.Vendeu w vendaId venda) (column : db.colunaDeValor = .decimal)
    (assigned : db.Atribuida entregador entregaId vendaId venda)
    (paid : ∀ v, db.vendas.get vendaId = some v → v.valorPago = venda.valorPago) :
    db.MesmoValor entregador entregaId ↔
      (db.entregas.get entregaId).bind (·.endereco) = none ∨ f.formaPagamento = "dinheiro" ∨
        ∃ pago, f.valorPago = some pago ∧ 2 * emCentavos pago = emCentavos (corpo.total w.state) := by
  obtain ⟨passed, rfl⟩ := vendeu_venda sold
  obtain ⟨method, amount, both⟩ := FormularioPedido.corpo_pagamento sent
  rw [← method] at cash
  obtain ⟨pago, typed⟩ := valorPago_recusa passed cash
  rw [mesmoValor_venda column assigned cash paid, ← method, ← amount, typed]
  apply or_congr_right
  apply or_congr_right'
  intro mixed
  replace mixed : corpo.formaPagamento = "pix+dinheiro" := cash.resolve_left mixed
  have cashPart : corpo.valorDinheiro = some pago := by
    rw [both (method ▸ mixed), ← amount, typed]
  have shown : (valorAReceber ((corpo.venda (corpo.total w.state)).valores .decimal)).texto =
      toFixed2 (emCentavos pago / 100) := by
    simp [Venda.valores, CorpoPedido.venda, valorAReceber, mixed, cashPart, ColunaDeValor.quantia,
      Quantia.verdadeira, Quantia.texto]
  simp only [CorpoPedido.venda, mixed, typed, true_or, if_true, Option.getD_some, Option.map_some]
    at shown ⊢
  rw [shown, toFixed2_inj]
  constructor
  · intro same
    exact ⟨pago, rfl, by omega⟩
  · rintro ⟨_, ⟨⟩, half⟩
    omega

end Telas

section Exemplo

def formularioDeCem (pagamento : String) : FormularioPedido where
  clienteNumero := "5511999990000"
  formaPagamento := pagamento
  valorPago := some 30
  produtos := [⟨some 1, some 2⟩]

def corpoDeCem (pagamento : String) : CorpoPedido where
  clienteNumero := "5511999990000"
  formaPagamento := pagamento
  itens := .lista [⟨some 1, some 2⟩]
  valorPago := some 30
  valorDinheiro := some 30

def lojaDeCem : Faulty Db :=
  ⟨{ estoque := .ofList [{ nome := "Picolé", quantidade := 10, medida := "un", valorUnitario := 50 }] },
    []⟩

def vendaDeCem (pagamento : String) : Venda where
  clienteNumero := "5511999990000"
  formaPagamento := pagamento
  valorTotal := 100
  valorPago := some 30
  valorDinheiro := if pagamento = "pix+dinheiro" then some 30 else none

def rotaDeCem (pagamento : String) : Db where
  colunaDeValor := .decimal
  vendas := .ofList [vendaDeCem pagamento]
  pedidosDiarios := .ofList
    [{ clienteNumero := "5511999990000", status := .rua, valido := some 1, vendaId := some 1 }]
  entregas := .ofList [{
    pedidoId := 1, clienteNumero := "5511999990000", endereco := some "Rua Paraná, 10"
    entregadorId := some 5, status := .rua }]

theorem vendeu_cem {pagamento : String}
    (cash : pagamento = "dinheiro" ∨ pagamento = "pix+dinheiro") :
    (corpoDeCem pagamento).Vendeu lojaDeCem 1 (vendaDeCem pagamento) := by
  rcases cash with rfl | rfl
  · exact ⟨by decide +kernel, rfl, by decide +kernel⟩
  · exact ⟨by decide +kernel, rfl, by decide +kernel⟩

theorem atribuida_cem (pagamento : String) :
    (rotaDeCem pagamento).Atribuida 5 1 1 (vendaDeCem pagamento) :=
  ⟨_, _, _, rfl, .inr rfl, rfl, rfl, rfl, rfl, rfl, rfl, rfl, rfl⟩

theorem cem_em_dinheiro : (rotaDeCem "dinheiro").MesmoValor 5 1 :=
  (mesmoValor_iff (f := formularioDeCem "dinheiro") rfl (.inl rfl) (vendeu_cem (.inl rfl))
    rfl (atribuida_cem "dinheiro") (by decide)).mpr (.inr (.inl rfl))

/-- The list asks for the 30, the details for the other 70. -/
theorem trinta_ou_setenta :
    (formularioDeCem "pix+dinheiro").corpo = some (corpoDeCem "pix+dinheiro") ∧
      (corpoDeCem "pix+dinheiro").Vendeu lojaDeCem 1 (vendaDeCem "pix+dinheiro") ∧
      (rotaDeCem "pix+dinheiro").Atribuida 5 1 1 (vendaDeCem "pix+dinheiro") ∧
      ¬ (rotaDeCem "pix+dinheiro").MesmoValor 5 1 := by
  refine ⟨by decide +kernel, vendeu_cem (.inr rfl), atribuida_cem _, fun same => ?_⟩
  exact absurd (same "30.00" "70.00" (by decide +kernel) (by decide +kernel)) (by decide)

end Exemplo
end IceClube
