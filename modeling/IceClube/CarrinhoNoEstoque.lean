import Mathlib.Algebra.Order.BigOperators.Group.List
import IceClube.Carrinho

/-! What a cart asks of the stock. The availability of a product is looked at when a line is
added, against the whole stock and without the lines that are already there. -/
namespace IceClube

open Coop Prog

/-- The number in front of the unit; a combo is counted in 'un'. -/
def ItemCarrinho.pedida (estoque : Table Estoque) (item : ItemCarrinho) : Nat :=
  let medida :=
    match item.id with
    | some id => ((estoque.get id).map Estoque.medida).getD ""
    | none => "un"
  Texto.valor (item.quantidade.take (item.quantidade.length - medida.length))

/-- The line takes from this product; the combo is made of the products 6 and 7. -/
def ItemCarrinho.leva (item : ItemCarrinho) (id : Nat) : Bool :=
  item.id = some id || (item.isCombo && (id = 6 || id = 7))

def desejada (estoque : Table Estoque) (itens : List ItemCarrinho) (id : Nat) : Nat :=
  (itens.map fun item => if item.leva id then item.pedida estoque else 0).sum

def Cabe (estoque : Table Estoque) (itens : List ItemCarrinho) : Prop :=
  ∀ id, 0 < desejada estoque itens id →
    ∃ e, estoque.get id = some e ∧ (desejada estoque itens id : ℚ) ≤ e.quantidade

/-- The products and the quantity that a text of the step asks for. -/
def pedido (chamaSe : String → Texto → Bool) (estoque : Table Estoque) (texto : Texto) :
    Option (List Nat × Nat) :=
  let minusculo := Texto.toLowerCase texto
  if minusculo = "ver carrinho".toList then none
  else if minusculo.startsWith "remover ".toList then none
  else if minusculo.startsWith "combo caneta refil".toList then
    (Texto.primeiroNumero texto).map fun quantidade => ([6, 7], quantidade)
  else do
    let lido ← Texto.item (Texto.trim texto)
    let linha ← achar chamaSe estoque (Texto.toLowerCase lido.2)
    pure ([linha.1], (Texto.primeiroNumero lido.1).getD 0)

/-- The code's own test of availability, made against the whole stock. -/
def Disponivel (estoque : Table Estoque) (ids : List Nat) (quantidade : Nat) : Prop :=
  0 < quantidade ∧ ∀ id ∈ ids, ∃ e, estoque.get id = some e ∧ (quantidade : ℚ) ≤ e.quantidade

/-- A text that passes the test asks for no more than what the cart leaves of the stock. -/
def Modesto (chamaSe : String → Texto → Bool) (estoque : Table Estoque) (texto : Texto)
    (itens : List ItemCarrinho) : Prop :=
  ∀ ids quantidade, pedido chamaSe estoque texto = some (ids, quantidade) →
    Disponivel estoque ids quantidade → ∀ id ∈ ids, ∀ e, estoque.get id = some e →
      (desejada estoque itens id + quantidade : ℚ) ≤ e.quantidade

section Linhas

variable {estoque : Table Estoque}

theorem pedida_linha (l : LinhaCarrinho)
    (row : ∀ id e, l.produto = some (id, e) → estoque.get id = some e) :
    l.item.pedida estoque = l.quantidade := by
  have text : l.item.quantidade = (toString l.quantidade).toList ++ l.medida.toList := by
    rw [LinhaCarrinho.item, String.toList_append]
    rfl
  have unit : (match l.item.id with
      | some id => ((estoque.get id).map Estoque.medida).getD ""
      | none => "un") = l.medida := by
    rw [LinhaCarrinho.item, LinhaCarrinho.medida]
    cases product : l.produto with
    | none => rfl
    | some linha => simp [row _ _ product]
  have size : l.medida.length = l.medida.toList.length := String.length_toList.symm
  simp only [ItemCarrinho.pedida]
  rw [unit, text, size, List.length_append, Nat.add_sub_cancel, List.take_left, Texto.valor_repr]

theorem desejada_append (itens : List ItemCarrinho) (l : LinhaCarrinho)
    (row : ∀ id e, l.produto = some (id, e) → estoque.get id = some e) (id : Nat) :
    desejada estoque (itens ++ [l.item]) id =
      desejada estoque itens id + if l.item.leva id then l.quantidade else 0 := by
  simp [desejada, pedida_linha l row]

theorem desejada_eraseIdx (itens : List ItemCarrinho) (index id : Nat) :
    desejada estoque (itens.eraseIdx index) id ≤ desejada estoque itens id :=
  ((itens.eraseIdx_sublist index).map _).sum_le_sum fun _ _ => Nat.zero_le _

theorem cabe_nil : Cabe estoque [] := by
  intro id wanted
  exact absurd wanted (by simp [desejada])

theorem cabe_eraseIdx {itens : List ItemCarrinho} (fits : Cabe estoque itens) (index : Nat) :
    Cabe estoque (itens.eraseIdx index) := by
  intro id wanted
  have fewer : desejada estoque (itens.eraseIdx index) id ≤ desejada estoque itens id :=
    desejada_eraseIdx itens index id
  obtain ⟨e, row, enough⟩ := fits id (wanted.trans_le fewer)
  have bound : (desejada estoque (itens.eraseIdx index) id : ℚ) ≤ desejada estoque itens id := by
    exact_mod_cast fewer
  exact ⟨e, row, bound.trans enough⟩

/-- A line that asks for no more than what the cart leaves of its products. -/
theorem cabe_append {itens : List ItemCarrinho} (fits : Cabe estoque itens) (l : LinhaCarrinho)
    (row : ∀ id e, l.produto = some (id, e) → estoque.get id = some e)
    (room : ∀ id, l.item.leva id = true → ∃ e, estoque.get id = some e ∧
      (desejada estoque itens id + l.quantidade : ℚ) ≤ e.quantidade) :
    Cabe estoque (itens ++ [l.item]) := by
  intro id wanted
  rw [desejada_append itens l row] at wanted ⊢
  by_cases takes : l.item.leva id = true
  · obtain ⟨e, present, enough⟩ := room id takes
    rw [if_pos takes, Nat.cast_add]
    exact ⟨e, present, enough⟩
  · rw [if_neg takes, Nat.add_zero] at wanted ⊢
    exact fits id wanted

end Linhas

section Texto

variable {c : Chat} {r : Nat} {chamaSe : String → Texto → Bool}
  {v : Option (List ItemCarrinho) × Table Estoque}

theorem poupa_verCarrinho : (verCarrinho c r).Calls Ato.PoupaCarrinho := by
  refine calls_bind ((calls_ask (Ato.ler c r)).mpr trivial) fun sessao => ?_
  dsimp only
  split
  · exact calls_bind (poupa_enviarVenda _) fun _ => calls_bind (poupa_atualizar rfl) fun _ => poupa_menu
  · exact poupa_resposta _

theorem get_achar {estoque : Table Estoque} {nome : Texto} {linha : Nat × Estoque}
    (found : achar chamaSe estoque nome = some linha) : estoque.get linha.1 = some linha.2 :=
  Table.mem_rows.mp (List.mem_of_find?_eq_some found)

/-- One text of the step: nothing changes, a line goes, or the line comes that was asked for. -/
theorem cesta_textoDeItens (texto : Texto) :
    Meets (cesta c r chamaSe) (textoDeItens c r texto) (fun _ v' => v' = v ∨
      (∃ itens index, v.1 = some itens ∧ v' = (some (itens.eraseIdx index), v.2)) ∨
      ∃ ids produto quantidade, pedido chamaSe v.2 texto = some (ids, quantidade) ∧
        (0 < quantidade → Disponivel v.2 ids quantidade) ∧
        (∀ id e, produto = some (id, e) → v.2.get id = some e) ∧
        (∀ l : LinhaCarrinho, l.produto = produto → ∀ id, l.item.leva id = true → id ∈ ids) ∧
        Ganhou produto quantidade v v') v := by
  have kept {p : Fluxo Unit} (calls : p.Calls Ato.PoupaCarrinho)
      {Q : Option (List ItemCarrinho) × Table Estoque → Prop} :
      Meets (cesta c r chamaSe) p (fun _ v' => v' = v ∨ Q v') v :=
    meets_mono (cesta_parada calls) fun _ _ same => .inl same
  rw [textoDeItens]
  split
  next => exact kept poupa_verCarrinho
  next notCart =>
    split
    next =>
      refine meets_mono (cesta_removerItem texto) fun _ w after => ?_
      rcases after with same | gone
      · exact .inl same
      · exact .inr (.inl gone)
    next notRemove =>
      split
      next combo =>
        refine meets_mono (cesta_adicionarCombo texto) fun _ w after => ?_
        rcases after with same | ⟨quantidade, number, enough, grown⟩
        · exact .inl same
        · refine .inr (.inr ⟨[6, 7], none, quantidade, ?_, fun positive => ⟨positive, ?_⟩, by simp,
            ?_, grown⟩)
          · rw [pedido, if_neg notCart, if_neg notRemove, if_pos combo, number]
            rfl
          · simpa [temParaCombo, Option.any_eq_true] using enough
          · intro l product id takes
            simpa [ItemCarrinho.leva, LinhaCarrinho.item, ItemCarrinho.isCombo, product] using takes
      next notCombo =>
        refine meets_mono (cesta_adicionarItem texto) fun _ w after => ?_
        rcases after with same | ⟨lido, id, produto, read, found, enough, grown⟩
        · exact .inl same
        · refine .inr (.inr ⟨[id], some (id, produto), _, ?_, fun positive => ⟨positive, ?_⟩, ?_,
            ?_, grown⟩)
          · rw [pedido, if_neg notCart, if_neg notRemove, if_neg notCombo, read]
            simp [found]
          · intro id' member
            obtain rfl := List.mem_singleton.mp member
            exact ⟨produto, get_achar found, enough⟩
          · intro id' e same
            obtain ⟨rfl, rfl⟩ := Prod.mk.inj (Option.some.inj same)
            exact get_achar found
          · intro l product id' takes
            have named : id = id' := by
              simpa [ItemCarrinho.leva, LinhaCarrinho.item, ItemCarrinho.isCombo, product] using takes
            simp [named]

end Texto

/-- Texts of the step one after the other; whatever else happens in between leaves the cart
and the stock alone. -/
inductive Digita (c : Chat) (r : Nat) (chamaSe : String → Texto → Bool) (estoque : Table Estoque)
    (permite : Texto → List ItemCarrinho → Prop) :
    List ItemCarrinho → List Texto → List ItemCarrinho → Prop
  | nil {itens : List ItemCarrinho} : Digita c r chamaSe estoque permite itens [] itens
  | cons {itens depois fim : List ItemCarrinho} {texto : Texto} {textos : List Texto} {m : Mundo}
    (cart : m.carrinho c r = some itens) (stock : m.db.estoque = estoque)
    (names : m.db.chamaSe = chamaSe)
    (allowed : permite texto itens)
    (after : ((textoDeItens c r texto).run Ato.exec m).2.carrinho c r = some depois)
    (rest : Digita c r chamaSe estoque permite depois textos fim) :
    Digita c r chamaSe estoque permite itens (texto :: textos) fim

section Corrida

variable {c : Chat} {r : Nat} {chamaSe : String → Texto → Bool} {estoque : Table Estoque}

theorem cabe_texto {m : Mundo} {texto : Texto} {itens depois : List ItemCarrinho}
    (cart : m.carrinho c r = some itens) (fits : Cabe m.db.estoque itens)
    (modest : Modesto m.db.chamaSe m.db.estoque texto itens)
    (after : ((textoDeItens c r texto).run Ato.exec m).2.carrinho c r = some depois) :
    Cabe m.db.estoque depois := by
  rcases run_cesta (m := m) (cesta_textoDeItens (c := c) (r := r) texto) with
    same | ⟨_, index, cart', gone⟩ | ⟨ids, produto, quantidade, asked, available, row, takes, grown⟩
  · have kept := congrArg Prod.fst same
    rw [after, cart, Option.some.injEq] at kept
    rw [kept]
    exact fits
  · have erased := congrArg Prod.fst gone
    obtain rfl := Option.some.inj (cart.symm.trans cart')
    rw [after, Option.some.injEq] at erased
    rw [erased]
    exact cabe_eraseIdx fits index
  · rcases grown with same | ⟨_, l, cart', product, quantity, grown⟩
    · have kept := congrArg Prod.fst same
      rw [after, cart, Option.some.injEq] at kept
      rw [kept]
      exact fits
    · have added := congrArg Prod.fst grown
      obtain rfl := Option.some.inj (cart.symm.trans cart')
      rw [after, Option.some.injEq] at added
      rw [added]
      apply cabe_append fits l (product ▸ row)
      intro id takes_id
      have wanted := available (quantity ▸ l.positiva)
      have asked_id := takes l product id takes_id
      obtain ⟨e, present, -⟩ := wanted.2 id asked_id
      rw [quantity]
      exact ⟨e, present, modest ids quantidade asked wanted id asked_id e present⟩

/-- A cart that fits stays within the stock while every text is modest. -/
theorem cabe_digita {itens fim : List ItemCarrinho} {textos : List Texto}
    (run : Digita c r chamaSe estoque (Modesto chamaSe estoque) itens textos fim) (fits : Cabe estoque itens) :
    Cabe estoque fim := by
  induction run with
  | nil => exact fits
  | cons cart stock names modest after rest ih =>
    subst stock names
    exact ih (cabe_texto cart fits modest after)

end Corrida

section Exemplo

/-- Names are compared without their case. -/
def semCaixaNoNome (nome : String) (texto : Texto) : Bool := Texto.toLowerCase nome.toList = texto

def umKiwi : Table Estoque := .ofList [⟨"Kiwi", 1, "un", 5⟩]

def linhaDeKiwi : ItemCarrinho := ⟨some 1, "Kiwi".toList, "1un".toList, 5, 5⟩

def pedirKiwi : Texto := "1un kiwi".toList

def lojaDeKiwi (itens : List ItemCarrinho) : Mundo where
  db := { estoque := umKiwi, precoPromocional := fun _ _ => some 5 }
  conversas := fun _ => { objetos := fun _ => { carrinho := some itens } }

theorem kiwi_cabe : Cabe umKiwi [linhaDeKiwi] := by
  have asked : pedido semCaixaNoNome umKiwi pedirKiwi = some ([1], 1) := by decide +kernel
  have modest : Modesto semCaixaNoNome umKiwi pedirKiwi [] := by
    intro ids quantidade same _ id member e row
    rw [asked, Option.some.injEq, Prod.mk.injEq] at same
    obtain ⟨rfl, rfl⟩ := same
    obtain rfl := List.mem_singleton.mp member
    rw [show umKiwi.get 1 = some ⟨"Kiwi", 1, "un", 5⟩ from rfl, Option.some.injEq] at row
    rw [← row]
    norm_num [desejada]
  have after : ((textoDeItens 7 0 pedirKiwi).run Ato.exec (lojaDeKiwi [])).2.carrinho 7 0 =
      some [linhaDeKiwi] := by
    decide +kernel
  exact cabe_digita (.cons (m := lojaDeKiwi []) rfl rfl rfl modest after .nil) cabe_nil

/-- Each of the two lines is tested against the one kiwi. -/
theorem dois_kiwis : ¬ ∀ textos fim, Digita 7 0 semCaixaNoNome umKiwi (fun _ _ => True) [] textos fim →
    Cabe umKiwi fim := by
  intro always
  have first : ((textoDeItens 7 0 pedirKiwi).run Ato.exec (lojaDeKiwi [])).2.carrinho 7 0 =
      some [linhaDeKiwi] := by
    decide +kernel
  have second : ((textoDeItens 7 0 pedirKiwi).run Ato.exec (lojaDeKiwi [linhaDeKiwi])).2.carrinho
      7 0 = some [linhaDeKiwi, linhaDeKiwi] := by
    decide +kernel
  have run : Digita 7 0 semCaixaNoNome umKiwi (fun _ _ => True) [] [pedirKiwi, pedirKiwi]
      [linhaDeKiwi, linhaDeKiwi] :=
    .cons (m := lojaDeKiwi []) rfl rfl rfl trivial first
      (.cons (m := lojaDeKiwi [linhaDeKiwi]) rfl rfl rfl trivial second .nil)
  have two : desejada umKiwi [linhaDeKiwi, linhaDeKiwi] 1 = 2 := by decide +kernel
  obtain ⟨e, row, enough⟩ := always _ _ run 1 (by rw [two]; decide)
  rw [show umKiwi.get 1 = some ⟨"Kiwi", 1, "un", 5⟩ from rfl, Option.some.injEq] at row
  rw [two, ← row] at enough
  norm_num at enough

end Exemplo
end IceClube
