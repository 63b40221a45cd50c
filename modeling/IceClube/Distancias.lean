import Mathlib.Tactic.IntervalCases
import IceClube.Greedy
import IceClube.Organizar
import IceClube.Quantidade

/-! The distances that the route compares: what the API shows and what `concluir_edicao` reads. -/
namespace IceClube

section Leitura

def tresDigitos (n : Nat) : Texto :=
  [Nat.digitChar (n / 100 % 10), Nat.digitChar (n / 10 % 10), Nat.digitChar (n % 10)]

def comVirgulas (n : Nat) : Texto :=
  if n < 1000 then (toString n).toList else comVirgulas (n / 1000) ++ ',' :: tresDigitos (n % 1000)

/-- A distance as the API shows it: in metres, or in kilometres with the digits behind the point,
if there are any. -/
inductive DistanciaMetrica where
  | m (n : Nat)
  | km (inteiro : Nat) (decimais : List (Fin 10))
  deriving DecidableEq, Repr

def digitosDe (decimais : List (Fin 10)) : Texto := decimais.map fun d => Nat.digitChar d.val

def fracao (F : Texto) : Texto := if F = [] then [] else '.' :: F

namespace DistanciaMetrica

def texto : DistanciaMetrica → Texto
  | m n => comVirgulas n ++ " m".toList
  | km inteiro decimais => comVirgulas inteiro ++ fracao (digitosDe decimais) ++ " km".toList

def numero : DistanciaMetrica → ℚ
  | m n => n
  | km inteiro decimais =>
    inteiro + (Texto.valor (digitosDe decimais) : ℚ) / 10 ^ (digitosDe decimais).length

end DistanciaMetrica

theorem digitChar_isDigit {n : Nat} (digit : n < 10) : (Nat.digitChar n).isDigit = true := by
  interval_cases n <;> rfl

theorem valor_tresDigitos {n : Nat} (small : n < 1000) : Texto.valor (tresDigitos n) = n := by
  have digit (k : Nat) : (Nat.digitChar (k % 10)).toNat - 48 = k % 10 := by
    have bound : k % 10 < 10 := Nat.mod_lt _ (by decide)
    generalize k % 10 = d at bound
    interval_cases d <;> rfl
  simp only [tresDigitos, Texto.valor, List.foldl_cons, List.foldl_nil, digit]
  omega

theorem tresDigitos_isDigit (n : Nat) : ∀ c ∈ tresDigitos n, c.isDigit = true := by
  simp only [tresDigitos, List.mem_cons, List.not_mem_nil, or_false]
  rintro c (rfl | rfl | rfl) <;> exact digitChar_isDigit (Nat.mod_lt _ (by decide))

theorem digitosDe_isDigit (decimais : List (Fin 10)) : ∀ c ∈ digitosDe decimais, c.isDigit = true := by
  intro c member
  obtain ⟨d, _, rfl⟩ := List.mem_map.mp member
  exact digitChar_isDigit d.isLt

theorem semVirgula_of_isDigit {D : Texto} (digitos : ∀ c ∈ D, c.isDigit = true) :
    D.filter (· ≠ ',') = D := by
  apply List.filter_eq_self.mpr
  intro c member
  have digit := digitos c member
  by_contra comma
  obtain rfl : c = ',' := by simpa using comma
  cases digit

/-- Without its commas a number is digits again, and the same number. -/
theorem comVirgulas_lido (n : Nat) :
    ∃ D, (comVirgulas n).filter (· ≠ ',') = D ∧ D ≠ [] ∧ (∀ c ∈ D, c.isDigit = true) ∧
      Texto.valor D = n := by
  induction n using Nat.strongRecOn with
  | ind n ih =>
    rw [comVirgulas]
    split
    next small =>
      refine ⟨_, semVirgula_of_isDigit (digitos_repr n), fun empty => ?_, digitos_repr n,
        Texto.valor_repr n⟩
      rw [Nat.toString_eq_repr, Nat.toList_repr] at empty
      exact Nat.toDigits_ne_nil empty
    next large =>
      obtain ⟨D, read, some_digit, digitos, valor⟩ := ih (n / 1000) (by omega)
      have three := tresDigitos_isDigit (n % 1000)
      refine ⟨D ++ tresDigitos (n % 1000), ?_, by simp [some_digit], ?_, ?_⟩
      · rw [List.filter_append, read, List.filter_cons_of_neg (by simp), semVirgula_of_isDigit three]
      · exact List.forall_mem_append.mpr ⟨digitos, three⟩
      · rw [Texto.valor_append, valor, valor_tresDigitos (Nat.mod_lt _ (by decide)),
          show (tresDigitos (n % 1000)).length = 3 from rfl]
        omega

/-- Behind the digits a text goes on with the point or the unit. -/
theorem head_fracao {F unidade : Texto} (unit : unidade = [] ∨ unidade = " m".toList) (c : Char)
    (first : (fracao F ++ unidade).head? = some c) : c.isDigit = false := by
  rcases unit with rfl | rfl <;> cases F <;> simp [fracao] at first <;> subst first <;> rfl

/-- The number is read up to the unit. -/
theorem numero_lido {D F unidade : Texto} (some_digit : D ≠ [])
    (digitos : ∀ c ∈ D, c.isDigit = true) (decimais : ∀ c ∈ F, c.isDigit = true)
    (unit : unidade = [] ∨ unidade = " m".toList) :
    Texto.numero (D ++ (fracao F ++ unidade)) =
      some (Texto.valor D + (Texto.valor F : ℚ) / 10 ^ F.length) := by
  obtain ⟨inteiro, depois⟩ := span_exato D (fracao F ++ unidade) digitos (head_fracao unit)
  have fora (c : Char) (first : unidade.head? = some c) : c.isDigit = false :=
    head_fracao (F := []) unit c first
  obtain ⟨parte, resto⟩ := span_exato F unidade decimais fora
  have read : Texto.parseFloat (D ++ (fracao F ++ unidade)) =
      some (Texto.valor D + (Texto.valor F : ℚ) / 10 ^ F.length) := by
    rw [Texto.parseFloat, inteiro, depois]
    cases F with
    | nil => rcases unit with rfl | rfl <;> simp [fracao, some_digit, Texto.valor]
    | cons f F =>
      have point : fracao (f :: F) ++ unidade = '.' :: (f :: F ++ unidade) := rfl
      simp only [point, parte, some_digit, false_and, if_false]
  have after : Texto.aposNumero (D ++ (fracao F ++ unidade)) = unidade := by
    rw [Texto.aposNumero, depois]
    cases F with
    | nil => rcases unit with rfl | rfl <;> rfl
    | cons f F => exact resto
  have exponent : Texto.expoente unidade = 0 := by
    rcases unit with rfl | rfl <;> rfl
  obtain ⟨d, D, rfl⟩ := List.exists_cons_of_ne_nil some_digit
  have digit := digitos d List.mem_cons_self
  have unsigned (sinal : Char) (other : sinal.isDigit = false) (t : Texto) :
      d :: D ++ (fracao F ++ unidade) ≠ sinal :: t := by
    rintro same
    rw [List.cons_append, List.cons.injEq] at same
    rw [same.1, other] at digit
    cases digit
  rw [Texto.numero]
  · beta_reduce
    rw [read, after, exponent, zpow_zero, Option.map_some, mul_one]
  · exact unsigned '-' rfl
  · exact unsigned '+' rfl

/-- The unit is removed where it is the one that `replace` looks for. -/
theorem remover_km {A : Texto} (gapless : ' ' ∉ A) :
    Texto.remover " km".toList (A ++ " km".toList) = A ∧
      Texto.remover " km".toList (A ++ " m".toList) = A ++ " m".toList := by
  induction A with
  | nil => decide +kernel
  | cons a A ih =>
    obtain ⟨first, rest⟩ := not_or.mp (List.mem_cons.not.mp gapless)
    have other (x : Texto) : " km".toList.isPrefixOf (a :: x) = false := by
      have apart : (' ' == a) = false := by simpa using first
      simp [List.isPrefixOf, apart]
    simp only [List.cons_append, Texto.remover, other, Bool.false_eq_true, if_false, ih rest, true_and]

theorem espaco_digito {c : Char} (digit : c.isDigit = true) : espaco c = false :=
  Texto.espaco_palavra (Texto.palavra_digito digit)

/-- What is left of a text of these forms once commas and unit are removed is read, as a double. -/
theorem distanciaLida_eq {t D F unidade : Texto} (some_digit : D ≠ [])
    (digitos : ∀ c ∈ D, c.isDigit = true) (decimais : ∀ c ∈ F, c.isDigit = true)
    (unit : unidade = [] ∨ unidade = " m".toList)
    (clean : Texto.remover " km".toList (t.filter (· ≠ ',')) = D ++ (fracao F ++ unidade)) :
    distanciaLida t =
      some (Double.nearest (Texto.valor D + (Texto.valor F : ℚ) / 10 ^ F.length)) := by
  have read := numero_lido some_digit digitos decimais unit
  obtain ⟨d, D, rfl⟩ := List.exists_cons_of_ne_nil some_digit
  have digit := digitos d List.mem_cons_self
  have other (first : Char) (letter : first.isDigit = false) : (first == d) = false := by
    rw [beq_eq_false_iff_ne]
    rintro rfl
    rw [letter] at digit
    cases digit
  rw [distanciaLida, clean, List.cons_append] at *
  rw [Texto.parseDouble, List.dropWhile_cons_of_neg (by simp [espaco_digito digit])]
  simp only [String.reduceToList, List.isPrefixOf, other '-' rfl, other 'I' rfl, other '+' rfl,
    Bool.false_and, Bool.false_eq_true, or_self, if_false, read, Option.map_some]

theorem distanceValue_lida {t D F unidade : Texto} (some_digit : D ≠ [])
    (digitos : ∀ c ∈ D, c.isDigit = true) (decimais : ∀ c ∈ F, c.isDigit = true)
    (unit : unidade = [] ∨ unidade = " m".toList)
    (clean : Texto.remover " km".toList (t.filter (· ≠ ',')) = D ++ (fracao F ++ unidade)) :
    (distanceValue (some t)).getD Double.infinity =
      Double.nearest (Texto.valor D + (Texto.valor F : ℚ) / 10 ^ F.length) := by
  have answered : t ≠ "N/A".toList := by
    rintro rfl
    obtain ⟨d, D, rfl⟩ := List.exists_cons_of_ne_nil some_digit
    have first : some 'N' = some d := congrArg List.head? clean
    have digit := digitos d List.mem_cons_self
    rw [← Option.some.inj first] at digit
    cases digit
  rw [distanceValue]
  simp only [if_neg answered, distanciaLida_eq some_digit digitos decimais unit clean,
    Option.getD_some]
  split
  next infinite => exact infinite.symm
  next => rfl

theorem semEspaco {D F : Texto} (digitos : ∀ c ∈ D, c.isDigit = true)
    (decimais : ∀ c ∈ F, c.isDigit = true) : ' ' ∉ D ++ fracao F := by
  have apart {A : Texto} (digits : ∀ c ∈ A, c.isDigit = true) : ' ' ∉ A := fun member =>
    absurd (digits ' ' member) (by decide)
  rw [List.mem_append, not_or]
  refine ⟨apart digitos, ?_⟩
  cases F with
  | nil => exact List.not_mem_nil
  | cons f F => exact List.not_mem_cons_of_ne_of_not_mem (by decide) (apart decimais)

theorem semVirgula_fracao {F : Texto} (decimais : ∀ c ∈ F, c.isDigit = true) :
    (fracao F).filter (· ≠ ',') = fracao F := by
  cases F with
  | nil => rfl
  | cons f F =>
    rw [show fracao (f :: F) = '.' :: f :: F from rfl, List.filter_cons_of_pos (by decide),
      semVirgula_of_isDigit decimais]

namespace DistanciaMetrica

def lido (a : DistanciaMetrica) : ℚ := (distanceValue (some a.texto)).getD Double.infinity

/-- It is the number in front of the unit as a double, whatever the unit is. -/
theorem lido_eq (a : DistanciaMetrica) : a.lido = Double.nearest a.numero := by
  cases a with
  | m n =>
    obtain ⟨D, read, some_digit, digitos, valor⟩ := comVirgulas_lido n
    have clean : Texto.remover " km".toList ((m n).texto.filter (· ≠ ',')) =
        D ++ (fracao [] ++ " m".toList) := by
      rw [texto, List.filter_append, read]
      exact (remover_km (by simpa [fracao] using semEspaco (F := []) digitos (by simp))).2
    rw [lido, distanceValue_lida some_digit digitos (by simp) (.inr rfl) clean, valor]
    simp [numero, Texto.valor]
  | km inteiro decimais =>
    obtain ⟨D, read, some_digit, digitos, valor⟩ := comVirgulas_lido inteiro
    have digits := digitosDe_isDigit decimais
    have clean : Texto.remover " km".toList ((km inteiro decimais).texto.filter (· ≠ ',')) =
        D ++ (fracao (digitosDe decimais) ++ []) := by
      rw [texto, List.filter_append, List.filter_append, read, semVirgula_fracao digits,
        List.append_nil]
      exact (remover_km (semEspaco digitos digits)).1
    rw [lido, distanceValue_lida some_digit digitos digits (.inl rfl) clean, valor]
    rfl

end DistanciaMetrica

end Leitura

section Comparacao

open Greedy

namespace DistanciaMetrica

theorem numero_nonneg (a : DistanciaMetrica) : 0 ≤ a.numero := by
  cases a with
  | m n => exact n.cast_nonneg
  | km inteiro decimais =>
    rw [numero]
    positivity

/-- Numbers of one decimal at most and below 2^49 are told apart. -/
theorem lido_lt {a b : DistanciaMetrica} {j k : ℕ} (tenths : a.numero = j / 10)
    (tenths' : b.numero = k / 10) (short : b.numero < 2 ^ (49 : ℤ)) (less : a.numero < b.numero) :
    a.lido < b.lido := by
  have apart : j + 1 ≤ k := by
    rw [tenths, tenths', div_lt_div_iff_of_pos_right (by norm_num)] at less
    exact_mod_cast less
  have step : (j : ℚ) + 1 ≤ k := by exact_mod_cast apart
  rw [lido_eq, lido_eq]
  refine Double.nearest_lt_of_gap a.numero_nonneg short (by norm_num) (by norm_num) ?_
  rw [tenths, tenths']
  norm_num
  linarith

end DistanciaMetrica

end Comparacao
end IceClube
