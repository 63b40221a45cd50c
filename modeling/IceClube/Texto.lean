import Mathlib.Algebra.Order.Ring.Rat
import IceClube.CaseMapping
import IceClube.Double

/-! The JavaScript text functions that the bot applies to what a chat sends. A received
text is its list of characters. -/
namespace IceClube

abbrev Texto := List Char

/-- The characters that `.` does not match. -/
def fimDeLinha (c : Char) : Bool :=
  c = '\n' || c = '\r' || c = Char.ofNat 0x2028 || c = Char.ofNat 0x2029

/-- `\s` of a regular expression, which is also what `trim` takes away. -/
def espaco (c : Char) : Bool :=
  (9 ≤ c.toNat && c.toNat ≤ 13) || (0x2000 ≤ c.toNat && c.toNat ≤ 0x200a) ||
    c.toNat ∈ [0x20, 0xa0, 0x1680, 0x2028, 0x2029, 0x202f, 0x205f, 0x3000, 0xfeff]

/-- A run of characters of a kind ends where the next one is of another. -/
theorem span_exato {p : Char → Bool} (inicio resto : Texto) (dentro : ∀ c ∈ inicio, p c = true)
    (fora : ∀ c, resto.head? = some c → p c = false) :
    (inicio ++ resto).takeWhile p = inicio ∧ (inicio ++ resto).dropWhile p = resto := by
  have stop : resto.takeWhile p = [] ∧ resto.dropWhile p = resto := by
    cases resto with
    | nil => exact ⟨rfl, rfl⟩
    | cons c resto => simp [fora c rfl]
  rw [List.takeWhile_append_of_pos dentro, List.dropWhile_append_of_pos dentro, stop.1, stop.2,
    List.append_nil]
  exact ⟨rfl, rfl⟩

namespace Texto

def toLowerCase (texto : Texto) : Texto := CaseMapping.lowerCase texto

def toUpperCase (texto : Texto) : Texto := texto.flatMap CaseMapping.upper

def trim (texto : Texto) : Texto :=
  ((texto.dropWhile espaco).reverse.dropWhile espaco).reverse

def startsWith (texto prefixo : Texto) : Bool := prefixo.isPrefixOf texto

/-- `split('_')`. -/
def split : Texto → List Texto
  | [] => [[]]
  | c :: resto =>
    match split resto with
    | [] => [[]]
    | parte :: partes => if c = '_' then [] :: parte :: partes else (c :: parte) :: partes

/-- `replace(padrao, '')` of the first occurrence of a text. -/
def remover (padrao : Texto) : Texto → Texto
  | [] => []
  | c :: resto =>
    if padrao.isPrefixOf (c :: resto) then (c :: resto).drop padrao.length
    else c :: remover padrao resto

/-- `replace(/\D/g, '')`. -/
def digitos (texto : Texto) : Texto := texto.filter Char.isDigit

/-- `replace(/[^0-9.]/g, '')`. -/
def digitosEPontos (texto : Texto) : Texto := texto.filter fun c => c.isDigit || c = '.'

def valor (digitos : Texto) : Nat := digitos.foldl (fun n c => 10 * n + (c.toNat - 48)) 0

/-- `parseFloat` of a text of digits and points: digits, then at most one fraction. -/
def parseFloat (texto : Texto) : Option ℚ :=
  let inteiro := texto.takeWhile Char.isDigit
  let resto := texto.dropWhile Char.isDigit
  let fracao :=
    match resto with
    | '.' :: depois => depois.takeWhile Char.isDigit
    | _ => []
  if inteiro = [] ∧ fracao = [] then none
  else some (valor inteiro + (valor fracao : ℚ) / 10 ^ fracao.length)

/-- The exponent at the head of a text; zero where there is none. -/
def expoente : Texto → ℤ
  | c :: resto =>
    if c = 'e' ∨ c = 'E' then
      match resto with
      | '-' :: digitos => -(valor (digitos.takeWhile Char.isDigit) : ℤ)
      | '+' :: digitos => valor (digitos.takeWhile Char.isDigit)
      | digitos => valor (digitos.takeWhile Char.isDigit)
    else 0
  | [] => 0

def aposNumero (texto : Texto) : Texto :=
  match texto.dropWhile Char.isDigit with
  | '.' :: depois => depois.dropWhile Char.isDigit
  | resto => resto

/-- `parseFloat` of a text without leading space that holds a finite number, if any: a sign, a
number as above and an exponent. -/
def numero (texto : Texto) : Option ℚ :=
  let semSinal (t : Texto) := (parseFloat t).map fun n => n * 10 ^ expoente (aposNumero t)
  match texto with
  | '-' :: t => (semSinal t).map fun n => -n
  | '+' :: t => semSinal t
  | t => semSinal t

/-- `parseFloat`; `none` is NaN, and an infinite number is the one that stands for it. -/
def parseDouble (texto : Texto) : Option ℚ :=
  let t := texto.dropWhile espaco
  if "-Infinity".toList.isPrefixOf t then some (-Double.infinity)
  else if "Infinity".toList.isPrefixOf t ∨ "+Infinity".toList.isPrefixOf t then
    some Double.infinity
  else (numero t).map Double.nearest

def palavra (c : Char) : Bool := c.isAlphanum || c = '_'

theorem palavra_digito {c : Char} (digit : c.isDigit = true) : palavra c = true := by
  have word : c.isAlphanum = (c.isAlpha || c.isDigit) := rfl
  rw [palavra, word, digit, Bool.or_true, Bool.true_or]

theorem espaco_palavra {c : Char} (word : palavra c = true) : espaco c = false := by
  have ranges : palavra c = ((decide (65 ≤ c.val ∧ c.val ≤ 90) || 97 ≤ c.val && c.val ≤ 122) ||
      48 ≤ c.val && c.val ≤ 57 || c = '_') := rfl
  simp only [ranges, Bool.or_eq_true, Bool.and_eq_true, decide_eq_true_eq,
    UInt32.le_iff_toNat_le, Char.ext_iff, ← UInt32.toNat_inj, Char.reduceVal,
    UInt32.reduceToNat] at word
  simp only [espaco, Char.toNat, Bool.or_eq_false_iff, Bool.and_eq_false_iff,
    decide_eq_false_iff_not, List.mem_cons, List.not_mem_nil, or_false]
  omega

/-- `match(/(\d+\w*)\s+(.+)/)`: the quantity and the name of an item. -/
def item : Texto → Option (Texto × Texto)
  | [] => none
  | c :: resto =>
    let quantidade := (c :: resto).takeWhile palavra
    let depois := (c :: resto).dropWhile palavra
    let nome := (depois.dropWhile espaco).takeWhile fun c => !fimDeLinha c
    if c.isDigit ∧ depois.head?.any espaco ∧ nome ≠ [] then some (quantidade, nome)
    else item resto

/-- `match(/(\d+)/)`: the first run of digits. -/
def primeiroNumero (texto : Texto) : Option Nat :=
  let digitos := (texto.dropWhile fun c => !c.isDigit).takeWhile Char.isDigit
  if digitos = [] then none else some (valor digitos)

end Texto

/-- `toFixed(2)`. -/
def toFixed2 (q : ℚ) : String :=
  let centavos := (|q| * 100 + 1 / 2).floor.toNat
  let sinal := if q < 0 then "-" else ""
  s!"{sinal}{centavos / 100}.{centavos / 10 % 10}{centavos % 10}"

/-- Decimal digits of a remainder, at most `casas` of them. -/
def digitos (den : Nat) : Nat → Nat → String
  | 0, _ => ""
  | casas + 1, resto =>
    if resto = 0 then "" else toString (resto * 10 / den) ++ digitos den casas (resto * 10 % den)

def textoNumero (q : ℚ) : String :=
  let sinal := if q < 0 then "-" else ""
  let inteiro := sinal ++ toString (q.num.natAbs / q.den)
  if q.den = 1 then inteiro else inteiro ++ "." ++ digitos q.den 15 (q.num.natAbs % q.den)

/-- A row identifier as it reaches a statement: `parseInt` may give NaN, which MySQL
rejects, and a missing value is NULL, which equals nothing. -/
inductive IdSql where
  | nulo
  | nan
  | num (n : Nat)
  deriving DecidableEq, Repr

def valorHexa (digitos : Texto) : Nat :=
  digitos.foldl (fun n c =>
    16 * n + if c.isDigit then c.toNat - 48 else c.toLower.toNat - 87) 0

def hexa (c : Char) : Bool := c.isDigit || ('a' ≤ c.toLower && c.toLower ≤ 'f')

/-- `parseInt` of digits, decimal or after `0x`. -/
def parseNat (texto : Texto) : Option Nat :=
  let base16 (resto : Texto) :=
    let digitos := resto.takeWhile hexa
    if digitos = [] then none else some (valorHexa digitos)
  match texto with
  | '0' :: 'x' :: resto => base16 resto
  | '0' :: 'X' :: resto => base16 resto
  | _ =>
    let digitos := texto.takeWhile Char.isDigit
    if digitos = [] then none else some (Texto.valor digitos)

/-- `parseInt` of a part of the data of a button. Identifiers start at one, so a negative
number is as good as zero. -/
def parseInt (texto : Option Texto) : IdSql :=
  match texto.map fun t => t.dropWhile espaco with
  | none => .nan
  | some ('-' :: resto) => if (parseNat resto).isSome then .num 0 else .nan
  | some ('+' :: resto) => ((parseNat resto).map IdSql.num).getD .nan
  | some resto => ((parseNat resto).map IdSql.num).getD .nan

end IceClube
