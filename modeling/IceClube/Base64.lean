import Mathlib.Data.List.Basic
import Mathlib.Data.List.TakeWhile

/-! The base64 text of a list of bytes: three bytes are four numbers below 64, each written as a
character, and the text is filled up to a multiple of four with '='. Two readers invert it: the
one of `Buffer`, which skips what is not of the alphabet, and the one of a browser, which fails
on it. -/
namespace Base64

def symbol (n : Nat) : Char :=
  if n < 26 then Char.ofNat (65 + n)
  else if n < 52 then Char.ofNat (71 + n)
  else if n < 62 then Char.ofNat (n - 4)
  else if n = 62 then '+'
  else '/'

def value (c : Char) : Option Nat :=
  let n := c.toNat
  if 65 ≤ n ∧ n ≤ 90 then some (n - 65)
  else if 97 ≤ n ∧ n ≤ 122 then some (n - 71)
  else if 48 ≤ n ∧ n ≤ 57 then some (n + 4)
  else if c = '+' then some 62
  else if c = '/' then some 63
  else none

def valueOfBuffer (c : Char) : Option Nat :=
  if c = '-' then some 62 else if c = '_' then some 63 else value c

/-- The bytes in groups of six bits, the last group filled up with zeros. -/
def split : List UInt8 → List Nat
  | [] => []
  | [a] => [a.toNat / 4, a.toNat % 4 * 16]
  | [a, b] => [a.toNat / 4, a.toNat % 4 * 16 + b.toNat / 16, b.toNat % 16 * 4]
  | a :: b :: c :: rest =>
    a.toNat / 4 :: (a.toNat % 4 * 16 + b.toNat / 16) :: (b.toNat % 16 * 4 + c.toNat / 64) ::
      c.toNat % 64 :: split rest

def join : List Nat → List UInt8
  | a :: b :: c :: d :: rest =>
    .ofNat (a * 4 + b / 16) :: .ofNat (b % 16 * 16 + c / 4) :: .ofNat (c % 4 * 64 + d) :: join rest
  | [a, b, c] => [.ofNat (a * 4 + b / 16), .ofNat (b % 16 * 16 + c / 4)]
  | [a, b] => [.ofNat (a * 4 + b / 16)]
  | _ => []

def padding (bytes : List UInt8) : Nat := (3 - bytes.length % 3) % 3

def encode (bytes : List UInt8) : List Char :=
  (split bytes).map symbol ++ List.replicate (padding bytes) '='

/-- `Buffer.from(text, 'base64')`: what is not of the alphabet is skipped, '=' ends the text. -/
def decode (text : List Char) : List UInt8 :=
  join ((text.takeWhile (· ≠ '=')).filterMap valueOfBuffer)

def whitespace (c : Char) : Bool := c = ' ' || c = '\t' || c = '\n' || c = '\r' || c.toNat = 12

def unpad (text : List Char) : List Char :=
  match text.reverse with
  | '=' :: '=' :: rest | '=' :: rest => rest.reverse
  | _ => text

def forgiving (text : List Char) : Option (List UInt8) :=
  let kept := text.filter (!whitespace ·)
  let data := if kept.length % 4 = 0 then unpad kept else kept
  if data.length % 4 = 1 ∨ !data.all fun c => (value c).isSome then none
  else some (join (data.filterMap value))

section Symbols

theorem symbol_spec : ∀ n : Fin 64, value (symbol n) = some n.val ∧
    valueOfBuffer (symbol n) = some n.val ∧ symbol n ≠ '=' ∧ whitespace (symbol n) = false := by
  decide

variable {numbers : List Nat} (small : ∀ n ∈ numbers, n < 64)

include small

theorem symbols_value : (numbers.map symbol).filterMap value = numbers := by
  induction numbers with
  | nil => rfl
  | cons n rest ih =>
    rw [List.forall_mem_cons] at small
    simp [(symbol_spec ⟨n, small.1⟩).1, ih small.2]

theorem symbols_valueOfBuffer : (numbers.map symbol).filterMap valueOfBuffer = numbers := by
  induction numbers with
  | nil => rfl
  | cons n rest ih =>
    rw [List.forall_mem_cons] at small
    simp [(symbol_spec ⟨n, small.1⟩).2.1, ih small.2]

theorem mem_symbols {c : Char} (member : c ∈ numbers.map symbol) :
    (value c).isSome = true ∧ c ≠ '=' ∧ whitespace c = false := by
  obtain ⟨n, own, rfl⟩ := List.mem_map.mp member
  obtain ⟨read, -, other, plain⟩ := symbol_spec ⟨n, small n own⟩
  exact ⟨by rw [read]; rfl, other, plain⟩

end Symbols

section Groups

theorem split_small (bytes : List UInt8) : ∀ n ∈ split bytes, n < 64 := by
  induction bytes using split.induct with
  | case1 => simp [split]
  | case2 a =>
    have := a.toNat_lt
    simp [split]
    omega
  | case3 a b =>
    have := a.toNat_lt
    have := b.toNat_lt
    simp [split]
    omega
  | case4 a b c rest ih =>
    have := a.toNat_lt
    have := b.toNat_lt
    have := c.toNat_lt
    simp only [split, List.forall_mem_cons]
    exact ⟨by omega, by omega, by omega, by omega, ih⟩

theorem ofNat_eq {n : Nat} {a : UInt8} (same : n = a.toNat) : UInt8.ofNat n = a := by
  rw [same, UInt8.ofNat_toNat]

theorem join_split (bytes : List UInt8) : join (split bytes) = bytes := by
  induction bytes using split.induct with
  | case1 => rfl
  | case2 a =>
    simp only [split, join]
    rw [ofNat_eq (a := a) (by omega)]
  | case3 a b =>
    have := b.toNat_lt
    simp only [split, join]
    rw [ofNat_eq (a := a) (by omega), ofNat_eq (a := b) (by omega)]
  | case4 a b c rest ih =>
    have := b.toNat_lt
    have := c.toNat_lt
    simp only [split, join, ih]
    rw [ofNat_eq (a := a) (by omega), ofNat_eq (a := b) (by omega), ofNat_eq (a := c) (by omega)]

theorem length_split (bytes : List UInt8) :
    (split bytes).length + padding bytes = 4 * ((bytes.length + 2) / 3) := by
  induction bytes using split.induct with
  | case1 => rfl
  | case2 | case3 => simp [split, padding]
  | case4 a b c rest ih =>
    simp only [split, padding, List.length_cons] at ih ⊢
    omega

end Groups

section RoundTrip

variable (bytes : List UInt8)

theorem decode_encode : decode (encode bytes) = bytes := by
  have small := split_small bytes
  have front : (encode bytes).takeWhile (· ≠ '=') = (split bytes).map symbol := by
    rw [encode, List.takeWhile_append_of_pos fun c member => by
      simpa using (mem_symbols small member).2.1]
    cases padding bytes <;> simp [List.replicate_succ]
  rw [decode, front, symbols_valueOfBuffer small, join_split]

theorem length_encode : (encode bytes).length = 4 * ((bytes.length + 2) / 3) := by
  rw [encode, List.length_append, List.length_map, List.length_replicate, length_split]

theorem encode_eq_nil : encode bytes = [] ↔ bytes = [] := by
  rw [← List.length_eq_zero_iff, length_encode, ← List.length_eq_zero_iff]
  omega

theorem mem_encode {c : Char} (member : c ∈ encode bytes) :
    ((value c).isSome = true ∨ c = '=') ∧ whitespace c = false := by
  rcases List.mem_append.mp member with symbol | pad
  · obtain ⟨read, -, plain⟩ := mem_symbols (split_small bytes) symbol
    exact ⟨.inl read, plain⟩
  · obtain rfl := List.eq_of_mem_replicate pad
    exact ⟨.inr rfl, rfl⟩

theorem unpad_replicate {text : List Char} (data : ∀ c ∈ text, c ≠ '=') {n : Nat} (few : n ≤ 2) :
    unpad (text ++ List.replicate n '=') = text := by
  have last : ∀ rest, text.reverse ≠ '=' :: rest := fun rest same =>
    data '=' (by rw [← List.mem_reverse, same]; exact List.mem_cons_self) rfl
  rw [unpad, List.reverse_append, List.reverse_replicate]
  match n, few with
  | 0, _ =>
    simp only [List.replicate_zero, List.nil_append, List.append_nil]
    split
    next same => exact absurd same (last _)
    next same => exact absurd same (last _)
    next => rfl
  | 1, _ =>
    simp only [List.replicate_one, List.cons_append, List.nil_append, List.reverse_reverse]
  | 2, _ =>
    simp only [List.replicate_succ, List.replicate_zero, List.cons_append, List.nil_append,
      List.reverse_reverse]

theorem forgiving_encode : forgiving (encode bytes) = some bytes := by
  have small := split_small bytes
  have kept : (encode bytes).filter (!whitespace ·) = encode bytes := by
    rw [List.filter_eq_self]
    intro c member
    simp [(mem_encode bytes member).2]
  have front : unpad (encode bytes) = (split bytes).map symbol :=
    unpad_replicate (fun c member => (mem_symbols small member).2.1) (by unfold padding; omega)
  have whole : (encode bytes).length % 4 = 0 := by
    rw [length_encode]
    omega
  have groups : (split bytes).length % 4 ≠ 1 := by
    have := length_split bytes
    have : padding bytes ≤ 2 := by unfold padding; omega
    omega
  have read : ((split bytes).map symbol).all (fun c => (value c).isSome) = true := by
    rw [List.all_eq_true]
    exact fun c member => (mem_symbols small member).1
  simp only [forgiving, kept, whole, if_true, front, List.length_map, groups, read, Bool.not_true,
    Bool.false_eq_true, or_self, if_false, symbols_value small, join_split]

end RoundTrip
end Base64
