import IceClube.Elision
import Mathlib.Data.List.Nodup

/-! The bar of page numbers on the pages of the stock and of the postings (`renderPagination`). -/
namespace IceClube.Paginacao

open Elision

def maxPagesToShow : Int := 5

def itemsPerPage : Int := 10

def startPage (currentPage : Int) : Int := max 1 (currentPage - maxPagesToShow / 2)

def endPage (currentPage totalPages : Int) : Int :=
  min totalPages (startPage currentPage + maxPagesToShow - 1)

/-- `startPage`, corrected where `endPage` is cut off. -/
def adjustedStartPage (currentPage totalPages : Int) : Int :=
  max 1 (endPage currentPage totalPages - maxPagesToShow + 1)

def primeiras (adjusted : Int) : List Link :=
  if 1 < adjusted then .number 1 :: if 2 < adjusted then [.gap] else [] else []

def ultimas (last totalPages : Int) : List Link :=
  if last < totalPages then (if last < totalPages - 1 then [.gap] else []) ++ [.number totalPages]
  else []

/-- The list `pages`; its window is the loop from `adjustedStartPage` to `endPage`. -/
def pages (currentPage totalPages : Int) : List Link :=
  let adjusted := adjustedStartPage currentPage totalPages
  let last := endPage currentPage totalPages
  primeiras adjusted ++ (Int.range adjusted (last + 1)).map .number ++ ultimas last totalPages

/-- An item of the list that is drawn; a link knows whether it is the current page. -/
inductive Item where
  | reticencias
  | link (page : Int) (isCurrent : Bool)
deriving DecidableEq, Repr

structure Barra where
  de : Int
  ate : Int
  total : Int
  anteriorDisabled : Bool
  proximoDisabled : Bool
  lista : List Item
deriving DecidableEq, Repr

def item (currentPage : Int) : Link → Item
  | .gap => .reticencias
  | .number page => .link page (page = currentPage)

def renderPagination (currentPage totalPages total : Int) : Barra where
  de := (currentPage - 1) * itemsPerPage + 1
  ate := min (currentPage * itemsPerPage) total
  total := total
  anteriorDisabled := currentPage = 1
  proximoDisabled := currentPage = totalPages
  lista := (pages currentPage totalPages).map (item currentPage)

section Numeros

def numeros (currentPage totalPages : Int) : List Int :=
  let adjusted := adjustedStartPage currentPage totalPages
  let last := endPage currentPage totalPages
  (if 1 < adjusted then [1] else []) ++ Int.range adjusted (last + 1) ++
    if last < totalPages then [totalPages] else []

/-- What the two corrections leave of the window: five pages, or all, around the current one. -/
structure Janela (currentPage totalPages first last : Int) : Prop where
  primeira : 1 ≤ first
  ultima : last ≤ totalPages
  antes : first ≤ currentPage
  depois : currentPage ≤ last
  tamanho : last + 1 = first + min 5 totalPages
  vizinhas : ∀ p, 1 ≤ p → p ≤ totalPages → currentPage - 2 ≤ p → p ≤ currentPage + 2 →
    first ≤ p ∧ p ≤ last

variable {currentPage totalPages first last : Int}

theorem janela (one : 1 ≤ currentPage) (le : currentPage ≤ totalPages) :
    Janela currentPage totalPages (adjustedStartPage currentPage totalPages)
      (endPage currentPage totalPages) := by
  constructor <;> simp only [adjustedStartPage, endPage, startPage, maxPagesToShow] <;> omega

theorem Janela.naoVazia (j : Janela currentPage totalPages first last) : first < last + 1 :=
  Int.lt_add_one_iff.mpr (j.antes.trans j.depois)

theorem elide_primeiras (j : Janela currentPage totalPages first last) :
    elide ((if 1 < first then [1] else []) ++ Int.range first (last + 1)) =
      primeiras first ++ (Int.range first (last + 1)).map .number := by
  rw [primeiras]
  split
  · rw [elide_append (List.cons_ne_nil _ _) (range_ne_nil j.naoVazia), head_range j.naoVazia,
      elide_range, between]
    simp only [List.getLast_singleton, show (1 : Int) + 1 < first ↔ 2 < first by omega]
    rfl
  · exact elide_range first (last + 1)

theorem elide_ultimas (j : Janela currentPage totalPages first last) (antes : List Int) :
    elide (antes ++ Int.range first (last + 1) ++ if last < totalPages then [totalPages] else []) =
      elide (antes ++ Int.range first (last + 1)) ++ ultimas last totalPages := by
  have some_page := range_ne_nil j.naoVazia
  rw [ultimas]
  split
  · rw [elide_append (List.append_ne_nil_of_right_ne_nil _ some_page) (List.cons_ne_nil _ _),
      List.getLast_append_of_ne_nil _ some_page, getLast_range j.naoVazia, between, List.head_cons,
      List.append_assoc]
    simp only [Int.add_sub_cancel, show last + 1 < totalPages ↔ last < totalPages - 1 by omega]
    rfl
  · simp

/-- The bar is the list of its numbers, with gaps where a page is missing. -/
theorem pages_elide (one : 1 ≤ currentPage) (le : currentPage ≤ totalPages) :
    pages currentPage totalPages = elide (numeros currentPage totalPages) := by
  have j := janela one le
  rw [numeros, elide_ultimas j, elide_primeiras j]
  rfl

theorem mem_numeros (one : 1 ≤ currentPage) (le : currentPage ≤ totalPages) (p : Int) :
    p ∈ numeros currentPage totalPages ↔
      p = 1 ∨ p = totalPages ∨
        adjustedStartPage currentPage totalPages ≤ p ∧ p ≤ endPage currentPage totalPages := by
  have j := janela one le
  obtain ⟨primeira, ultima, antes, depois, -, -⟩ := j
  rw [numeros, List.mem_append, List.mem_append, Int.mem_range_iff]
  split <;> split <;> simp only [List.mem_singleton, List.not_mem_nil, false_or, or_false] <;> omega

theorem numeros_crescem (one : 1 ≤ currentPage) (le : currentPage ≤ totalPages) :
    (numeros currentPage totalPages).Pairwise (· < ·) := by
  have j := janela one le
  rw [numeros]
  refine List.pairwise_append.mpr ⟨List.pairwise_append.mpr ⟨?_, increasing_range _ _, ?_⟩, ?_, ?_⟩
  · split <;> simp
  · intro a primeira b window
    have start := (Int.mem_range_iff.mp window).1
    split at primeira <;> simp at primeira
    omega
  · split <;> simp
  · intro a antes b ultima
    split at ultima <;> simp at ultima
    rw [List.mem_append, Int.mem_range_iff] at antes
    rcases antes with primeira | window
    · have := j.antes
      have := j.depois
      split at primeira <;> simp at primeira
      omega
    · omega

end Numeros

section Tira

/-- What a bar should be like. -/
structure TiraCerta (currentPage totalPages : Int) (pages : List Link) : Prop where
  crescente : (numbers pages).Pairwise (· < ·)
  limites : ∀ p ∈ numbers pages, 1 ≤ p ∧ p ≤ totalPages
  primeira : 1 ∈ numbers pages
  atual : currentPage ∈ numbers pages
  ultima : totalPages ∈ numbers pages
  /-- Five pages in a row, or all, around the current one: two on each side, where there are. -/
  janela : ∃ antes depois first,
    pages = antes ++ (Int.range first (first + min 5 totalPages)).map .number ++ depois ∧
      first ≤ currentPage ∧ currentPage < first + min 5 totalPages ∧
      ∀ p, 1 ≤ p → p ≤ totalPages → currentPage - 2 ≤ p → p ≤ currentPage + 2 →
        first ≤ p ∧ p < first + min 5 totalPages
  /-- A gap between two neighbours exactly where a page is missing. -/
  vizinhos : ∀ antes a meio b depois,
    pages = antes ++ .number a :: (meio ++ .number b :: depois) → numbers meio = [] →
      (∃ p, a < p ∧ p < b) ∧ meio = [.gap] ∨ (¬∃ p, a < p ∧ p < b) ∧ meio = []
  comeco : pages.head? ≠ some .gap
  fim : pages.getLast? ≠ some .gap

theorem falta_pagina (a b : Int) : (∃ p, a < p ∧ p < b) ↔ a + 1 < b :=
  ⟨fun ⟨p, after, before⟩ => by omega, fun lt => ⟨a + 1, by omega, lt⟩⟩

/-- For every number of pages and every current page among them. -/
theorem renderPagination_bem_formada (currentPage totalPages : Int) (one : 1 ≤ currentPage)
    (le : currentPage ≤ totalPages) :
    TiraCerta currentPage totalPages (pages currentPage totalPages) := by
  have j := janela one le
  have shown : numbers (pages currentPage totalPages) = numeros currentPage totalPages := by
    rw [pages_elide one le, numbers_elide]
  constructor
  case crescente => exact shown ▸ numeros_crescem one le
  case limites =>
    intro p member
    rw [shown, mem_numeros one le] at member
    have := j.primeira
    have := j.ultima
    omega
  case primeira => exact shown ▸ (mem_numeros one le 1).mpr (.inl rfl)
  case atual => exact shown ▸ (mem_numeros one le _).mpr (.inr (.inr ⟨j.antes, j.depois⟩))
  case ultima => exact shown ▸ (mem_numeros one le _).mpr (.inr (.inl rfl))
  case janela =>
    refine ⟨primeiras (adjustedStartPage currentPage totalPages),
      ultimas (endPage currentPage totalPages) totalPages,
      adjustedStartPage currentPage totalPages, ?_⟩
    rw [← j.tamanho]
    simp only [Int.lt_add_one_iff]
    exact ⟨rfl, j.antes, j.depois, j.vizinhas⟩
  case vizinhos =>
    intro antes a meio b depois here bare
    rw [pages_elide one le] at here
    rw [between_neighbours bare here, between, falta_pagina]
    split <;> simp_all
  case comeco => exact pages_elide one le ▸ head?_elide_ne _
  case fim => exact pages_elide one le ▸ getLast?_elide_ne _

theorem renderPagination_bem_formada_sete_de_doze :
    1 ≤ (7 : Int) ∧ (7 : Int) ≤ 12 ∧ TiraCerta 7 12 (pages 7 12) :=
  ⟨by decide, by decide, renderPagination_bem_formada 7 12 (by decide) (by decide)⟩

example : pages 7 12 = [.number 1, .gap, .number 5, .number 6, .number 7, .number 8, .number 9,
    .gap, .number 12] := by decide

end Tira

end IceClube.Paginacao
