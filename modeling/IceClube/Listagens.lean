import IceClube.Keys
import IceClube.Paged
import IceClube.PaginaDeVendas
import IceClube.Placeholders
import IceClube.Printed
import Mathlib.Data.String.Basic
import Mathlib.Data.Sum.Order

/-! The lists that `server.js` hands out in pages: `GET /api/lancamentos`, `/api/estoque`,
`/api/usuarios` and `/api/usuarios_web`. -/
namespace IceClube

open Coop Prog Paged Placeholders

structure ItemDeEstoque where
  nome : String
  quantidade : ℚ
  valorUnitario : ℚ
  categoria : Option String
  ultimaAtualizacao : Option Nat
  deriving DecidableEq, Repr

structure UsuarioListado where
  nome : Option String
  numero : Option String
  cargo : Option String
  departamento : Option String
  email : Option String
  dataContratacao : Option String
  salario : Option ℚ
  dataRegistro : Option Nat
  deriving DecidableEq, Repr

structure ContaListada where
  usuario : String
  permissao : String
  dataCriacao : Option Nat
  deriving DecidableEq, Repr

inductive Lista where
  | lancamentos | estoque | usuarios | usuariosWeb
  deriving DecidableEq, Repr

@[reducible] def Lista.Linha : Lista → Type
  | lancamentos => Lancamento
  | estoque => ItemDeEstoque
  | usuarios => UsuarioListado
  | usuariosWeb => ContaListada

structure BancoDeListas where
  linhas : (t : Lista) → Table t.Linha
  /-- A table of InnoDB takes at most 2^48 bytes. -/
  cabem : ∀ t, (linhas t).rows.length < 2 ^ 48
  /-- How the collation compares, which is not in the repository. -/
  like : String → String → Bool := fun texto padrao => texto = padrao
  igual : String → String → Bool := fun a b => a = b
  /-- What a text of the column is sorted by. -/
  peso : String → String → String := fun _ texto => texto
  /-- How MySQL orders rows that an `ORDER BY` leaves equal. -/
  posicao : Nat → Nat := id

/-- A value that the driver writes into a placeholder; `comLetras` is a number whose text is not
of digits only, such as `1e+21` or `NaN`. -/
inductive Valor where
  | texto (t : String)
  | numero (n : Int)
  | comLetras
  deriving DecidableEq, Repr

/-- The conditions that the four queries put into `WHERE`; a comparison with NULL drops the row. -/
inductive Clausula (Linha : Type) where
  | like (coluna : Linha → Option String)
  | likeOuLike (uma outra : Linha → Option String)
  | igual (coluna : Linha → Option String)
  | menor (coluna : Linha → ℚ) (limite : ℚ)

/-- `ORDER BY coluna`; the dates and the identifiers are numbers. -/
structure OrdemSql (Linha : Type) where
  nome : String
  coluna : Nat × Linha → Option (ℚ ⊕ String)
  asc : Bool := true

inductive SqlLista where
  | select (t : Lista) (onde : List (Clausula t.Linha)) (ordem : OrdemSql t.Linha)
    (params : List Valor)
  | count (t : Lista) (onde : List (Clausula t.Linha)) (params : List Valor)

/-- `none` is a statement that MySQL cannot read. -/
@[reducible] def SqlLista.Res : SqlLista → Type
  | .select t .. => Option (List (Nat × t.Linha))
  | .count .. => Option Nat

namespace BancoDeListas

variable (x : BancoDeListas) {α : Type}

def testa : Clausula α → List Valor → α → Bool
  | .like coluna, [.texto p], linha => (coluna linha).any (x.like · p)
  | .likeOuLike uma outra, [.texto p, .texto p'], linha =>
    (uma linha).any (x.like · p) || (outra linha).any (x.like · p')
  | .igual coluna, [.texto t], linha => (coluna linha).any (x.igual · t)
  | .menor coluna limite, [], linha => coluna linha < limite
  | _, _, _ => false

def clausula (c : Clausula α) : Clause Valor α where
  holes :=
    match c with
    | .like _ | .igual _ => 1
    | .likeOuLike .. => 2
    | .menor .. => 0
  test := x.testa c

/-- What a row is sorted by; NULL comes before every value. -/
def chave (ordem : OrdemSql α) (linha : Nat × α) : WithBot (Lex (ℚ ⊕ String)) :=
  match ordem.coluna linha with
  | none => ⊥
  | some v => ((toLex (v.map id (x.peso ordem.nome)) : Lex (ℚ ⊕ String)) : WithBot _)

def Antes (ordem : OrdemSql α) (a b : Nat × α) : Prop :=
  if ordem.asc then x.chave ordem a ≤ x.chave ordem b else x.chave ordem b ≤ x.chave ordem a

def ordenar (ordem : OrdemSql α) (linhas : List (Nat × α)) : List (Nat × α) :=
  if ordem.asc then sortOn (x.chave ordem) (fun linha => x.posicao linha.1) linhas
  else sortOn (fun linha => OrderDual.toDual (x.chave ordem linha))
    (fun linha => x.posicao linha.1) linhas

end BancoDeListas

/-- What MySQL reads behind `LIMIT` and `OFFSET`. -/
def Valor.noLimite : Valor → Option Nat
  | numero n => if 0 ≤ n ∧ n < 2 ^ 64 then some n.toNat else none
  | _ => none

/-- The values behind those of `WHERE` are the limit and the offset; others are ignored. -/
def SqlLista.sem : (q : SqlLista) → BancoDeListas → q.Res × BancoDeListas
  | .select t onde ordem params, x =>
    let clausulas := onde.map x.clausula
    let linhas := (x.linhas t).rows.filter fun linha => holds clausulas params linha.2
    let sobra := params.drop (holes clausulas)
    let recorte := do
      let limit ← sobra[0]?.bind Valor.noLimite
      let offset ← sobra[1]?.bind Valor.noLimite
      some (cut limit offset (x.ordenar ordem linhas))
    (recorte, x)
  | .count t onde params, x =>
    let clausulas := onde.map x.clausula
    if holes clausulas ≤ params.length then
      (some ((x.linhas t).rows.filter fun linha => holds clausulas params linha.2).length, x)
    else (none, x)

structure RespostaLista (α : Type) where
  linhas : List (Nat × α)
  total : Nat
  page : ℚ
  limit : ℚ
  totalPages : Int

section Numeros

/-- `(page - 1) * limit` of two texts. -/
def calcularOffset (page limit : Int) : ℚ :=
  Double.nearest (Double.nearest (Double.nearest page - 1) * Double.nearest limit)

/-- `parseInt` of a whole number reads its text; from 10^21 on that is `1e+21`, of which it reads
the first digit. `none` is `NaN`. -/
def parseIntDe (n : ℚ) : Option ℚ :=
  if |n| < 10 ^ 21 then some n
  else if |n| < Double.infinity then
    some (if n < 0 then -Double.leading (-n) else Double.leading n)
  else none

/-- The text of a whole number in the statement. -/
def Valor.deNumero : Option ℚ → Valor
  | none => comLetras
  | some n =>
    if |n| < 10 ^ 21 then
      numero (if n < 0 then -⌊Double.printed (-n)⌋ else ⌊Double.printed n⌋)
    else comLetras

end Numeros

section Rotas

abbrev RotaDeLista := Prog String SqlLista.Res

def seLida {β : Type} : Option β → RotaDeLista β
  | some b => pure b
  | none => fail "ER_PARSE_ERROR"

/-- The two queries of a list, with their own lists of values; `page` and `limit` are the whole
numbers that the texts of the query show. -/
def listar (t : Lista) (filtros : List (Filter (Clausula t.Linha) Valor)) (ordem : OrdemSql t.Linha)
    (page limit : Int) (erro : String) : RotaDeLista (Atendida (RespostaLista t.Linha)) :=
  let lido := Double.nearest limit
  let offset := parseIntDe (calcularOffset page limit)
  let buscar : RotaDeLista (Atendida (RespostaLista t.Linha)) := do
    let valores := params filtros ++ [.deNumero (some lido), .deNumero offset]
    let linhas ← seLida (← ask (SqlLista.select t (clauses filtros) ordem valores))
    let total ← seLida (← ask (SqlLista.count t (clauses filtros) (countParams filtros)))
    pure (.ok ⟨linhas, total, Double.nearest page, lido, ⌈Double.nearest (total / lido)⌉⟩)
  buscar.handle fun _ => pure (.error ⟨500, erro, none⟩)

/-- `LIKE` with the text anywhere. -/
def contendo (texto : String) : Valor := .texto s!"%{texto}%"

/-- The query of `GET /api/lancamentos`; an empty text is a missing one. -/
structure FiltrosLancamentos where
  descricao : String := ""
  categoria : String := ""
  tipo : String := ""
  sortBy : String := "data_lancamento"
  sortOrder : String := "DESC"
  deriving DecidableEq, Repr

/-- `toUpperCase`; beyond ASCII only the long s becomes a letter of it. -/
def emMaiusculas (texto : String) : String :=
  texto.map fun c => if c = Char.ofNat 0x17f then 'S' else c.toUpper

def validColumns : List (String × (Nat × Lancamento → Option (ℚ ⊕ String))) :=
  [("id", fun l => some (.inl l.1)), ("descricao", fun l => some (.inr l.2.descricao)),
    ("categoria", fun l => l.2.categoria.map .inr), ("tipo", fun l => l.2.tipo.map .inr),
    ("data_lancamento", fun l => some (.inr l.2.dataLancamento))]

def ordemDeLancamentos (q : FiltrosLancamentos) : OrdemSql Lancamento :=
  let column := if (validColumns.map (·.1)).contains q.sortBy then q.sortBy else "data_lancamento"
  { nome := column
    coluna := fun l => (validColumns.lookup column).bind fun coluna => coluna l
    asc := emMaiusculas q.sortOrder = "ASC" }

def filtrosDeLancamentos (q : FiltrosLancamentos) : List (Filter (Clausula Lancamento) Valor) :=
  [{ given := q.descricao ≠ ""
     clause := .like fun l => some l.descricao
     params := [contendo q.descricao]
     countParams := [contendo q.descricao] },
   { given := q.categoria ≠ ""
     clause := .igual Lancamento.categoria
     params := [.texto q.categoria]
     countParams := [.texto q.categoria] },
   { given := q.tipo ≠ ""
     clause := .igual Lancamento.tipo
     params := [.texto q.tipo]
     countParams := [.texto q.tipo] }]

def getLancamentos (q : FiltrosLancamentos) (page limit : Int) :
    RotaDeLista (Atendida (RespostaLista Lancamento)) :=
  listar .lancamentos (filtrosDeLancamentos q) (ordemDeLancamentos q) page limit
    "Erro ao buscar lançamentos"

structure FiltrosEstoque where
  nome : String := ""
  categoria : String := ""
  estoqueBaixo : String := ""
  deriving DecidableEq, Repr

/-- The last filter has no placeholder, but the count is given its text as a value. -/
def filtrosDeEstoque (q : FiltrosEstoque) : List (Filter (Clausula ItemDeEstoque) Valor) :=
  [{ given := q.nome ≠ ""
     clause := .like fun e => some e.nome
     params := [contendo q.nome]
     countParams := [contendo q.nome] },
   { given := q.categoria ≠ ""
     clause := .igual ItemDeEstoque.categoria
     params := [.texto q.categoria]
     countParams := [.texto q.categoria] },
   { given := q.estoqueBaixo = "baixo"
     clause := .menor ItemDeEstoque.quantidade 10
     params := []
     countParams := [.texto "quantidade < 10"] }]

def ordemDeEstoque : OrdemSql ItemDeEstoque where
  nome := "ultima_atualizacao"
  coluna e := e.2.ultimaAtualizacao.map fun t => .inl t
  asc := false

def getEstoque (q : FiltrosEstoque) (page limit : Int) :
    RotaDeLista (Atendida (RespostaLista ItemDeEstoque)) :=
  listar .estoque (filtrosDeEstoque q) ordemDeEstoque page limit "Erro ao buscar estoque"

/-- The two lists of users check the numbers before their queries. -/
def comPaginaValida {α : Type} (page limit : Int) (buscar : RotaDeLista (Atendida α)) :
    RotaDeLista (Atendida α) :=
  if page < 1 ∨ limit < 1 then
    pure (.error ⟨400, "Parâmetros de página ou limite inválidos", none⟩)
  else buscar

def filtrosDeUsuariosWeb (busca : String) : List (Filter (Clausula ContaListada) Valor) :=
  [{ given := busca ≠ ""
     clause := .like fun u => some u.usuario
     params := [contendo busca]
     countParams := [contendo busca] }]

def ordemDeUsuariosWeb : OrdemSql ContaListada where
  nome := "usuario"
  coluna u := some (.inr u.2.usuario)

def getUsuariosWeb (busca : String) (page limit : Int) :
    RotaDeLista (Atendida (RespostaLista ContaListada)) :=
  comPaginaValida page limit <|
    listar .usuariosWeb (filtrosDeUsuariosWeb busca) ordemDeUsuariosWeb page limit
      "Erro ao buscar usuários web"

def filtrosDeUsuarios (busca : String) : List (Filter (Clausula UsuarioListado) Valor) :=
  [{ given := busca ≠ ""
     clause := .likeOuLike UsuarioListado.nome UsuarioListado.numero
     params := [contendo busca, contendo busca]
     countParams := [contendo busca, contendo busca] }]

def ordemDeUsuarios : OrdemSql UsuarioListado where
  nome := "nome"
  coluna u := u.2.nome.map .inr

def getUsuarios (busca : String) (page limit : Int) :
    RotaDeLista (Atendida (RespostaLista UsuarioListado)) :=
  comPaginaValida page limit <|
    listar .usuarios (filtrosDeUsuarios busca) ordemDeUsuarios page limit "Erro ao buscar usuários"

end Rotas

namespace BancoDeListas

variable (x : BancoDeListas)

/-- The answer where every query is answered. -/
def responder {α : Type} (rota : RotaDeLista (Atendida α)) : Atendida α :=
  match (rota.run (Reliable SqlLista.sem) x).1 with
  | .ok resposta => resposta
  | .error erro => .error ⟨500, erro, none⟩

/-- The filters of the query that are given. -/
def passaLancamento (q : FiltrosLancamentos) (l : Lancamento) : Bool :=
  (q.descricao = "" || x.like l.descricao s!"%{q.descricao}%") &&
  (q.categoria = "" || l.categoria.any (x.igual · q.categoria)) &&
  (q.tipo = "" || l.tipo.any (x.igual · q.tipo))

def passaItem (q : FiltrosEstoque) (e : ItemDeEstoque) : Bool :=
  (q.nome = "" || x.like e.nome s!"%{q.nome}%") &&
  (q.categoria = "" || e.categoria.any (x.igual · q.categoria)) &&
  (q.estoqueBaixo ≠ "baixo" || e.quantidade < 10)

def passaConta (busca : String) (u : ContaListada) : Bool :=
  busca = "" || x.like u.usuario s!"%{busca}%"

def passaUsuario (busca : String) (u : UsuarioListado) : Bool :=
  busca = "" || u.nome.any (x.like · s!"%{busca}%") || u.numero.any (x.like · s!"%{busca}%")

end BancoDeListas

/-- The pages of a list, one after the other, are the rows that pass, each once and in order, and
each of those that are asked for is answered and tells the number of the rows. -/
def Particiona {α : Type} (linhas : List (Nat × α)) (passa : α → Bool)
    (antes : Nat × α → Nat × α → Prop) (responde : Int → Atendida (RespostaLista α))
    (pedidas : Set Nat) : Prop :=
  ∃ (lista : List (Nat × α)) (pagina : Nat → RespostaLista α) (ultima : Nat),
    lista.Perm (linhas.filter fun linha => passa linha.2) ∧ lista.Nodup ∧ lista.Pairwise antes ∧
    (∀ n ∈ pedidas, 1 ≤ n → responde n = .ok (pagina n) ∧ (pagina n).total = lista.length ∧
      (pagina n).totalPages = ultima) ∧
    Partition (fun n => (pagina n).linhas) ultima lista

/-- MySQL can read the numbers of the request; or the offset is so large that the driver writes its
first digit, and no more rows pass than that. -/
def AoAlcance (limit : Int) (passam page : Nat) : Prop :=
  let offset := calcularOffset page limit
  Double.nearest limit < 2 ^ 64 ∧
    (offset < 2 ^ 64 ∨
      10 ^ 21 ≤ offset ∧ offset < Double.infinity ∧ passam ≤ Double.leading offset)

instance (limit : Int) (passam page : Nat) : Decidable (AoAlcance limit passam page) :=
  inferInstanceAs (Decidable (_ ∧ (_ ∨ _)))

section Numeros

variable {n l t : ℕ}

theorem nearest_one : Double.nearest 1 = 1 := by
  exact_mod_cast Double.nearest_natCast (n := 1) (by decide)

theorem one_le_nearest (first : 1 ≤ n) : 1 ≤ Double.nearest n := by
  rw [← nearest_one]
  exact Double.nearest_mono one_pos.le (by exact_mod_cast first)

theorem offset_nonneg (first : 1 ≤ n) : 0 ≤ calcularOffset n l := by
  have before : 0 ≤ Double.nearest n - 1 := sub_nonneg.mpr (one_le_nearest first)
  have limit : 0 ≤ Double.nearest l := Double.nearest_nonneg l.cast_nonneg
  exact Double.nearest_nonneg (mul_nonneg (Double.nearest_nonneg before) limit)

theorem nearest_offset (first : 1 ≤ n) :
    Double.nearest (calcularOffset n l) = calcularOffset n l := by
  have before : 0 ≤ Double.nearest n - 1 := sub_nonneg.mpr (one_le_nearest first)
  have limit : 0 ≤ Double.nearest l := Double.nearest_nonneg l.cast_nonneg
  exact Double.nearest_nearest (mul_nonneg (Double.nearest_nonneg before) limit)

/-- Small numbers are multiplied exactly. -/
theorem offset_eq (first : 1 ≤ n) (positive : 0 < l) (small : (n - 1) * l < 2 ^ 52) :
    calcularOffset n l = ((n - 1) * l : ℕ) := by
  obtain ⟨m, rfl⟩ := Nat.exists_eq_add_of_le' first
  rw [Nat.add_sub_cancel] at small ⊢
  have page : m < 2 ^ 52 := (Nat.le_mul_of_pos_right m positive).trans_lt small
  have before : Double.nearest ((m + 1 : ℕ) : ℚ) - 1 = m := by
    rw [Double.nearest_natCast (by omega)]
    push_cast
    ring
  have product : Double.nearest m * Double.nearest l = ((m * l : ℕ) : ℚ) := by
    rw [Double.nearest_natCast (page.trans (by decide)), Nat.cast_mul]
    rcases Nat.eq_zero_or_pos m with rfl | some_page
    · simp
    · have limit := (Nat.le_mul_of_pos_left l some_page).trans_lt small
      rw [Double.nearest_natCast (limit.trans (by decide))]
  rw [calcularOffset, Int.cast_natCast, Int.cast_natCast, before, product,
    Double.nearest_natCast (small.trans (by decide))]

/-- What is beyond the rows stays beyond them. -/
theorem le_offset (first : 1 ≤ n) (positive : 0 < l) (small : t < 2 ^ 52) (beyond : t ≤ (n - 1) * l) :
    (t : ℚ) ≤ calcularOffset n l := by
  have exact_of {m k : ℕ} (small : m < 2 ^ 53) (le : m ≤ k) : (m : ℚ) ≤ Double.nearest k := by
    rw [← Double.nearest_natCast small]
    exact Double.nearest_mono m.cast_nonneg (by exact_mod_cast le)
  rcases Nat.eq_zero_or_pos t with rfl | some_row
  · exact_mod_cast offset_nonneg first
  -- a page and a limit that are no larger, and still reach the number
  have product : t ≤ min (n - 1) t * min l t := by
    rcases Nat.le_total (n - 1) t with few | many
    · rcases Nat.le_total l t with short | long
      · rwa [min_eq_left few, min_eq_left short]
      · have later : 0 < n - 1 := Nat.pos_of_ne_zero fun zero => by
          rw [zero, Nat.zero_mul] at beyond
          omega
        rw [min_eq_left few, min_eq_right long]
        exact Nat.le_mul_of_pos_left t later
    · rw [min_eq_right many]
      exact Nat.le_mul_of_pos_right t (lt_min positive some_row)
  have page : ((min (n - 1) t : ℕ) : ℚ) ≤ Double.nearest (Double.nearest n - 1) := by
    have reached := exact_of (m := min (n - 1) t + 1) (k := n) (by omega) (by omega)
    rw [← Double.nearest_natCast (n := min (n - 1) t) (by omega)]
    push_cast at reached ⊢
    exact Double.nearest_mono (le_min (Nat.cast_nonneg _) t.cast_nonneg) (by linarith)
  have limit := exact_of (m := min l t) (k := l) (by omega) (min_le_left _ _)
  have both : (t : ℚ) ≤ Double.nearest (Double.nearest n - 1) * Double.nearest l :=
    calc (t : ℚ) ≤ (min (n - 1) t * min l t : ℕ) := by exact_mod_cast product
      _ = (min (n - 1) t : ℕ) * (min l t : ℕ) := Nat.cast_mul _ _
      _ ≤ _ := mul_le_mul page limit (Nat.cast_nonneg _) ((Nat.cast_nonneg _).trans page)
  rw [← Double.nearest_natCast (small.trans (by decide))]
  exact Double.nearest_mono t.cast_nonneg both

/-- Up to the number of the rows the offset is the one of the page. -/
theorem min_offset (first : 1 ≤ n) (positive : 0 < l) (small : t < 2 ^ 52) :
    min ⌊Double.printed (calcularOffset n l)⌋.toNat t = min ((n - 1) * l) t := by
  rcases Nat.lt_or_ge ((n - 1) * l) t with inside | beyond
  · rw [offset_eq first positive (inside.trans small),
      Double.printed_natCast ((inside.trans small).trans (by decide)), Int.floor_natCast,
      Int.toNat_natCast]
  · have decimal := Double.natCast_le_printed (small.trans (by decide)) (nearest_offset first)
      (le_offset first positive small beyond)
    have floor : (t : ℤ) ≤ ⌊Double.printed (calcularOffset n l)⌋ :=
      Int.le_floor.mpr (by exact_mod_cast decimal)
    omega

/-- An offset that is written with an exponent is beyond the rows. -/
theorem beyond_of_large (first : 1 ≤ n) (positive : 0 < l) (small : t < 2 ^ 52)
    (large : 10 ^ 21 ≤ calcularOffset n l) : t ≤ (n - 1) * l := by
  by_contra! inside
  have product : (((n - 1) * l : ℕ) : ℚ) < 2 ^ 52 := by exact_mod_cast inside.trans small
  rw [offset_eq first positive (inside.trans small)] at large
  norm_num at large product
  linarith

theorem noLimite_deNumero {v : ℚ} (nonneg : 0 ≤ v) (double : Double.nearest v = v) :
    (Valor.deNumero (some v)).noLimite =
      if v < 2 ^ 64 then some ⌊Double.printed v⌋.toNat else none := by
  have digits := Double.printed_lt_pow (k := 64) (by decide) (by decide +kernel) nonneg double
  have whole : 0 ≤ ⌊Double.printed v⌋ := Int.floor_nonneg.mpr (Double.printed_nonneg nonneg)
  have read : ⌊Double.printed v⌋ < 2 ^ 64 ↔ v < 2 ^ 64 := by
    rw [Int.floor_lt, Int.cast_pow, Int.cast_ofNat, digits]
  rw [Valor.deNumero, abs_of_nonneg nonneg, if_neg (not_lt.mpr nonneg)]
  split
  next plain => simp only [Valor.noLimite, whole, true_and, read]
  next large =>
    have large : ¬ v < 2 ^ 64 := fun less => large (less.trans (by norm_num))
    simp [Valor.noLimite, large]

theorem noLimite_offset (first : 1 ≤ n) :
    (Valor.deNumero (parseIntDe (calcularOffset n l))).noLimite =
      if calcularOffset n l < 2 ^ 64 then some ⌊Double.printed (calcularOffset n l)⌋.toNat
      else if 10 ^ 21 ≤ calcularOffset n l ∧ calcularOffset n l < Double.infinity then
        some (Double.leading (calcularOffset n l)).toNat
      else none := by
  have nonneg := offset_nonneg (l := l) first
  have double := nearest_offset (l := l) first
  generalize calcularOffset n l = offset at nonneg double ⊢
  rw [parseIntDe, abs_of_nonneg nonneg, if_neg (not_lt.mpr nonneg)]
  by_cases plain : offset < 10 ^ 21
  · rw [if_pos plain, noLimite_deNumero nonneg double, if_neg (c := _ ∧ _) fun large =>
      absurd plain (not_lt.mpr large.1)]
  have large : 10 ^ 21 ≤ offset := not_lt.mp plain
  have unread : ¬ offset < 2 ^ 64 := not_lt.mpr ((by norm_num : (2 : ℚ) ^ 64 ≤ 10 ^ 21).trans large)
  rw [if_neg plain, if_neg unread]
  by_cases finite : offset < Double.infinity
  · rw [if_pos finite, if_pos ⟨large, finite⟩]
    have positive : 0 < offset := (by norm_num : (0 : ℚ) < 10 ^ 21).trans_le large
    obtain ⟨low, high⟩ := Double.leading_digit double positive
    obtain ⟨d, digit⟩ := Int.eq_ofNat_of_zero_le (by omega : 0 ≤ Double.leading offset)
    rw [digit] at low high ⊢
    have small : d < 2 ^ 53 := by omega
    rw [Int.cast_natCast, noLimite_deNumero d.cast_nonneg (Double.nearest_natCast small),
      Double.printed_natCast small, Int.floor_natCast, if_pos]
    have few : d < 2 ^ 64 := by omega
    exact_mod_cast few
  · rw [if_neg finite, if_neg fun both => finite both.2]
    rfl

end Numeros

section Paginas

variable {x : BancoDeListas} {t : Lista} {filtros : List (Filter (Clausula t.Linha) Valor)}
  {ordem : OrdemSql t.Linha} {page limit : Int} {erro : String}

theorem perm_ordenar {α : Type} (ordem : OrdemSql α) (linhas : List (Nat × α)) :
    (x.ordenar ordem linhas).Perm linhas := by
  rw [BancoDeListas.ordenar]
  split
  · exact perm_sortOn ..
  · exact perm_sortOn ..

theorem pairwise_ordenar {α : Type} (ordem : OrdemSql α) (linhas : List (Nat × α)) :
    (x.ordenar ordem linhas).Pairwise (x.Antes ordem) := by
  rw [BancoDeListas.ordenar]
  split
  next up => exact (pairwise_sortOn ..).imp fun first => by rwa [BancoDeListas.Antes, if_pos up]
  next down => exact (pairwise_sortOn ..).imp fun first => by rwa [BancoDeListas.Antes, if_neg down]

theorem sem_listas (q : SqlLista) (x : BancoDeListas) : (q.sem x).2 = x := by
  cases q with
  | select => rfl
  | count =>
    simp only [SqlLista.sem]
    split <;> rfl

/-- The rows that the clauses admit are those that pass each given filter. -/
theorem linhas_clauses (aligned : ∀ f ∈ filtros, Aligned x.clausula f) (mais : List Valor) :
    ((x.linhas t).rows.filter fun linha =>
        holds ((clauses filtros).map x.clausula) (params filtros ++ mais) linha.2) =
      (x.linhas t).rows.filter fun linha =>
        filtros.all fun f => !f.given || x.testa f.clause f.params linha.2 := by
  refine List.filter_congr fun linha _ => ?_
  exact holds_clauses aligned mais linha.2

def BancoDeListas.listada (x : BancoDeListas) (filtros : List (Filter (Clausula t.Linha) Valor))
    (ordem : OrdemSql t.Linha) : List (Nat × t.Linha) :=
  x.ordenar ordem ((x.linhas t).rows.filter fun linha =>
    filtros.all fun f => !f.given || x.testa f.clause f.params linha.2)

theorem length_listada : (x.listada filtros ordem).length < 2 ^ 48 := by
  rw [BancoDeListas.listada, (perm_ordenar ordem _).length_eq]
  exact (List.length_filter_le _ _).trans_lt (x.cabem t)

/-- The answer of a list: its two queries are read, or there is none. -/
theorem responder_listar (aligned : ∀ f ∈ filtros, Aligned x.clausula f)
    (counted : ∃ sobra, countParams filtros = params filtros ++ sobra) :
    x.responder (listar t filtros ordem page limit erro) =
      match (Valor.deNumero (some (Double.nearest limit))).noLimite,
          (Valor.deNumero (parseIntDe (calcularOffset page limit))).noLimite with
      | some lidas, some puladas =>
        .ok ⟨cut lidas puladas (x.listada filtros ordem), (x.listada filtros ordem).length,
          Double.nearest page, Double.nearest limit,
          ⌈Double.nearest ((x.listada filtros ordem).length / Double.nearest limit)⌉⟩
      | _, _ => .error ⟨500, erro, none⟩ := by
  obtain ⟨sobra, counted⟩ := counted
  have enough : holes ((clauses filtros).map x.clausula) ≤ (params filtros ++ sobra).length := by
    rw [holes_clauses aligned, List.length_append]
    omega
  have length : ((SqlLista.count t (clauses filtros) (countParams filtros)).sem x).1 =
      some (x.listada filtros ordem).length := by
    simp only [SqlLista.sem, counted, if_pos enough, linhas_clauses aligned]
    exact congrArg some (perm_ordenar ordem _).length_eq.symm
  have rows (limite offset : Valor) : ((SqlLista.select t (clauses filtros) ordem
      (params filtros ++ [limite, offset])).sem x).1 =
        limite.noLimite.bind fun lidas => offset.noLimite.bind fun puladas =>
          some (cut lidas puladas (x.listada filtros ordem)) := by
    simp only [SqlLista.sem, linhas_clauses aligned, holes_clauses aligned, List.drop_left]
    rfl
  rw [BancoDeListas.responder, listar, run_handle, run_ask_reliable, rows, sem_listas]
  cases (Valor.deNumero (some (Double.nearest limit))).noLimite with
  | none => rfl
  | some lidas =>
    cases (Valor.deNumero (parseIntDe (calcularOffset page limit))).noLimite with
    | none => rfl
    | some puladas =>
      simp only [Option.bind_some, seLida, pure_eq, bind_done]
      rw [run_ask_reliable, length, sem_listas]
      rfl

variable {n l : ℕ}

theorem totalPages_responder (aligned : ∀ f ∈ filtros, Aligned x.clausula f)
    (counted : ∃ sobra, countParams filtros = params filtros ++ sobra) (positive : 0 < l)
    {resposta : RespostaLista t.Linha}
    (answered : x.responder (listar t filtros ordem page l erro) = .ok resposta) :
    resposta.totalPages = ⌈((x.listada filtros ordem).length : ℚ) / l⌉₊ := by
  have few : (x.listada filtros ordem).length < 2 ^ 48 := length_listada
  rw [responder_listar aligned counted] at answered
  split at answered
  · obtain rfl := Except.ok.inj answered
    simp only [Int.cast_natCast, Double.ceil_div (few.trans (by decide)) positive]
    exact (Int.natCast_ceil_eq_ceil (div_nonneg (Nat.cast_nonneg _) l.cast_nonneg)).symm
  · cases answered

theorem responder_pagina (aligned : ∀ f ∈ filtros, Aligned x.clausula f)
    (counted : ∃ sobra, countParams filtros = params filtros ++ sobra) (first : 1 ≤ n)
    (positive : 0 < l) (reach : AoAlcance l (x.listada filtros ordem).length n) :
    x.responder (listar t filtros ordem n l erro) =
      .ok ⟨Paged.page l (x.listada filtros ordem) n, (x.listada filtros ordem).length,
        Double.nearest n, Double.nearest l, ⌈((x.listada filtros ordem).length : ℚ) / l⌉₊⟩ := by
  have few : (x.listada filtros ordem).length < 2 ^ 48 := length_listada
  have read : (Valor.deNumero (some (Double.nearest l))).noLimite =
      some ⌊Double.printed (Double.nearest l)⌋.toNat := by
    rw [noLimite_deNumero (Double.nearest_nonneg l.cast_nonneg)
      (Double.nearest_nearest l.cast_nonneg), if_pos (by exact_mod_cast reach.1)]
  have pages : ⌈Double.nearest ((x.listada filtros ordem).length / Double.nearest l)⌉ =
      (⌈((x.listada filtros ordem).length : ℚ) / l⌉₊ : ℤ) := by
    rw [Double.ceil_div (few.trans (by decide)) positive, Int.natCast_ceil_eq_ceil]
    exact div_nonneg (Nat.cast_nonneg _) l.cast_nonneg
  simp only [responder_listar aligned counted, Int.cast_natCast, read, noLimite_offset first, pages]
  rcases reach.2 with near | ⟨large, finite, few_rows⟩
  · simp only [if_pos near]
    rw [cut_congr (Double.min_printed (few.trans (by decide)) l)
      (min_offset first positive (few.trans (by decide))), Paged.page]
  · have unread : ¬ calcularOffset n l < 2 ^ 64 :=
      not_lt.mpr ((by norm_num : (2 : ℚ) ^ 64 ≤ 10 ^ 21).trans large)
    have beyond := beyond_of_large first positive (few.trans (by decide)) large
    simp only [if_neg unread, large, finite, and_self, if_true]
    rw [page_eq_nil beyond, cut, List.drop_eq_nil_of_le (by omega), List.take_nil]

/-- A request is within reach if it is answered, with no rows on a page beyond them. -/
theorem alcanca_of_responder (aligned : ∀ f ∈ filtros, Aligned x.clausula f)
    (counted : ∃ sobra, countParams filtros = params filtros ++ sobra) (first : 1 ≤ n)
    (positive : 0 < l) {resposta : RespostaLista t.Linha}
    (answered : x.responder (listar t filtros ordem n l erro) = .ok resposta)
    (empty : (x.listada filtros ordem).length ≤ (n - 1) * l → resposta.linhas = []) :
    AoAlcance l (x.listada filtros ordem).length n := by
  have few : (x.listada filtros ordem).length < 2 ^ 48 := length_listada
  have limite := Double.min_printed (few.trans (by decide)) l
  simp only [responder_listar aligned counted, Int.cast_natCast, noLimite_offset first,
    noLimite_deNumero (Double.nearest_nonneg l.cast_nonneg)
      (Double.nearest_nearest l.cast_nonneg)] at answered
  by_cases read : Double.nearest l < 2 ^ 64
  case neg =>
    simp only [if_neg read] at answered
    cases answered
  refine ⟨by exact_mod_cast read, ?_⟩
  by_cases near : calcularOffset n l < 2 ^ 64
  · exact .inl near
  by_cases large : 10 ^ 21 ≤ calcularOffset n l ∧ calcularOffset n l < Double.infinity
  case neg =>
    simp only [if_pos read, if_neg near, if_neg large] at answered
    cases answered
  refine .inr ⟨large.1, large.2, ?_⟩
  simp only [if_pos read, if_neg near, if_pos large] at answered
  have rows := empty (beyond_of_large first positive (few.trans (by decide)) large.1)
  have digit := (Double.leading_digit (nearest_offset (l := l) first)
    ((by norm_num : (0 : ℚ) < 10 ^ 21).trans_le large.1)).1
  obtain rfl := Except.ok.inj answered
  simp only [cut, List.take_eq_nil_iff, List.drop_eq_nil_iff] at rows
  rcases rows with none_taken | few_rows
  · rw [none_taken] at limite
    omega
  · omega

/-- All is within reach while the numbers are small. -/
theorem alcanca_of_pequeno (first : 1 ≤ n) (positive : 0 < l) (small : n * l < 2 ^ 52)
    (passam : ℕ) : AoAlcance l passam n := by
  have before : (n - 1) * l < 2 ^ 52 := (Nat.mul_le_mul_right l (Nat.sub_le n 1)).trans_lt small
  have limit : l < 2 ^ 52 := (Nat.le_mul_of_pos_left l first).trans_lt small
  constructor
  · rw [Int.cast_natCast, Double.nearest_natCast (limit.trans (by decide))]
    exact_mod_cast limit.trans (by decide)
  · left
    rw [offset_eq first positive before]
    exact_mod_cast before.trans (by decide)

/-- A list is handed out right on the pages within reach, and on no other ones. -/
theorem particiona_listar_iff {passa : t.Linha → Bool} {pedidas : Set ℕ}
    (aligned : ∀ f ∈ filtros, Aligned x.clausula f)
    (counted : ∃ sobra, countParams filtros = params filtros ++ sobra)
    (same : ∀ linha, (filtros.all fun f => !f.given || x.testa f.clause f.params linha) = passa linha)
    (positive : 1 ≤ limit) :
    Particiona (x.linhas t).rows passa (x.Antes ordem)
        (fun page => x.responder (listar t filtros ordem page limit erro)) pedidas ↔
      ∀ n ∈ pedidas, 1 ≤ n →
        AoAlcance limit ((x.linhas t).rows.filter fun linha => passa linha.2).length n := by
  obtain ⟨l, rfl⟩ := Int.eq_ofNat_of_zero_le (by omega : 0 ≤ limit)
  have positive : 0 < l := by omega
  have perm : (x.listada filtros ordem).Perm
      ((x.linhas t).rows.filter fun linha => passa linha.2) := by
    simp only [← same]
    exact perm_ordenar ordem _
  have few : (x.listada filtros ordem).length < 2 ^ 48 := length_listada
  rw [← perm.length_eq]
  constructor
  · rintro ⟨lista, pagina, ultima, -, -, -, answers, pages⟩ n asked first
    obtain ⟨answered, -, last⟩ := answers n asked first
    refine alcanca_of_responder aligned counted first positive answered fun beyond => ?_
    refine pages.beyond n ?_
    rw [totalPages_responder aligned counted positive answered, Int.natCast_inj] at last
    have unit : (0 : ℚ) < l := by exact_mod_cast positive
    have until_there : ⌈((x.listada filtros ordem).length : ℚ) / l⌉₊ ≤ n - 1 := by
      rw [Nat.ceil_le, div_le_iff₀ unit]
      exact_mod_cast beyond
    omega
  · intro reach
    refine ⟨x.listada filtros ordem, fun n => ⟨Paged.page l (x.listada filtros ordem) n,
      (x.listada filtros ordem).length, Double.nearest n, Double.nearest l,
      ⌈((x.listada filtros ordem).length : ℚ) / l⌉₊⟩, _, perm, ?_, pairwise_ordenar ordem _,
      fun n asked first => ⟨?_, rfl, rfl⟩, partition_ceil positive _⟩
    · exact perm.nodup_iff.mpr ((x.linhas t).nodup_rows.filter _)
    · exact responder_pagina aligned counted first positive (reach n asked first)

/-- The check lets every page of the list through. -/
theorem particiona_valida {α : Type} {linhas : List (Nat × α)} {passa : α → Bool}
    {antes : Nat × α → Nat × α → Prop} {buscar : Int → RotaDeLista (Atendida (RespostaLista α))}
    {pedidas : Set ℕ} (positive : 1 ≤ limit) :
    Particiona linhas passa antes
        (fun page => x.responder (comPaginaValida page limit (buscar page))) pedidas ↔
      Particiona linhas passa antes (fun page => x.responder (buscar page)) pedidas := by
  have valid (n : ℕ) (first : 1 ≤ n) : comPaginaValida n limit (buscar n) = buscar n :=
    if_neg (by omega)
  rw [Particiona, Particiona]
  refine exists₃_congr fun lista pagina ultima => ?_
  refine and_congr_right fun _ => and_congr_right fun _ => and_congr_right fun _ =>
    and_congr_left fun _ => forall₂_congr fun n _ => forall_congr' fun first => ?_
  rw [valid n first]

theorem aligned_lancamentos (q : FiltrosLancamentos) :
    ∀ f ∈ filtrosDeLancamentos q, Aligned x.clausula f := by
  simp [filtrosDeLancamentos, Aligned, BancoDeListas.clausula]

theorem passa_lancamentos (q : FiltrosLancamentos) (l : Lancamento) :
    ((filtrosDeLancamentos q).all fun f => !f.given || x.testa f.clause f.params l) =
      x.passaLancamento q l := by
  simp [filtrosDeLancamentos, BancoDeListas.testa, contendo, BancoDeListas.passaLancamento,
    Bool.and_assoc]

theorem aligned_estoque (q : FiltrosEstoque) : ∀ f ∈ filtrosDeEstoque q, Aligned x.clausula f := by
  simp [filtrosDeEstoque, Aligned, BancoDeListas.clausula]

theorem passa_estoque (q : FiltrosEstoque) (e : ItemDeEstoque) :
    ((filtrosDeEstoque q).all fun f => !f.given || x.testa f.clause f.params e) =
      x.passaItem q e := by
  simp [filtrosDeEstoque, BancoDeListas.testa, contendo, BancoDeListas.passaItem, Bool.and_assoc]

/-- The text of the third clause is the last value, behind those that the count needs. -/
theorem countParams_estoque (q : FiltrosEstoque) :
    ∃ sobra, countParams (filtrosDeEstoque q) = params (filtrosDeEstoque q) ++ sobra := by
  let nome_e_categoria := (filtrosDeEstoque q).take 2
  let baixo := (filtrosDeEstoque q).drop 2
  have split : filtrosDeEstoque q = nome_e_categoria ++ baixo := rfl
  have same : countParams nome_e_categoria = params nome_e_categoria :=
    countParams_eq (by simp [nome_e_categoria, filtrosDeEstoque])
  have none_there : params baixo = [] := by
    simp [params, baixo, filtrosDeEstoque]
  refine ⟨countParams baixo, ?_⟩
  rw [split, countParams_append, params_append, same, none_there, List.append_nil]

theorem aligned_usuarios (busca : String) :
    ∀ f ∈ filtrosDeUsuarios busca, Aligned x.clausula f := by
  simp [filtrosDeUsuarios, Aligned, BancoDeListas.clausula]

theorem passa_usuarios (busca : String) (u : UsuarioListado) :
    ((filtrosDeUsuarios busca).all fun f => !f.given || x.testa f.clause f.params u) =
      x.passaUsuario busca u := by
  simp [filtrosDeUsuarios, BancoDeListas.testa, contendo, BancoDeListas.passaUsuario, Bool.or_assoc]

theorem aligned_usuariosWeb (busca : String) :
    ∀ f ∈ filtrosDeUsuariosWeb busca, Aligned x.clausula f := by
  simp [filtrosDeUsuariosWeb, Aligned, BancoDeListas.clausula]

theorem passa_usuariosWeb (busca : String) (u : ContaListada) :
    ((filtrosDeUsuariosWeb busca).all fun f => !f.given || x.testa f.clause f.params u) =
      x.passaConta busca u := by
  simp [filtrosDeUsuariosWeb, BancoDeListas.testa, contendo, BancoDeListas.passaConta]

/-- Which pages of the four lists are answered right. -/
theorem paginas_particionam_iff (x : BancoDeListas) (limit : Int) (positive : 1 ≤ limit)
    (pedidas : Set Nat) :
    (∀ q, Particiona (x.linhas .lancamentos).rows (x.passaLancamento q)
        (x.Antes (ordemDeLancamentos q)) (fun page => x.responder (getLancamentos q page limit))
          pedidas ↔
      ∀ n ∈ pedidas, 1 ≤ n → AoAlcance limit
        ((x.linhas .lancamentos).rows.filter fun l => x.passaLancamento q l.2).length n) ∧
    (∀ q, Particiona (x.linhas .estoque).rows (x.passaItem q) (x.Antes ordemDeEstoque)
        (fun page => x.responder (getEstoque q page limit)) pedidas ↔
      ∀ n ∈ pedidas, 1 ≤ n → AoAlcance limit
        ((x.linhas .estoque).rows.filter fun e => x.passaItem q e.2).length n) ∧
    (∀ busca, Particiona (x.linhas .usuarios).rows (x.passaUsuario busca)
        (x.Antes ordemDeUsuarios) (fun page => x.responder (getUsuarios busca page limit)) pedidas ↔
      ∀ n ∈ pedidas, 1 ≤ n → AoAlcance limit
        ((x.linhas .usuarios).rows.filter fun u => x.passaUsuario busca u.2).length n) ∧
    ∀ busca, Particiona (x.linhas .usuariosWeb).rows (x.passaConta busca)
        (x.Antes ordemDeUsuariosWeb) (fun page => x.responder (getUsuariosWeb busca page limit))
          pedidas ↔
      ∀ n ∈ pedidas, 1 ≤ n → AoAlcance limit
        ((x.linhas .usuariosWeb).rows.filter fun u => x.passaConta busca u.2).length n := by
  refine ⟨fun q => ?_, fun q => ?_, fun busca => ?_, fun busca => ?_⟩
  · refine particiona_listar_iff (t := .lancamentos) (aligned_lancamentos q) ⟨[], ?_⟩
      (passa_lancamentos q) positive
    rw [countParams_eq (by simp [filtrosDeLancamentos]), List.append_nil]
  · exact particiona_listar_iff (t := .estoque) (aligned_estoque q) (countParams_estoque q)
      (passa_estoque q) positive
  · refine (particiona_valida positive).trans <| particiona_listar_iff (t := .usuarios)
      (aligned_usuarios busca) ⟨[], ?_⟩ (passa_usuarios busca) positive
    rw [countParams_eq (by simp [filtrosDeUsuarios]), List.append_nil]
  · refine (particiona_valida positive).trans <| particiona_listar_iff (t := .usuariosWeb)
      (aligned_usuariosWeb busca) ⟨[], ?_⟩ (passa_usuariosWeb busca) positive
    rw [countParams_eq (by simp [filtrosDeUsuariosWeb]), List.append_nil]

def tresItens : BancoDeListas where
  linhas
    | .estoque => .ofList [⟨"Coco", 3, 5, some "frutas", some 1⟩, ⟨"Uva", 40, 5, none, some 2⟩,
        ⟨"Limão", 7, 5, some "frutas", some 3⟩]
    | .lancamentos => .empty
    | .usuarios => .empty
    | .usuariosWeb => .empty
  cabem t := by cases t <;> decide

/-- The first thousand pages of one row each. -/
theorem itens_em_falta : Particiona (tresItens.linhas .estoque).rows
    (tresItens.passaItem { estoqueBaixo := "baixo" }) (tresItens.Antes ordemDeEstoque)
    (fun page => tresItens.responder (getEstoque { estoqueBaixo := "baixo" } page 1))
    {n | n ≤ 1000} := by
  refine ((paginas_particionam_iff tresItens 1 le_rfl _).2.1 _).mpr fun n asked first => ?_
  exact alcanca_of_pequeno (l := 1) first one_pos (by simp at asked; omega) _

/-- Page 100000000000000000001 of ten rows each starts at row 1e+21, of which `parseInt` reads
the one. -/
theorem pagina_depois_do_fim :
    (∃ resposta, tresItens.responder (getEstoque {} (10 ^ 20 + 1) 10) = .ok resposta ∧
      resposta.totalPages = 1 ∧ resposta.linhas.length = 2) ∧
    ¬ Particiona (tresItens.linhas .estoque).rows (tresItens.passaItem {})
      (tresItens.Antes ordemDeEstoque)
      (fun page => tresItens.responder (getEstoque {} page 10)) Set.univ := by
  constructor
  · have answered : tresItens.responder (getEstoque {} (10 ^ 20 + 1) 10) = _ :=
      responder_listar (t := .estoque) (aligned_estoque {}) (countParams_estoque {})
    have lidas : (Valor.deNumero (some (Double.nearest (10 : ℤ)))).noLimite = some 10 := by
      decide +kernel
    have puladas : (Valor.deNumero (parseIntDe (calcularOffset (10 ^ 20 + 1) 10))).noLimite =
        some 1 := by decide +kernel
    simp only [lidas, puladas] at answered
    exact ⟨_, answered, by decide +kernel, by decide +kernel⟩
  · intro whole
    have reach := (particiona_listar_iff (t := .estoque) (aligned_estoque {})
      (countParams_estoque {}) (passa_estoque {}) (by decide)).mp whole
    exact absurd (reach (10 ^ 20 + 1) trivial (by decide)) (by decide +kernel)

end Paginas
end IceClube
