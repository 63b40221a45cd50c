import IceClube.Transacoes
import IceClube.Texto

/-! The column `estoque.categoria`, an ENUM whose list of names the server prints into SQL,
MySQL prints back, and the server parses with a regular expression. -/
namespace IceClube

section MySql

/-- What an escape sequence of a string literal stands for. -/
def escape : Char → Texto
  | '0' => [Char.ofNat 0]
  | 'b' => [Char.ofNat 8]
  | 'n' => ['\n']
  | 'r' => ['\r']
  | 't' => ['\t']
  | 'Z' => [Char.ofNat 26]
  | '%' => ['\\', '%']
  | '_' => ['\\', '_']
  | c => [c]

/-- A string literal after its opening quote, and the text behind it. -/
def lerLiteral : Texto → Option (Texto × Texto)
  | [] => none
  | '\\' :: [] => none
  | '\\' :: c :: resto => (lerLiteral resto).map fun r => (escape c ++ r.1, r.2)
  | '\'' :: '\'' :: resto => (lerLiteral resto).map fun r => ('\'' :: r.1, r.2)
  | '\'' :: resto => some ([], resto)
  | c :: resto => (lerLiteral resto).map fun r => (c :: r.1, r.2)

/-- String literals between commas; the first argument bounds their number. -/
def lerLiterais : Nat → Texto → Option (List Texto)
  | 0, _ => none
  | n + 1, texto =>
    match texto.dropWhile Char.isWhitespace with
    | '\'' :: resto => do
      let (nome, depois) ← lerLiteral resto
      match depois.dropWhile Char.isWhitespace with
      | [] => some [nome]
      | ',' :: depois => (lerLiterais n depois).map (nome :: ·)
      | _ => none
    | _ => none

/-- MySQL deletes the spaces at the end of a name. -/
def semEspacosFinais (nome : Texto) : Texto :=
  (nome.reverse.dropWhile (· = ' ')).reverse

/-- The rest of what MySQL decides: which lists of names it takes (no name twice in the
collation, within the limits), and what a statement does whose text is no such list. -/
structure MySql where
  aceita : List Texto → Bool
  outra : Texto → List Texto → Option (List Texto)

/-- `ALTER TABLE estoque MODIFY COLUMN categoria ENUM(…) NOT NULL`; `none` is an error. -/
def MySql.alterar (M : MySql) (enum : Texto) (coluna : List Texto) : Option (List Texto) :=
  match lerLiterais (enum.length + 1) enum with
  | some nomes =>
    let nomes := nomes.map semEspacosFinais
    if M.aceita nomes then some nomes else none
  | none => M.outra enum coluna

def dobrarAspas (nome : Texto) : Texto :=
  nome.flatMap fun c => if c = '\'' then ['\'', '\''] else [c]

def entreAspas (nome : Texto) : Texto := '\'' :: nome ++ ['\'']

/-- The field `Type` of `SHOW COLUMNS`. -/
def tipo (coluna : List Texto) : Texto :=
  "enum(".toList ++ [','].intercalate (coluna.map fun nome => entreAspas (dobrarAspas nome)) ++ [')']

end MySql

section Servidor

/-- `match(/enum\((.*)\)/)[1]`: from the first `enum(` to the last `)` of the line. -/
def entreParenteses : Texto → Option Texto
  | [] => none
  | c :: resto =>
    let linha := ((c :: resto).drop 5).takeWhile fun c => !fimDeLinha c
    if "enum(".toList.isPrefixOf (c :: resto) ∧ ')' ∈ linha then
      some (linha.reverse.dropWhile (· ≠ ')')).tail.reverse
    else entreParenteses resto

/-- `split(',')`, and every apostrophe removed. -/
def enumValues (tipo : Texto) : Option (List Texto) :=
  (entreParenteses tipo).map fun valores =>
    (valores.splitOn ',').map fun valor => valor.filter (· ≠ '\'')

/-- A character beyond 16 bits keeps its case: `charAt(0)` is half of it. -/
def capitalizar : Texto → Texto
  | [] => []
  | c :: resto => (if c.toNat < 65536 then CaseMapping.upper c else [c]) ++ resto

/-- `GET /api/categorias`: the identifier and the shown name of each; `none` is an error. -/
def getCategorias (coluna : List Texto) : Option (List (Texto × Texto)) :=
  (enumValues (tipo coluna)).map fun nomes => nomes.map fun nome => (nome, capitalizar nome)

def novosEnums (nomes : List Texto) : Texto := [','].intercalate (nomes.map entreAspas)

/-- `POST /api/categorias`: the answer and the column afterwards. -/
def postCategorias (M : MySql) (novaCategoria : Texto) (coluna : List Texto) :
    Resposta × List Texto :=
  if novaCategoria = [] then (⟨400, "Nome da categoria é obrigatório", none⟩, coluna)
  else
    match enumValues (tipo coluna) with
    | none => (⟨500, "Erro ao adicionar categoria", none⟩, coluna)
    | some nomes =>
      if novaCategoria ∈ nomes then (⟨400, "Categoria já existe", none⟩, coluna)
      else
        match M.alterar (novosEnums (nomes ++ [novaCategoria])) coluna with
        | none => (⟨500, "Erro ao adicionar categoria", none⟩, coluna)
        | some depois => (⟨200, "Categoria adicionada com sucesso", none⟩, depois)

end Servidor

section Plano

/-- What a name stands for between quotes, if it has no apostrophe. -/
def desfazer : Texto → Option Texto
  | [] => some []
  | '\\' :: [] => none
  | '\\' :: c :: resto => (desfazer resto).map (escape c ++ ·)
  | c :: resto => (desfazer resto).map (c :: ·)

/-- A name that survives: no comma, apostrophe or end of line, no escape sequence of a
literal, no space at its end. -/
structure Plano (nome : Texto) : Prop where
  caracteres : ∀ c ∈ nome, c ≠ ',' ∧ c ≠ '\'' ∧ fimDeLinha c = false
  literal : desfazer nome = some nome
  espacos : semEspacosFinais nome = nome

theorem lerLiteral_fim {resto : Texto} (fim : resto.head? ≠ some '\'') :
    lerLiteral ('\'' :: resto) = some ([], resto) := by
  cases resto with
  | nil => rfl
  | cons c resto =>
    rw [lerLiteral]
    rintro _ ⟨⟩
    exact fim rfl

theorem lerLiteral_comum {c : Char} (barra : c ≠ '\\') (aspa : c ≠ '\'') (resto : Texto) :
    lerLiteral (c :: resto) = (lerLiteral resto).map fun r => (c :: r.1, r.2) := by
  rw [lerLiteral] <;> simp_all

theorem lerLiteral_nome {nome valor : Texto} (aspas : ∀ c ∈ nome, c ≠ '\'')
    (literal : desfazer nome = some valor) {resto : Texto} (fim : resto.head? ≠ some '\'') :
    lerLiteral (nome ++ '\'' :: resto) = some (valor, resto) := by
  fun_induction desfazer nome generalizing valor with
  | case1 =>
    obtain rfl := Option.some.inj literal
    exact lerLiteral_fim fim
  | case2 => cases literal
  | case3 c nome ih =>
    obtain ⟨lido, read, rfl⟩ := Option.map_eq_some_iff.mp literal
    have rest := ih (fun c member => aspas c (by simp [member])) read
    rw [List.cons_append, List.cons_append, lerLiteral, rest, Option.map_some]
  | case4 c nome last escaped ih =>
    obtain ⟨lido, read, rfl⟩ := Option.map_eq_some_iff.mp literal
    have rest := ih (fun c member => aspas c (by simp [member])) read
    have barra : c ≠ '\\' := by
      rintro rfl
      cases nome with
      | nil => exact last rfl rfl
      | cons c nome => exact escaped c nome rfl rfl
    rw [List.cons_append, lerLiteral_comum barra (aspas c (by simp)), rest, Option.map_some]

theorem novosEnums_cons (nome : Texto) {nomes : List Texto} (outros : nomes ≠ []) :
    novosEnums (nome :: nomes) = '\'' :: (nome ++ '\'' :: ',' :: novosEnums nomes) := by
  obtain ⟨outro, nomes, rfl⟩ := List.exists_cons_of_ne_nil outros
  simp [novosEnums, entreAspas, List.intercalate]

/-- MySQL reads back the list of plain names that the server prints. -/
theorem lerLiterais_novosEnums {nomes : List Texto} (planos : ∀ nome ∈ nomes, Plano nome)
    (algum : nomes ≠ []) {n : Nat} (enough : nomes.length ≤ n) :
    lerLiterais n (novosEnums nomes) = some nomes := by
  induction nomes generalizing n with
  | nil => contradiction
  | cons nome nomes ih =>
    rw [List.forall_mem_cons] at planos
    have aspas : ∀ c ∈ nome, c ≠ '\'' := fun c member => (planos.1.caracteres c member).2.1
    obtain ⟨n, rfl⟩ : ∃ k, n = k + 1 := ⟨n - 1, by simp at enough; omega⟩
    by_cases last : nomes = []
    · subst last
      have text : novosEnums [nome] = '\'' :: (nome ++ ['\'']) := by
        simp [novosEnums, entreAspas, List.intercalate]
      have read : lerLiteral (nome ++ ['\'']) = some (nome, []) :=
        lerLiteral_nome aspas planos.1.literal (by simp)
      rw [text]
      change (lerLiteral (nome ++ ['\''])).bind _ = _
      rw [read]
      rfl
    · have rest := ih planos.2 last (by simpa using enough)
      have read : lerLiteral (nome ++ '\'' :: ',' :: novosEnums nomes) =
          some (nome, ',' :: novosEnums nomes) :=
        lerLiteral_nome aspas planos.1.literal (by simp)
      rw [novosEnums_cons nome last]
      change (lerLiteral (nome ++ '\'' :: ',' :: novosEnums nomes)).bind _ = _
      rw [read]
      change (lerLiterais n (novosEnums nomes)).map _ = _
      rw [rest, Option.map_some]

theorem tipo_planos {nomes : List Texto} (planos : ∀ nome ∈ nomes, Plano nome) :
    tipo nomes = "enum(".toList ++ novosEnums nomes ++ [')'] := by
  have quoted : nomes.map (fun nome => entreAspas (dobrarAspas nome)) = nomes.map entreAspas := by
    refine List.map_congr_left fun nome member => congrArg entreAspas ?_
    have single : ∀ c ∈ nome, (if c = '\'' then ['\'', '\''] else [c]) = [c] := fun c inside =>
      if_neg ((planos nome member).caracteres c inside).2.1
    calc dobrarAspas nome = nome.flatMap fun c => [c] := by
          rw [dobrarAspas, List.flatMap_def, List.flatMap_def, List.map_congr_left single]
      _ = nome := by simp
  exact congrArg (fun valores => "enum(".toList ++ [','].intercalate valores ++ [')']) quoted

theorem linha_novosEnums {nomes : List Texto} (planos : ∀ nome ∈ nomes, Plano nome) :
    ∀ c ∈ novosEnums nomes, fimDeLinha c = false := by
  induction nomes with
  | nil => simp [novosEnums]
  | cons nome nomes ih =>
    rw [List.forall_mem_cons] at planos
    have own : ∀ c ∈ nome, fimDeLinha c = false := fun c member => (planos.1.caracteres c member).2.2
    have aspa : fimDeLinha '\'' = false := by decide
    have virgula : fimDeLinha ',' = false := by decide
    by_cases last : nomes = []
    · subst last
      simpa [novosEnums, entreAspas, aspa, or_imp, forall_and] using own
    · rw [novosEnums_cons nome last]
      simpa [aspa, virgula, or_imp, forall_and] using ⟨own, ih planos.2⟩

/-- The regular expression finds everything between the first and the last parenthesis. -/
theorem entreParenteses_enum {valores : Texto} (linha : ∀ c ∈ valores, fimDeLinha c = false) :
    entreParenteses ("enum(".toList ++ valores ++ [')']) = some valores := by
  have whole : (valores ++ [')']).takeWhile (fun c => !fimDeLinha c) = valores ++ [')'] := by
    refine List.takeWhile_append_of_pos (by simpa using linha) |>.trans ?_
    rfl
  change (if "enum(".toList.isPrefixOf ("enum(".toList ++ (valores ++ [')'])) ∧
      ')' ∈ (valores ++ [')']).takeWhile (fun c => !fimDeLinha c) then _ else _) = _
  rw [if_pos ⟨by simp, by simp [whole]⟩]
  change some (((valores ++ [')']).takeWhile fun c => !fimDeLinha c).reverse.dropWhile
    (· ≠ ')')).tail.reverse = _
  rw [whole]
  simp

/-- The names come back apart and without their quotes. -/
theorem separar_novosEnums {nomes : List Texto} (planos : ∀ nome ∈ nomes, Plano nome)
    (algum : nomes ≠ []) :
    ((novosEnums nomes).splitOn ',').map (fun valor => valor.filter (· ≠ '\'')) = nomes := by
  have virgula : ∀ valor ∈ nomes.map entreAspas, ',' ∉ valor := by
    rintro _ quoted inside
    obtain ⟨nome, member, rfl⟩ := List.mem_map.mp quoted
    have inside : ',' ∈ nome := by simpa [entreAspas] using inside
    exact ((planos nome member).caracteres _ inside).1 rfl
  have stripped : ∀ nome ∈ nomes, (entreAspas nome).filter (· ≠ '\'') = nome := by
    intro nome member
    have kept : nome.filter (· ≠ '\'') = nome := List.filter_eq_self.mpr fun c inside =>
      decide_eq_true ((planos nome member).caracteres c inside).2.1
    simpa [entreAspas] using kept
  rw [novosEnums, List.splitOn_intercalate _ virgula (by simpa using algum), List.map_map]
  exact (List.map_congr_left stripped).trans (List.map_id _)

theorem enumValues_tipo {nomes : List Texto} (planos : ∀ nome ∈ nomes, Plano nome)
    (algum : nomes ≠ []) : enumValues (tipo nomes) = some nomes := by
  have valores : entreParenteses (tipo nomes) = some (novosEnums nomes) :=
    (congrArg entreParenteses (tipo_planos planos)).trans
      (entreParenteses_enum (linha_novosEnums planos))
  rw [enumValues, valores, Option.map_some, separar_novosEnums planos algum]

end Plano

section Requisicoes

/-- The identifiers that `GET /api/categorias` reports. -/
def relatadas (coluna : List Texto) : Option (List Texto) :=
  (getCategorias coluna).map fun categorias => categorias.map (·.1)

theorem relatadas_planos {coluna : List Texto} (planos : ∀ nome ∈ coluna, Plano nome)
    (algum : coluna ≠ []) : relatadas coluna = some coluna := by
  rw [relatadas, getCategorias, enumValues_tipo planos algum]
  simp [Function.comp_def]

variable (M : MySql)

/-- A request that is accepted has appended its name, and the list is reported as it is. -/
def Acrescenta (novaCategoria : Texto) (coluna : List Texto) : Prop :=
  let depois := postCategorias M novaCategoria coluna
  depois.1.status = 200 → depois.2 = coluna ++ [novaCategoria] ∧ relatadas depois.2 = some depois.2

def SempreAcrescenta : List Texto → List Texto → Prop
  | [], _ => True
  | nova :: resto, coluna =>
    Acrescenta M nova coluna ∧ SempreAcrescenta resto (postCategorias M nova coluna).2

/-- Every request of the run that is accepted carries a plain name. -/
def SemprePlano : List Texto → List Texto → Prop
  | [], _ => True
  | nova :: resto, coluna =>
    ((postCategorias M nova coluna).1.status = 200 → Plano nova) ∧
      SemprePlano resto (postCategorias M nova coluna).2

variable {M} {nova : Texto} {coluna : List Texto}

theorem length_novosEnums (nomes : List Texto) : nomes.length ≤ (novosEnums nomes).length + 1 := by
  induction nomes with
  | nil => simp
  | cons nome nomes ih =>
    by_cases last : nomes = []
    · simp [last]
    · rw [novosEnums_cons nome last]
      simp only [List.length_cons, List.length_append]
      omega

theorem alterar_planos {nomes depois : List Texto} (planos : ∀ nome ∈ nomes, Plano nome)
    (algum : nomes ≠ []) (altered : M.alterar (novosEnums nomes) coluna = some depois) :
    depois = nomes := by
  have spaces : nomes.map semEspacosFinais = nomes :=
    (List.map_congr_left fun nome member => (planos nome member).espacos).trans (List.map_id _)
  rw [MySql.alterar, lerLiterais_novosEnums planos algum (length_novosEnums nomes)] at altered
  simp only [spaces] at altered
  split at altered
  · exact (Option.some.inj altered).symm
  · cases altered

/-- One request: the column stays, or a plain name is appended. -/
theorem postCategorias_plano (planos : ∀ nome ∈ coluna, Plano nome) (algum : coluna ≠ [])
    (plano : (postCategorias M nova coluna).1.status = 200 → Plano nova) :
    ((postCategorias M nova coluna).1.status ≠ 200 ∧ (postCategorias M nova coluna).2 = coluna) ∨
      (Plano nova ∧ (postCategorias M nova coluna).2 = coluna ++ [nova]) := by
  rw [postCategorias] at plano ⊢
  split at plano
  next empty => exact .inl (by simp [empty])
  next name =>
    rw [if_neg name]
    rw [enumValues_tipo planos algum] at plano ⊢
    dsimp only at plano ⊢
    split at plano
    next old => exact .inl (by simp [old])
    next new =>
      rw [if_neg new]
      cases altered : M.alterar (novosEnums (coluna ++ [nova])) coluna with
      | none => exact .inl (by simp)
      | some depois =>
        rw [altered] at plano
        have plano := plano rfl
        refine .inr ⟨plano, alterar_planos ?_ (by simp) altered⟩
        simpa [or_imp, forall_and] using ⟨planos, plano⟩

theorem sempreAcrescenta_plano {novas : List Texto} (planos : ∀ nome ∈ coluna, Plano nome)
    (algum : coluna ≠ []) (run : SemprePlano M novas coluna) : SempreAcrescenta M novas coluna := by
  induction novas generalizing coluna with
  | nil => trivial
  | cons nova novas ih =>
    obtain ⟨plano, rest⟩ := run
    rcases postCategorias_plano planos algum plano with ⟨refused, same⟩ | ⟨plano, appended⟩
    · refine ⟨fun accepted => absurd accepted refused, ?_⟩
      rw [same] at rest ⊢
      exact ih planos algum rest
    · have planos : ∀ nome ∈ coluna ++ [nova], Plano nome := by
        simpa [or_imp, forall_and] using ⟨planos, plano⟩
      have algum : coluna ++ [nova] ≠ [] := by simp
      rw [SempreAcrescenta, Acrescenta]
      rw [appended] at rest ⊢
      exact ⟨fun _ => ⟨rfl, relatadas_planos planos algum⟩, ih planos algum rest⟩

/-- A server without strict limits, where no other statement is accepted. -/
def mysqlPadrao : MySql := ⟨fun nomes => nomes.Nodup, fun _ _ => none⟩

theorem plano_frutas : Plano "Frutas".toList := ⟨by simp [fimDeLinha], by decide, by decide⟩

theorem plano_bebidas : Plano "Bebidas".toList := ⟨by simp [fimDeLinha], by decide, by decide⟩

theorem plano_doces : Plano "Doces".toList := ⟨by simp [fimDeLinha], by decide, by decide⟩

/-- Two names that are new, the second one sent twice. -/
theorem sempreAcrescenta_bebidas : SempreAcrescenta mysqlPadrao
    ["Bebidas".toList, "Doces".toList, "Doces".toList] ["Frutas".toList] :=
  sempreAcrescenta_plano (by simpa using plano_frutas) (by simp)
    ⟨fun _ => plano_bebidas, fun _ => plano_doces, fun _ => plano_doces, trivial⟩

theorem categoria_com_virgula : ¬ SempreAcrescenta mysqlPadrao
    ["Doces, Salgados".toList, "Bebidas".toList] ["Frutas".toList] := by
  intro all
  have second := (all.2.1 (by decide +kernel)).1
  revert second
  decide +kernel

end Requisicoes
end IceClube
