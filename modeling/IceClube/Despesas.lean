import IceClube.Categorias
import IceClube.Contas

/-! The expenses and their categories: the names of the column `despesas.categoria`, an
ENUM. A request reads the list of names, checks or extends it, and writes afterwards. -/
namespace IceClube

open Coop Prog

/-- MySQL where an ENUM is written: how it compares a text with the names, and whether it
refuses a text that is none of them (the strict mode) or stores the error value. -/
structure MySqlEnum extends MySql where
  estrito : Bool
  igual : Texto → Texto → Bool

/-- A row of `despesas`; the error value of the column is `none`. -/
structure Despesa where
  nome : Option String
  descricao : String
  valor : ℚ
  categoria : Option Texto
  dataDespesa : String
  tipo : String
  deriving DecidableEq, Repr

structure Despesas where
  despesas : Table Despesa := .empty
  /-- The names of the column `categoria`. -/
  coluna : List Texto

/-- The body of a request to `/api/despesas`, empty where a field is missing, and the day
that the server's clock shows; the amount is a number. -/
structure CorpoDespesa where
  nome : String := ""
  descricao : String
  valor : Option ℚ
  categoria : Texto
  dataDespesa : String
  tipo : String
  hoje : String
  deriving DecidableEq, Repr

inductive SqlDespesas where
  | showColumns
  | insertDespesa (corpo : CorpoDespesa) (valor : ℚ)
  | selectDespesa (id : Nat)
  | updateDespesa (corpo : CorpoDespesa) (valor : ℚ) (id : Nat)
  | deleteDespesa (id : Nat)
  | alterCategoria (enum : Texto)

/-- `none` is what MySQL refuses. -/
@[reducible] def SqlDespesas.Res : SqlDespesas → Type
  | .showColumns => Texto
  | .insertDespesa .. => Option Nat
  | .selectDespesa _ => List Nat
  | .deleteDespesa _ => Unit
  | _ => Option Unit

namespace MySqlEnum

variable (M : MySqlEnum)

def nomeDe (coluna : List Texto) (texto : Texto) : Option Texto := coluna.find? (M.igual texto)

def gravar (coluna : List Texto) (texto : Texto) : Option (Option Texto) :=
  match M.nomeDe coluna texto with
  | some nome => some (some nome)
  | none => if M.estrito then none else some none

def converter (coluna : List Texto) (t : Table Despesa) : Option (Table Despesa) :=
  let perde (d : Despesa) : Bool := d.categoria.any fun nome => (M.nomeDe coluna nome).isNone
  if M.estrito ∧ t.rows.any fun linha => perde linha.2 then none
  else some (t.alter fun _ d => { d with categoria := d.categoria.bind (M.nomeDe coluna) })

end MySqlEnum

def CorpoDespesa.linha (corpo : CorpoDespesa) (valor : ℚ) (categoria : Option Texto) : Despesa where
  nome := naoVazio corpo.nome
  descricao := corpo.descricao
  valor := valor
  categoria := categoria
  dataDespesa := corpo.dataDespesa
  tipo := corpo.tipo

def SqlDespesas.sem (M : MySqlEnum) : (q : SqlDespesas) → Despesas → q.Res × Despesas
  | .showColumns, b => (IceClube.tipo b.coluna, b)
  | .insertDespesa corpo valor, b =>
    match M.gravar b.coluna corpo.categoria with
    | none => (none, b)
    | some categoria =>
      (some b.despesas.next, { b with despesas := b.despesas.insert (corpo.linha valor categoria) })
  | .selectDespesa id, b => ((b.despesas.get id).toList.map fun _ => id, b)
  | .updateDespesa corpo valor id, b =>
    match b.despesas.get id, M.gravar b.coluna corpo.categoria with
    | none, _ => (some (), b)
    | some _, none => (none, b)
    | some _, some categoria =>
      (some (), { b with despesas := b.despesas.modify id fun _ => corpo.linha valor categoria })
  | .deleteDespesa id, b => ((), { b with despesas := b.despesas.erase id })
  | .alterCategoria enum, b =>
    match M.alterar enum b.coluna with
    | none => (none, b)
    | some coluna =>
      match M.converter coluna b.despesas with
      | none => (none, b)
      | some despesas => (some (), ⟨despesas, coluna⟩)

abbrev RotaDespesa := Prog String SqlDespesas.Res

abbrev sqlDespesas (q : SqlDespesas) : RotaDespesa q.Res := ask q

/-- A refusal is thrown like a rejected query. -/
def ouErro {α : Type} : Option α → RotaDespesa α
  | some a => pure a
  | none => fail "Data truncated for column 'categoria' at row 1"

section Rotas

/-- `match(/enum\((.+)\)/)[1]`: with something between the parentheses. -/
def dentroDoEnum : Texto → Option Texto
  | [] => none
  | c :: resto =>
    let linha := ((c :: resto).drop 5).takeWhile fun c => !fimDeLinha c
    if "enum(".toList.isPrefixOf (c :: resto) ∧ ')' ∈ linha.tail then
      some (linha.reverse.dropWhile (· ≠ ')')).tail.reverse
    else dentroDoEnum resto

/-- `none` is the exception of `null[1]`. -/
def enumDeDespesas (tipo : Texto) : Option (List Texto) :=
  (dentroDoEnum tipo).map fun valores =>
    (valores.splitOn ',').map fun valor => valor.filter (· ≠ '\'')

def valoresDoEnum (tipo : Texto) : RotaDespesa (List Texto) :=
  match enumDeDespesas tipo with
  | some nomes => pure nomes
  | none => fail "Cannot read properties of null (reading '1')"

def tiposDeDespesa : List String := ["fixa", "variavel"]

/-- The checks before the first query; an amount of zero counts as missing. -/
def CorpoDespesa.confere (corpo : CorpoDespesa) : Except String ℚ :=
  match corpo.valor.filter fun x => x ≠ 0 with
  | none =>
    .error "Os campos descrição, valor, categoria, data da despesa e tipo são obrigatórios"
  | some valor =>
    if corpo.descricao = "" ∨ corpo.categoria = [] ∨ corpo.dataDespesa = "" ∨ corpo.tipo = "" then
      .error "Os campos descrição, valor, categoria, data da despesa e tipo são obrigatórios"
    else if valor ≤ 0 then .error "O valor deve ser positivo"
    else if corpo.tipo ∉ tiposDeDespesa then .error "Tipo inválido. Use \"fixa\" ou \"variavel\""
    else .ok valor

/-- The checks after it. -/
def CorpoDespesa.recusa (corpo : CorpoDespesa) (enumValues : List Texto) : Option String :=
  if !enumValues.contains corpo.categoria then
    let valores := ", ".intercalate (enumValues.map String.ofList)
    some s!"Categoria inválida. Valores permitidos: {valores}"
  else if corpo.hoje < corpo.dataDespesa then some "Data da despesa não pode ser futura"
  else none

/-- `POST /api/despesas`. -/
def postDespesa (corpo : CorpoDespesa) : RotaDespesa Resposta :=
  match corpo.confere with
  | .error erro => pure ⟨400, erro, none⟩
  | .ok valor =>
    let gravar : RotaDespesa Resposta := do
      let enumValues ← valoresDoEnum (← sqlDespesas .showColumns)
      match corpo.recusa enumValues with
      | some erro => pure ⟨400, erro, none⟩
      | none => do
        let id ← ouErro (← sqlDespesas (.insertDespesa corpo valor))
        pure ⟨201, "Despesa adicionada com sucesso", some id⟩
    gravar.handle fun _ => pure ⟨500, "Erro ao adicionar despesa", none⟩

/-- `PUT /api/despesas/:id`. -/
def putDespesa (id : Nat) (corpo : CorpoDespesa) : RotaDespesa Resposta :=
  match corpo.confere with
  | .error erro => pure ⟨400, erro, none⟩
  | .ok valor =>
    let gravar : RotaDespesa Resposta := do
      let enumValues ← valoresDoEnum (← sqlDespesas .showColumns)
      match corpo.recusa enumValues with
      | some erro => pure ⟨400, erro, none⟩
      | none => do
        let existing ← sqlDespesas (.selectDespesa id)
        if existing = [] then pure ⟨404, "Despesa não encontrada", none⟩
        else do
          let _ ← ouErro (← sqlDespesas (.updateDespesa corpo valor id))
          pure ⟨200, "Despesa atualizada com sucesso", none⟩
    gravar.handle fun _ => pure ⟨500, "Erro ao atualizar despesa", none⟩

/-- `DELETE /api/despesas/:id`. -/
def deleteDespesa (id : Nat) : RotaDespesa Resposta :=
  let apagar : RotaDespesa Resposta := do
    let existing ← sqlDespesas (.selectDespesa id)
    if existing = [] then pure ⟨404, "Despesa não encontrada", none⟩
    else do
      sqlDespesas (.deleteDespesa id)
      pure ⟨200, "Despesa deletada com sucesso", none⟩
  apagar.handle fun _ => pure ⟨500, "Erro ao deletar despesa", none⟩

/-- `replace(/\s+/g, '_')`, knowing whether the character before was a space. -/
def sublinhar : Bool → Texto → Texto
  | _, [] => []
  | antes, c :: resto =>
    if espaco c then (if antes then sublinhar true resto else '_' :: sublinhar true resto)
    else c :: sublinhar false resto

def normalizar (novaCategoria : Texto) : Texto :=
  sublinhar false (Texto.toLowerCase (Texto.trim novaCategoria))

/-- `/^[a-z_]{1,50}$/`. -/
def nomeDeCategoria (nome : Texto) : Bool :=
  nome.all (fun c => ('a' ≤ c && c ≤ 'z') || c = '_') && 1 ≤ nome.length && nome.length ≤ 50

/-- `POST /api/despesas/categorias/adicionar`; `none` is a name that is missing or no text. -/
def adicionarCategoria (novaCategoria : Option Texto) : RotaDespesa Resposta :=
  match novaCategoria.filter fun nome => Texto.trim nome ≠ [] with
  | none =>
    pure ⟨400, "O nome da nova categoria é obrigatório e deve ser uma string válida", none⟩
  | some novaCategoria =>
    let nome := normalizar novaCategoria
    if !nomeDeCategoria nome then
      let regra := "O nome da categoria deve conter apenas letras e underscores, até 50 caracteres"
      pure ⟨400, regra, none⟩
    else
      let gravar : RotaDespesa Resposta := do
        let valores ← valoresDoEnum (← sqlDespesas .showColumns)
        let enumValues := valores.filter (· ≠ [])
        if enumValues.contains nome then pure ⟨400, "Categoria já existe", none⟩
        else do
          let _ ← ouErro (← sqlDespesas (.alterCategoria (novosEnums (enumValues ++ [nome]))))
          pure ⟨201, "Categoria adicionada com sucesso", none⟩
      gravar.handle fun _ => pure ⟨500, "Erro ao adicionar categoria", none⟩

end Rotas

inductive ReqDespesa where
  | post (corpo : CorpoDespesa)
  | put (id : Nat) (corpo : CorpoDespesa)
  | delete (id : Nat)
  | adicionar (novaCategoria : Option Texto)
  deriving DecidableEq, Repr

def ReqDespesa.rota : ReqDespesa → RotaDespesa Resposta
  | .post corpo => postDespesa corpo
  | .put id corpo => putDespesa id corpo
  | .delete id => deleteDespesa id
  | .adicionar novaCategoria => adicionarCategoria novaCategoria

def servidorDeDespesas (M : MySqlEnum) :
    System ReqDespesa Empty String SqlDespesas.Res Resposta (Faulty Despesas) :=
  autocommit (SqlDespesas.sem M) Tx.rejeicao ReqDespesa.rota fun _ b => b

section Chamadas

/-- Only checked types and amounts are sent. -/
def SqlDespesas.Conferida : SqlDespesas → Prop
  | .insertDespesa corpo valor | .updateDespesa corpo valor _ =>
    corpo.tipo ∈ tiposDeDespesa ∧ 0 < valor
  | _ => True

theorem confere_ok {corpo : CorpoDespesa} {valor : ℚ} (checked : corpo.confere = .ok valor) :
    corpo.tipo ∈ tiposDeDespesa ∧ 0 < valor := by
  rw [CorpoDespesa.confere] at checked
  split at checked
  · contradiction
  · split_ifs at checked with missing negative kind
    obtain rfl := Except.ok.inj checked
    exact ⟨kind, not_le.mp negative⟩

variable {P : SqlDespesas → Prop}

theorem calls_valoresDoEnum (tipo : Texto) : (valoresDoEnum tipo).Calls P := by
  rw [valoresDoEnum]
  split <;> trivial

theorem calls_ouErro {α : Type} (x : Option α) : (ouErro x).Calls P := by
  cases x <;> trivial

theorem calls_postDespesa (corpo : CorpoDespesa) :
    (postDespesa corpo).Calls SqlDespesas.Conferida := by
  rw [postDespesa]
  cases checked : corpo.confere with
  | error erro => trivial
  | ok valor =>
    apply calls_handle
    · apply calls_bind ((calls_ask _).mpr trivial)
      intro tipo
      apply calls_bind (calls_valoresDoEnum tipo)
      intro enumValues
      split
      · trivial
      · have sent : SqlDespesas.Conferida (.insertDespesa corpo valor) := confere_ok checked
        apply calls_bind ((calls_ask _).mpr sent)
        intro inserted
        apply calls_bind (calls_ouErro inserted)
        intro _
        trivial
    · intro _
      trivial

theorem calls_putDespesa (id : Nat) (corpo : CorpoDespesa) :
    (putDespesa id corpo).Calls SqlDespesas.Conferida := by
  rw [putDespesa]
  cases checked : corpo.confere with
  | error erro => trivial
  | ok valor =>
    apply calls_handle
    · apply calls_bind ((calls_ask _).mpr trivial)
      intro tipo
      apply calls_bind (calls_valoresDoEnum tipo)
      intro enumValues
      split
      · trivial
      apply calls_bind ((calls_ask _).mpr trivial)
      intro existing
      split
      · trivial
      have sent : SqlDespesas.Conferida (.updateDespesa corpo valor id) := confere_ok checked
      apply calls_bind ((calls_ask _).mpr sent)
      intro updated
      apply calls_bind (calls_ouErro updated)
      intro _
      trivial
    · intro _
      trivial

theorem calls_deleteDespesa (id : Nat) : (deleteDespesa id).Calls SqlDespesas.Conferida := by
  apply calls_handle
  · apply calls_bind ((calls_ask _).mpr trivial)
    intro existing
    split
    · trivial
    apply calls_bind ((calls_ask _).mpr trivial)
    intro _
    trivial
  · intro _
    trivial

theorem calls_adicionarCategoria (novaCategoria : Option Texto) :
    (adicionarCategoria novaCategoria).Calls SqlDespesas.Conferida := by
  rw [adicionarCategoria]
  split
  · trivial
  dsimp only
  split
  · trivial
  apply calls_handle
  · apply calls_bind ((calls_ask _).mpr trivial)
    intro tipo
    apply calls_bind (calls_valoresDoEnum tipo)
    intro valores
    split
    · trivial
    apply calls_bind ((calls_ask _).mpr trivial)
    intro altered
    apply calls_bind (calls_ouErro altered)
    intro _
    trivial
  · intro _
    trivial

theorem calls_despesas (requisicao : ReqDespesa) :
    requisicao.rota.Calls SqlDespesas.Conferida := by
  cases requisicao with
  | post corpo => exact calls_postDespesa corpo
  | put id corpo => exact calls_putDespesa id corpo
  | delete id => exact calls_deleteDespesa id
  | adicionar novaCategoria => exact calls_adicionarCategoria novaCategoria

end Chamadas

section Validas

structure Despesa.Valida (coluna : List Texto) (d : Despesa) : Prop where
  tipo : d.tipo ∈ tiposDeDespesa
  valor : 0 < d.valor
  categoria : ∃ nome ∈ coluna, d.categoria = some nome

def DespesasValidas (b : Despesas) : Prop :=
  ∀ id d, b.despesas.get id = some d → d.Valida b.coluna

/-- Where MySQL does not refuse it: a row is written with a name of the list, and a new list
keeps the names in use. -/
def SqlDespesas.Mantem (M : MySqlEnum) (b : Despesas) : SqlDespesas → Prop
  | .insertDespesa corpo _ => M.estrito ∨ (M.nomeDe b.coluna corpo.categoria).isSome
  | .updateDespesa corpo _ id => (b.despesas.get id).isSome →
    M.estrito ∨ (M.nomeDe b.coluna corpo.categoria).isSome
  | .alterCategoria enum => ∀ coluna, M.alterar enum b.coluna = some coluna →
    M.estrito ∨ ∀ id d nome, b.despesas.get id = some d → d.categoria = some nome →
      (M.nomeDe coluna nome).isSome
  | _ => True

variable {M : MySqlEnum} {b : Despesas}

theorem nomeDe_mem {coluna : List Texto} {texto nome : Texto}
    (found : M.nomeDe coluna texto = some nome) : nome ∈ coluna := List.mem_of_find?_eq_some found

/-- What MySQL stores is valid when the text was a name. -/
theorem linha_valida {corpo : CorpoDespesa} {valor : ℚ} {categoria : Option Texto}
    (checked : corpo.tipo ∈ tiposDeDespesa ∧ 0 < valor)
    (stored : M.gravar b.coluna corpo.categoria = some categoria) :
    (corpo.linha valor categoria).Valida b.coluna ↔
      M.estrito ∨ (M.nomeDe b.coluna corpo.categoria).isSome := by
  rw [MySqlEnum.gravar] at stored
  cases found : M.nomeDe b.coluna corpo.categoria with
  | some nome =>
    simp only [found, Option.some.injEq] at stored
    subst stored
    exact iff_of_true ⟨checked.1, checked.2, nome, nomeDe_mem found, rfl⟩ (.inr rfl)
  | none =>
    simp only [found] at stored
    split at stored
    · contradiction
    next lax =>
      obtain rfl := Option.some.inj stored
      apply iff_of_false
      · intro valida
        obtain ⟨nome, _, absent⟩ := valida.categoria
        contradiction
      · simpa using lax

theorem recusada_estrito {texto : Texto} (refused : M.gravar b.coluna texto = none) :
    M.estrito = true := by
  rw [MySqlEnum.gravar] at refused
  split at refused
  · contradiction
  · by_contra lax
    simp [lax] at refused

theorem validas_insert (law : DespesasValidas b) (d : Despesa) :
    DespesasValidas { b with despesas := b.despesas.insert d } ↔ d.Valida b.coluna := by
  constructor
  · intro all
    exact all b.despesas.next d ((Table.get_insert _ _ _).trans (if_pos rfl))
  · intro valida id row found
    simp only [Table.get_insert] at found
    split at found
    · exact Option.some.inj found ▸ valida
    · exact law id row found

theorem validas_modify (law : DespesasValidas b) {id : Nat} {old : Despesa}
    (found : b.despesas.get id = some old) (d : Despesa) :
    DespesasValidas { b with despesas := b.despesas.modify id fun _ => d } ↔
      d.Valida b.coluna := by
  constructor
  · intro all
    exact all id d (by simp [Table.get_modify, found])
  · intro valida other row changed
    simp only [Table.get_modify] at changed
    split at changed
    next here =>
      simp only [here, found, Option.map_some, Option.some.injEq] at changed
      exact changed ▸ valida
    next => exact law other row changed

theorem validas_erase (law : DespesasValidas b) (id : Nat) :
    DespesasValidas { b with despesas := b.despesas.erase id } := by
  intro other row found
  simp only [Table.get_erase] at found
  split at found
  · contradiction
  · exact law other row found

theorem validas_alter (law : DespesasValidas b) (coluna : List Texto) :
    DespesasValidas ⟨b.despesas.alter fun _ d =>
        { d with categoria := d.categoria.bind (M.nomeDe coluna) }, coluna⟩ ↔
      ∀ id d nome, b.despesas.get id = some d → d.categoria = some nome →
        (M.nomeDe coluna nome).isSome := by
  constructor
  · intro all id d nome found named
    have valida := all id { d with categoria := d.categoria.bind (M.nomeDe coluna) }
      (by simp [found])
    obtain ⟨novo, _, same⟩ := valida.categoria
    simp only [named, Option.bind_some] at same
    rw [same]
    rfl
  · intro kept id row found
    simp only [Table.get_alter, Option.map_eq_some_iff] at found
    obtain ⟨d, found, rfl⟩ := found
    have valida := law id d found
    obtain ⟨nome, _, named⟩ := valida.categoria
    obtain ⟨novo, same⟩ := Option.isSome_iff_exists.mp (kept id d nome found named)
    exact ⟨valida.tipo, valida.valor, novo, nomeDe_mem same, by simp [named, same]⟩

theorem converter_none {coluna : List Texto} (refused : M.converter coluna b.despesas = none) :
    M.estrito = true := by
  rw [MySqlEnum.converter] at refused
  split at refused
  next lost => exact lost.1
  next => contradiction

/-- In the strict mode a list that is accepted has every name in use. -/
theorem converter_some {coluna : List Texto} {t : Table Despesa}
    (accepted : M.converter coluna b.despesas = some t) :
    t = b.despesas.alter (fun _ d =>
        { d with categoria := d.categoria.bind (M.nomeDe coluna) }) ∧
      (M.estrito → ∀ id d nome, b.despesas.get id = some d → d.categoria = some nome →
        (M.nomeDe coluna nome).isSome) := by
  rw [MySqlEnum.converter] at accepted
  split at accepted
  next => contradiction
  next kept =>
    refine ⟨(Option.some.inj accepted).symm, ?_⟩
    intro estrito id d nome found named
    by_contra lost
    apply kept
    refine ⟨estrito, List.any_eq_true.mpr ⟨(id, d), Table.mem_rows.mpr found, ?_⟩⟩
    simpa [named] using lost

theorem validas_sem (q : SqlDespesas) (b : Despesas) (sent : q.Conferida)
    (law : DespesasValidas b) : DespesasValidas (q.sem M b).2 ↔ q.Mantem M b := by
  cases q with
  | insertDespesa corpo valor =>
    simp only [SqlDespesas.sem, SqlDespesas.Mantem]
    cases stored : M.gravar b.coluna corpo.categoria with
    | none => exact iff_of_true law (.inl (recusada_estrito stored))
    | some categoria => exact (validas_insert law _).trans (linha_valida sent stored)
  | updateDespesa corpo valor id =>
    simp only [SqlDespesas.sem, SqlDespesas.Mantem]
    cases found : b.despesas.get id with
    | none => exact iff_of_true law (by simp)
    | some old =>
      simp only [Option.isSome_some, true_implies]
      cases stored : M.gravar b.coluna corpo.categoria with
      | none => exact iff_of_true law (.inl (recusada_estrito stored))
      | some categoria => exact (validas_modify law found _).trans (linha_valida sent stored)
  | deleteDespesa id => exact iff_of_true (validas_erase law id) trivial
  | alterCategoria enum =>
    simp only [SqlDespesas.sem, SqlDespesas.Mantem]
    cases altered : M.alterar enum b.coluna with
    | none => exact iff_of_true law (by simp)
    | some coluna =>
      simp only [Option.some.injEq, forall_eq']
      cases converted : M.converter coluna b.despesas with
      | none => exact iff_of_true law (.inl (converter_none converted))
      | some t =>
        obtain ⟨rfl, strict⟩ := converter_some converted
        rw [validas_alter law coluna]
        exact ⟨.inr, fun kept => kept.elim strict id⟩
  | showColumns => exact iff_of_true law trivial
  | selectDespesa id => exact iff_of_true law trivial

def SempreValidas (M : MySqlEnum) (w : Faulty Despesas) (passos : List (Action ReqDespesa Empty)) :
    Prop :=
  ∀ pre post, passos = pre ++ post →
    DespesasValidas ((servidorDeDespesas M).execute pre ⟨w, []⟩).state.state

theorem sempreValidas_iff (M : MySqlEnum) (w : Faulty Despesas)
    (passos : List (Action ReqDespesa Empty)) :
    SempreValidas M w passos ↔
      DespesasValidas w.state ∧
        (servidorDeDespesas M).Runs (fun c a => ∀ q, c.effect a = some q →
          q.Mantem M c.state.state) passos ⟨w, []⟩ := by
  have still : ∀ (change : Empty) b, DespesasValidas b → DespesasValidas b :=
    fun change => change.elim
  have idle : ∀ p ∈ ([] : List (RotaDespesa Resposta)), p.Calls SqlDespesas.Conferida := by simp
  simp only [SempreValidas, servidorDeDespesas]
  exact Autocommit.always_iff_of_calls (c := ⟨w, []⟩) calls_despesas still validas_sem idle

/-- In the strict mode the column itself refuses every other name. -/
theorem mantem_estrito {M : MySqlEnum} (estrito : M.estrito = true) (q : SqlDespesas)
    (b : Despesas) : q.Mantem M b := by
  cases q with
  | insertDespesa corpo valor => exact .inl estrito
  | updateDespesa corpo valor id => exact fun _ => .inl estrito
  | alterCategoria enum => exact fun _ _ => .inl estrito
  | showColumns => trivial
  | selectDespesa id => trivial
  | deleteDespesa id => trivial

theorem sempreValidas_estrito {M : MySqlEnum} (estrito : M.estrito = true) {w : Faulty Despesas}
    (initial : DespesasValidas w.state) (passos : List (Action ReqDespesa Empty)) :
    SempreValidas M w passos := by
  rw [sempreValidas_iff]
  refine ⟨initial, ?_⟩
  generalize (⟨w, []⟩ : Config String SqlDespesas.Res Resposta (Faulty Despesas)) = c
  induction passos generalizing c with
  | nil => trivial
  | cons a passos ih => exact ⟨fun q _ => mantem_estrito estrito q _, ih _⟩

/-- A server outside the strict mode. -/
def mysqlSemModo : MySqlEnum where
  aceita nomes := nomes.Nodup
  outra _ _ := none
  estrito := false
  igual := (· = ·)

/-- Two names are added at once, and an expense of the first is stored in between. -/
def duasCategorias : List (Action ReqDespesa Empty) :=
  [.arrive (.adicionar (some "festa".toList)), .step 0,
    .arrive (.adicionar (some "viagem".toList)), .step 1, .step 0,
    .arrive (.post {
      descricao := "Bolo", valor := some 50, categoria := "festa".toList,
      dataDespesa := "2025-05-01", tipo := "fixa", hoje := "2025-05-02" }),
    .step 2, .step 2, .step 1]

theorem duas_categorias :
    ¬ SempreValidas mysqlSemModo ⟨{ coluna := ["outros".toList] }, []⟩ duasCategorias := by
  intro always
  have final := always duasCategorias [] rfl 1
    { nome := none, descricao := "Bolo", valor := 50, categoria := none,
      dataDespesa := "2025-05-01", tipo := "fixa" } (by decide +kernel)
  obtain ⟨nome, _, absent⟩ := final.categoria
  contradiction

end Validas
end IceClube
