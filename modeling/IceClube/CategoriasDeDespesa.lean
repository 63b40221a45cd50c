import IceClube.Despesas

/-! The list of names of `despesas.categoria` over a sequence of requests that add one: it goes
through the text of SQL, the text of `SHOW COLUMNS` and the server's reading of it each time. -/
namespace IceClube

open Coop Prog

section Pedidos

/-- A column that MySQL holds, without the characters at which its text is taken apart: it has a
name, none twice, and none ends in a space. -/
structure ColunaEnum (coluna : List Texto) : Prop where
  alguma : coluna ≠ []
  distintos : coluna.Nodup
  vazio : [] ∉ coluna
  caracteres : ∀ nome ∈ coluna, ∀ c ∈ nome, c ≠ ',' ∧ c ≠ '\'' ∧ fimDeLinha c = false
  espacos : ∀ nome ∈ coluna, semEspacosFinais nome = nome

/-- `GET /api/categorias/despesas`: the identifier and the shown name of each; `none` is an
error. -/
def listarCategorias : RotaDespesa (Option (List (Texto × Texto))) :=
  let listar : RotaDespesa (Option (List (Texto × Texto))) := do
    let valores ← valoresDoEnum (← sqlDespesas .showColumns)
    let enumValues := valores.filter (· ≠ [])
    pure (some (enumValues.map fun value => (value, capitalizar value)))
  listar.handle fun _ => pure none

variable (M : MySqlEnum)

/-- One request with everything that its handler asks of the database; a query may be rejected. -/
def atenderPedido (novaCategoria : Option Texto) (w : Faulty Despesas) :
    Except String Resposta × Faulty Despesas :=
  (adicionarCategoria novaCategoria).run (Faulty.exec (SqlDespesas.sem M) Tx.rejeicao) w

def aceita : Except String Resposta → Bool
  | .ok resposta => resposta.status = 201
  | .error _ => false

def atendidas : List (Option Texto) → Faulty Despesas → Faulty Despesas
  | [], w => w
  | nova :: resto, w => atendidas resto (atenderPedido M nova w).2

def aceitas : List (Option Texto) → Faulty Despesas → List Texto
  | [], _ => []
  | nova :: resto, w =>
    let seguintes := aceitas resto (atenderPedido M nova w).2
    if aceita (atenderPedido M nova w).1 then normalizar (nova.getD []) :: seguintes else seguintes

/-- The list has grown by the accepted names, whatever is asked next it can only grow, and it is
reported as it is. -/
structure SoCresce (novas : List (Option Texto)) (w : Faulty Despesas) : Prop where
  lista : (atendidas M novas w).state.coluna = w.state.coluna ++ aceitas M novas w
  distintos : (atendidas M novas w).state.coluna.Nodup
  recusada : ∀ nova, aceita (atenderPedido M nova (atendidas M novas w)).1 = false →
    (atenderPedido M nova (atendidas M novas w)).2.state.coluna = (atendidas M novas w).state.coluna
  listada : (listarCategorias.run (Reliable (SqlDespesas.sem M)) (atendidas M novas w).state).1 =
    .ok (some ((atendidas M novas w).state.coluna.map fun value => (value, capitalizar value)))

end Pedidos

section Nomes

theorem desfazer_semBarra {nome : Texto} (sem : '\\' ∉ nome) : desfazer nome = some nome := by
  induction nome with
  | nil => rfl
  | cons c nome ih =>
    rw [List.mem_cons, not_or] at sem
    have rest := ih sem.2
    rw [desfazer]
    · rw [rest, Option.map_some]
    · rintro rfl -
      exact sem.1 rfl
    · rintro c' resto rfl -
      exact sem.1 rfl

theorem semEspacosFinais_sem {nome : Texto} (sem : ' ' ∉ nome) : semEspacosFinais nome = nome := by
  have last (c : Char) (first : nome.reverse.head? = some c) : decide (c = ' ') = false := by
    have member : c ∈ nome := List.mem_reverse.mp (List.mem_of_mem_head? first)
    exact decide_eq_false fun space => sem (space ▸ member)
  have kept := (span_exato [] nome.reverse (by simp) last).2
  rw [semEspacosFinais, ← List.nil_append nome.reverse, kept, List.reverse_reverse]

/-- What the check lets through survives as it is. -/
theorem plano_conferido {nome : Texto} (checked : nomeDeCategoria nome = true) : Plano nome := by
  rw [nomeDeCategoria, Bool.and_eq_true, Bool.and_eq_true, List.all_eq_true] at checked
  have letter := checked.1.1
  have other {x : Char} (out : (('a' ≤ x && x ≤ 'z') || x = '_') = false) : x ∉ nome := by
    intro inside
    have here := letter x inside
    rw [out] at here
    cases here
  refine ⟨fun c inside => ⟨?_, ?_, ?_⟩, desfazer_semBarra (other (by decide)),
    semEspacosFinais_sem (other (by decide))⟩
  · rintro rfl
    exact other (by decide) inside
  · rintro rfl
    exact other (by decide) inside
  · by_contra line
    simp only [fimDeLinha, Bool.not_eq_false, Bool.or_eq_true, decide_eq_true_eq] at line
    rcases line with ((rfl | rfl) | rfl) | rfl
    all_goals exact other (by decide) inside

end Nomes

section Leitura

/-- The regular expression finds what there is between the first and the last parenthesis. -/
theorem dentroDoEnum_enum {valores : Texto} (algum : valores ≠ [])
    (linha : ∀ c ∈ valores, fimDeLinha c = false) :
    dentroDoEnum ("enum(".toList ++ valores ++ [')']) = some valores := by
  obtain ⟨primeiro, outros, rfl⟩ := List.exists_cons_of_ne_nil algum
  have whole : (primeiro :: outros ++ [')']).takeWhile (fun c => !fimDeLinha c) =
      primeiro :: outros ++ [')'] := by
    refine List.takeWhile_append_of_pos (by simpa using linha) |>.trans ?_
    rfl
  change (if "enum(".toList.isPrefixOf ("enum(".toList ++ (primeiro :: outros ++ [')'])) ∧
      ')' ∈ ((primeiro :: outros ++ [')']).takeWhile (fun c => !fimDeLinha c)).tail then _ else _) = _
  have closed : ')' ∈ ((primeiro :: outros ++ [')']).takeWhile fun c => !fimDeLinha c).tail := by
    rw [whole]
    simp
  rw [if_pos ⟨by simp, closed⟩]
  change some (((primeiro :: outros ++ [')']).takeWhile fun c => !fimDeLinha c).reverse.dropWhile
    (· ≠ ')')).tail.reverse = _
  rw [whole]
  simp

variable {coluna : List Texto}

theorem novosEnums_ne_nil (algum : coluna ≠ []) : novosEnums coluna ≠ [] := by
  obtain ⟨nome, nomes, rfl⟩ := List.exists_cons_of_ne_nil algum
  by_cases last : nomes = []
  · simp [last, novosEnums, entreAspas, List.intercalate]
  · simp [novosEnums_cons nome last]

theorem enumDeDespesas_tipo (planos : ∀ nome ∈ coluna, Plano nome) (algum : coluna ≠ []) :
    enumDeDespesas (tipo coluna) = some coluna := by
  rw [enumDeDespesas, tipo_planos planos,
    dentroDoEnum_enum (novosEnums_ne_nil algum) (linha_novosEnums planos), Option.map_some,
    separar_novosEnums planos algum]

theorem filter_nomes (vazio : [] ∉ coluna) : coluna.filter (· ≠ []) = coluna :=
  List.filter_eq_self.mpr fun _ member =>
    decide_eq_true fun empty => vazio (empty ▸ member)

theorem run_listarCategorias {M : MySqlEnum} {b : Despesas}
    (planos : ∀ nome ∈ b.coluna, Plano nome) (algum : b.coluna ≠ []) (vazio : [] ∉ b.coluna) :
    listarCategorias.run (Reliable (SqlDespesas.sem M)) b =
      (.ok (some (b.coluna.map fun value => (value, capitalizar value))), b) := by
  have asked : (sqlDespesas .showColumns).run (Reliable (SqlDespesas.sem M)) b =
      (.ok (tipo b.coluna), b) := rfl
  rw [listarCategorias, run_handle, run_bind, asked]
  simp only [valoresDoEnum, enumDeDespesas_tipo planos algum, pure_eq, bind_done,
    filter_nomes vazio]
  rfl

end Leitura

section Uma

variable {α : Type} {M : MySqlEnum} {w : Faulty Despesas} {nova : Option Texto}

structure PedidoAtendido (nova : Option Texto) (coluna : List Texto)
    (fim : Except String Resposta × Faulty Despesas) : Prop where
  recusada : aceita fim.1 = false → fim.2.state.coluna = coluna
  aceita : aceita fim.1 = true → nomeDeCategoria (normalizar (nova.getD [])) = true ∧
    normalizar (nova.getD []) ∉ coluna ∧ fim.2.state.coluna = coluna ++ [normalizar (nova.getD [])]

def acrescentarCategoria (enumValues : List Texto) (nome : Texto) : RotaDespesa Resposta :=
  if enumValues.contains nome then pure ⟨400, "Categoria já existe", none⟩
  else do
    let _ ← ouErro (← sqlDespesas (.alterCategoria (novosEnums (enumValues ++ [nome]))))
    pure ⟨201, "Categoria adicionada com sucesso", none⟩

def gravarCategoria (nome : Texto) : RotaDespesa Resposta := do
  let valores ← valoresDoEnum (← sqlDespesas .showColumns)
  acrescentarCategoria (valores.filter (· ≠ [])) nome

def erroAoGravar (_ : String) : RotaDespesa Resposta :=
  pure ⟨500, "Erro ao adicionar categoria", none⟩

/-- A name that is no text, empty or of other characters is refused before any query. -/
theorem adicionarCategoria_eq (nova : Option Texto) :
    (∃ erro, adicionarCategoria nova = pure ⟨400, erro, none⟩) ∨
      nomeDeCategoria (normalizar (nova.getD [])) = true ∧ adicionarCategoria nova =
        (gravarCategoria (normalizar (nova.getD []))).handle erroAoGravar := by
  rw [adicionarCategoria]
  split
  next => exact .inl ⟨_, rfl⟩
  next texto given =>
    obtain ⟨rfl, -⟩ := Option.filter_eq_some_iff.mp given
    by_cases checked : nomeDeCategoria (normalizar texto) = true
    · refine .inr ⟨checked, ?_⟩
      simp only [checked, Bool.not_true, Bool.false_eq_true, if_false]
      rfl
    · refine .inl
        ⟨"O nome da categoria deve conter apenas letras e underscores, até 50 caracteres", ?_⟩
      simp only [Bool.eq_false_of_not_eq_true checked, Bool.not_false, if_true]

/-- The list that a statement for plain names leaves: the printed one, or the old one. -/
theorem alterCategoria_planos {b : Despesas} {nomes : List Texto}
    (planos : ∀ nome ∈ nomes, Plano nome) (algum : nomes ≠ []) :
    (((SqlDespesas.alterCategoria (novosEnums nomes)).sem M b).1 = none ∧
        ((SqlDespesas.alterCategoria (novosEnums nomes)).sem M b).2 = b) ∨
      (((SqlDespesas.alterCategoria (novosEnums nomes)).sem M b).1 = some () ∧
        ((SqlDespesas.alterCategoria (novosEnums nomes)).sem M b).2.coluna = nomes) := by
  simp only [SqlDespesas.sem]
  cases altered : M.alterar (novosEnums nomes) b.coluna with
  | none => exact .inl ⟨rfl, rfl⟩
  | some depois =>
    obtain rfl := alterar_planos planos algum altered
    cases converted : M.converter depois b.despesas with
    | none => simp [converted]
    | some despesas => simp [converted]

/-- A name that is in the list is refused, another is appended or refused by MySQL. -/
theorem run_acrescentarCategoria {nome : Texto} (planos : ∀ nome ∈ w.state.coluna, Plano nome)
    (plano : Plano nome) :
    let fim := (acrescentarCategoria w.state.coluna nome).run
      (Faulty.exec (SqlDespesas.sem M) Tx.rejeicao) w
    (aceita fim.1 = false ∧ fim.2.state = w.state) ∨
      (aceita fim.1 = true ∧ nome ∉ w.state.coluna ∧
        fim.2.state.coluna = w.state.coluna ++ [nome]) := by
  intro fim
  by_cases old : nome ∈ w.state.coluna
  · have refused : fim = (.ok ⟨400, "Categoria já existe", none⟩, w) := by
      simp only [fim, acrescentarCategoria, List.contains_iff_mem.mpr old, if_true]
      rfl
    exact .inl (by simp [refused, aceita])
  · let q := SqlDespesas.alterCategoria (novosEnums (w.state.coluna ++ [nome]))
    have asked : fim = (sqlDespesas q >>= fun feito => ouErro feito >>= fun _ =>
        (pure ⟨201, "Categoria adicionada com sucesso", none⟩ : RotaDespesa Resposta)).run
          (Faulty.exec (SqlDespesas.sem M) Tx.rejeicao) w := by
      have absent : w.state.coluna.contains nome = false := by simpa using old
      simp only [fim, acrescentarCategoria, absent, Bool.false_eq_true, if_false]
      rfl
    cases fault : w.faults.headD false with
    | true =>
      rw [run_ask_rejected fault] at asked
      exact .inl (by simp [asked, aceita])
    | false =>
      rw [run_ask_answered fault] at asked
      have names : ∀ x ∈ w.state.coluna ++ [nome], Plano x := by
        simpa [or_imp, forall_and] using ⟨planos, plano⟩
      rcases alterCategoria_planos (M := M) (b := w.state) names (by simp) with
        ⟨refused, same⟩ | ⟨done', grown⟩
      · rw [refused] at asked
        have ends : fim = (.error "Data truncated for column 'categoria' at row 1",
          ⟨(q.sem M w.state).2, w.faults.tail⟩) := asked
        exact .inl (by simp [ends, aceita, q, same])
      · rw [done'] at asked
        have ends : fim = (.ok ⟨201, "Categoria adicionada com sucesso", none⟩,
          ⟨(q.sem M w.state).2, w.faults.tail⟩) := asked
        exact .inr ⟨by simp [ends, aceita], old, by simpa [ends] using grown⟩

/-- The list stays, or the request is accepted and its name, which was new, is appended. -/
theorem run_gravarCategoria {nome : Texto} (planos : ∀ nome ∈ w.state.coluna, Plano nome)
    (algum : w.state.coluna ≠ []) (vazio : [] ∉ w.state.coluna) (plano : Plano nome) :
    let fim := (gravarCategoria nome).run (Faulty.exec (SqlDespesas.sem M) Tx.rejeicao) w
    (aceita fim.1 = false ∧ fim.2.state = w.state) ∨
      (aceita fim.1 = true ∧ nome ∉ w.state.coluna ∧
        fim.2.state.coluna = w.state.coluna ++ [nome]) := by
  intro fim
  cases fault : w.faults.headD false with
  | true =>
    have ends : fim = (.error Tx.rejeicao, ⟨w.state, w.faults.tail⟩) := run_ask_rejected fault _
    exact .inl (by simp [ends, aceita])
  | false =>
    have read : fim = (acrescentarCategoria w.state.coluna nome).run
        (Faulty.exec (SqlDespesas.sem M) Tx.rejeicao) ⟨w.state, w.faults.tail⟩ := by
      refine (run_ask_answered fault _).trans ?_
      simp only [SqlDespesas.sem, valoresDoEnum, enumDeDespesas_tipo planos algum, pure_eq,
        bind_done, filter_nomes vazio]
    rw [read]
    exact run_acrescentarCategoria (w := ⟨w.state, w.faults.tail⟩) planos plano

theorem atendida_planos (planos : ∀ nome ∈ w.state.coluna, Plano nome)
    (algum : w.state.coluna ≠ []) (vazio : [] ∉ w.state.coluna) :
    PedidoAtendido nova w.state.coluna (atenderPedido M nova w) := by
  rcases adicionarCategoria_eq nova with ⟨erro, refused⟩ | ⟨checked, asked⟩
  · rw [atenderPedido, refused]
    exact ⟨fun _ => rfl, fun accepted => by simp [Prog.run, aceita] at accepted⟩
  · have ends := run_gravarCategoria (M := M) planos algum vazio (plano_conferido checked)
    rw [atenderPedido, asked, run_handle]
    dsimp only at ends
    rcases ran : (gravarCategoria (normalizar (nova.getD []))).run
      (Faulty.exec (SqlDespesas.sem M) Tx.rejeicao) w with ⟨answer, w'⟩
    rw [ran] at ends
    cases answer with
    | error erro =>
      have same : w'.state = w.state := by simpa [aceita] using ends
      exact ⟨fun _ => congrArg Despesas.coluna same, fun accepted => Bool.noConfusion accepted⟩
    | ok resposta =>
      rcases ends with ⟨refused, same⟩ | ⟨accepted, new, grown⟩
      · exact ⟨fun _ => congrArg Despesas.coluna same,
          fun accepted => Bool.noConfusion (refused.symm.trans accepted)⟩
      · exact ⟨fun refused => Bool.noConfusion (accepted.symm.trans refused),
          fun _ => ⟨checked, new, grown⟩⟩

end Uma

section Muitas

variable {M : MySqlEnum}

/-- The invariant of a run: plain names, none empty and none twice. -/
structure SoPlanos (coluna : List Texto) : Prop where
  planos : ∀ nome ∈ coluna, Plano nome
  alguma : coluna ≠ []
  vazio : [] ∉ coluna
  distintos : coluna.Nodup

theorem soPlanos_append {coluna : List Texto} (plain : SoPlanos coluna) {nome : Texto}
    (checked : nomeDeCategoria nome = true) (new : nome ∉ coluna) : SoPlanos (coluna ++ [nome]) where
  planos := by simpa [or_imp, forall_and] using ⟨plain.planos, plano_conferido checked⟩
  alguma := by simp
  vazio := by
    have filled : nome ≠ [] := by
      rintro rfl
      cases checked
    simpa [filled.symm] using plain.vazio
  distintos := by
    refine List.nodup_append.mpr ⟨plain.distintos, List.nodup_singleton _, ?_⟩
    rintro a member b single rfl
    exact new (List.mem_singleton.mp single ▸ member)

theorem atendidas_planos (novas : List (Option Texto)) (w : Faulty Despesas)
    (plain : SoPlanos w.state.coluna) :
    SoPlanos (atendidas M novas w).state.coluna ∧
      (atendidas M novas w).state.coluna = w.state.coluna ++ aceitas M novas w := by
  induction novas generalizing w with
  | nil => exact ⟨plain, by simp [atendidas, aceitas]⟩
  | cons nova resto ih =>
    have one : PedidoAtendido nova w.state.coluna (atenderPedido M nova w) :=
      atendida_planos plain.planos plain.alguma plain.vazio
    rw [atendidas, aceitas]
    cases accepted : aceita (atenderPedido M nova w).1 with
    | false =>
      have same := one.recusada accepted
      obtain ⟨kept, grown⟩ := ih (atenderPedido M nova w).2 (same ▸ plain)
      refine ⟨kept, ?_⟩
      rw [grown, same]
      rfl
    | true =>
      obtain ⟨checked, new, appended⟩ := one.aceita accepted
      obtain ⟨kept, grown⟩ := ih (atenderPedido M nova w).2
        (appended ▸ soPlanos_append plain checked new)
      refine ⟨kept, ?_⟩
      rw [grown, appended, List.append_assoc]
      rfl

/-- Where every name of the column stands for itself in SQL, a run can only append to it. -/
theorem soCresce (novas : List (Option Texto)) (w : Faulty Despesas)
    (coluna : ColunaEnum w.state.coluna)
    (literais : ∀ nome ∈ w.state.coluna, desfazer nome = some nome) : SoCresce M novas w := by
  have plain : SoPlanos w.state.coluna :=
    ⟨fun nome member => ⟨coluna.caracteres nome member, literais nome member,
      coluna.espacos nome member⟩, coluna.alguma, coluna.vazio, coluna.distintos⟩
  obtain ⟨kept, grown⟩ := atendidas_planos (M := M) novas w plain
  refine ⟨grown, kept.distintos, fun nova => ?_, ?_⟩
  · exact (atendida_planos kept.planos kept.alguma kept.vazio).recusada
  · rw [run_listarCategorias kept.planos kept.alguma kept.vazio]

end Muitas

section Example

def contasDaCasa : Faulty Despesas := ⟨{ coluna := ["aluguel".toList, "água e luz".toList] }, []⟩

/-- The second request is refused. -/
theorem material_escolar :
    SoCresce mysqlSemModo [some " Material  Escolar".toList, some "Aluguel".toList] contasDaCasa :=
  soCresce _ _
    { alguma := by simp [contasDaCasa]
      distintos := by decide
      vazio := by decide
      caracteres := by simp [contasDaCasa, fimDeLinha]
      espacos := by decide }
    (by decide)

def comBarra : Faulty Despesas := ⟨{ coluna := ["água\\luz".toList] }, []⟩

/-- The backslash of a name is an escape in the statement, which renames it. -/
theorem barra_perdida :
    ColunaEnum comBarra.state.coluna ∧ ¬ SoCresce mysqlSemModo [some "aluguel".toList] comBarra := by
  refine ⟨⟨by simp [comBarra], by decide, by decide, by simp [comBarra, fimDeLinha], by decide⟩, ?_⟩
  intro grows
  have list := grows.lista
  revert list
  decide +kernel

end Example
end IceClube
