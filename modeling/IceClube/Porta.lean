import IceClube.Execucao

/-! The door of a sector. A session is opened by the personal password, then by the button that
chooses a sector its role may enter, then by the sector's own password; the history of the chat
tells them apart. -/
namespace IceClube

open Coop Prog

def desde (r : Nat) (historia : List Fato) : List Fato := historia.takeWhile (· ≠ .criou r)

/-- The personal password was checked, or set while it was awaited. -/
def Identificou (historia : List Fato) : Prop :=
  .senhaPessoal ∈ historia ∨ .senhaDefinida (some .aguardandoSenha) ∈ historia

/-- The button chooses the sector. -/
def Escolhe (data : Texto) (setor : Setor) : Prop :=
  data.startsWith "setor_".toList = true ∧
    Setor.deTexto (Texto.remover "setor_".toList data) = some setor

/-- A button chose the sector while the object had the role for it. -/
def Escolheu (r : Nat) (setor : Setor) (historia : List Fato) : Prop :=
  ∃ data, Escolhe data setor ∧
    [.atribuiu r (some setor.cargo) (.setor (some setor)), .botao data] <:+: historia

/-- The sector's password was accepted after the login and after the choice. -/
def Liberou (r : Nat) (setor : Setor) (historia : List Fato) : Prop :=
  ∃ depois antes, historia = depois ++ .senhaSetor setor :: antes ∧ Identificou antes ∧
    Escolheu r setor antes

/-- What the history must say when `chatbot.js` calls a sector with an object. -/
def Autorizada (r : Nat) (setor : Setor) (historia : List Fato) : Prop :=
  .criou r ∈ historia ∧ Liberou r setor (desde r historia)

structure Guardada (k : Conversa) : Prop where
  criada : ∀ r < k.proximo, .criou r ∈ k.historia
  cargo : ∀ r, (k.objetos r).cargo.isSome = true → .criou r ∈ k.historia
  logado : ∀ r, (k.objetos r).logado = true → Identificou (desde r k.historia)
  setor : ∀ r setor, (k.objetos r).setor = some setor →
    .criou r ∈ k.historia ∧ Escolheu r setor (desde r k.historia)
  autenticado : ∀ r setor, (k.objetos r).autenticado = true → (k.objetos r).setor = some setor →
    Liberou r setor (desde r k.historia)
  chamadas : ∀ depois r setor antes, k.historia = depois ++ .chamou r setor :: antes →
    Autorizada r setor antes

section Historia

variable {r : Nat} {setor : Setor} {novos historia : List Fato} {fato : Fato}

theorem desde_append (outros : ∀ fato ∈ novos, fato ≠ .criou r) :
    desde r (novos ++ historia) = novos ++ desde r historia := by
  rw [desde, List.takeWhile_append_of_pos, desde]
  simpa using outros

theorem Identificou.append (h : Identificou historia) : Identificou (novos ++ historia) :=
  h.imp (List.mem_append_right _) (List.mem_append_right _)

theorem Escolheu.append (h : Escolheu r setor historia) : Escolheu r setor (novos ++ historia) := by
  obtain ⟨data, escolhe, dentro⟩ := h
  exact ⟨data, escolhe, dentro.trans (List.suffix_append novos historia).isInfix⟩

theorem Identificou.tail (h : Identificou (fato :: historia)) (pessoal : fato ≠ .senhaPessoal)
    (definida : fato ≠ .senhaDefinida (some .aguardandoSenha)) : Identificou historia :=
  h.imp (fun member => (List.mem_cons.mp member).resolve_left (Ne.symm pessoal))
    fun member => (List.mem_cons.mp member).resolve_left (Ne.symm definida)

theorem Escolheu.tail (h : Escolheu r setor (fato :: historia))
    (outro : fato ≠ .atribuiu r (some setor.cargo) (.setor (some setor))) :
    Escolheu r setor historia := by
  obtain ⟨data, escolhe, dentro⟩ := h
  refine ⟨data, escolhe, (List.infix_cons_iff.mp dentro).resolve_left fun begins => ?_⟩
  exact outro (List.cons_prefix_cons.mp begins).1.symm

theorem Liberou.append (h : Liberou r setor historia) : Liberou r setor (novos ++ historia) := by
  obtain ⟨depois, antes, rfl, h⟩ := h
  exact ⟨novos ++ depois, antes, by rw [List.append_assoc], h⟩

end Historia

def Campo.abre : Campo → Bool
  | .setor (some _) | .autenticado true | .logado true | .cargo _ => true
  | _ => false

/-- What the conversation shows when a field of an object is assigned; the choice of a sector
is told apart. -/
def Permite (k : Conversa) (r : Nat) : Campo → Prop
  | .logado true => k.historia.head? = some .senhaPessoal ∨
    k.historia.head? = some (.senhaDefinida (some .aguardandoSenha))
  | .cargo _ => .criou r ∈ k.historia
  | .autenticado true => (k.objetos r).logado = true ∧
    ∃ setor, (k.objetos r).setor = some setor ∧ k.historia.head? = some (.senhaSetor setor)
  | .setor (some _) => False
  | _ => True

/-- The assignments that keep the door. -/
inductive Licenca (k : Conversa) (r : Nat) : List Campo → Prop
  | comum {campos : List Campo} (todos : ∀ campo ∈ campos, Permite k r campo) : Licenca k r campos
  | escolha {resto : List Campo} {setor : Setor} {data : Texto}
    (fora : (k.objetos r).autenticado = false) (cargo : (k.objetos r).cargo = some setor.cargo)
    (botao : k.historia.head? = some (.botao data)) (escolhe : Escolhe data setor)
    (todos : resto.all (fun campo => !campo.abre) = true) :
    Licenca k r (.setor (some setor) :: resto)

theorem permite_fechado {k : Conversa} {r : Nat} {campo : Campo} (fechado : campo.abre = false) :
    Permite k r campo := by
  cases campo with
  | setor valor => cases valor <;> trivial
  | autenticado valor => cases valor <;> trivial
  | logado valor => cases valor <;> trivial
  | cargo valor => cases fechado
  | _ => trivial

theorem permite_fechados {k : Conversa} {r : Nat} {campos : List Campo} {campo : Campo}
    (todos : campos.all (fun campo => !campo.abre) = true) (member : campo ∈ campos) :
    Permite k r campo :=
  permite_fechado (by simpa using List.all_eq_true.mp todos campo member)

theorem licenca_fechada {k : Conversa} {r : Nat} {campos : List Campo}
    (todos : campos.all (fun campo => !campo.abre) = true) : Licenca k r campos :=
  .comum fun _ member => permite_fechados todos member

/-- A value that a field has after assignments was there before or is one of theirs. -/
theorem atribuirTodos_de {α : Type} (visao : Sessao → α) {a : α} (grava : Campo → Prop)
    (um : ∀ s campo, visao (s.atribuir campo) = a → visao s = a ∨ grava campo)
    {campos : List Campo} {s : Sessao} (depois : visao (s.atribuirTodos campos) = a) :
    visao s = a ∨ ∃ campo ∈ campos, grava campo := by
  induction campos generalizing s with
  | nil => exact .inl depois
  | cons campo campos ih =>
    rcases ih depois with antes | ⟨outro, member, grava⟩
    · exact (um s campo antes).imp id fun grava => ⟨campo, List.mem_cons_self, grava⟩
    · exact .inr ⟨outro, List.mem_cons_of_mem _ member, grava⟩

section Campos

variable {campos : List Campo} {s : Sessao} {setor : Setor}

theorem logado_de (depois : (s.atribuirTodos campos).logado = true) :
    s.logado = true ∨ .logado true ∈ campos := by
  refine (atribuirTodos_de (·.logado) (fun campo => campo = .logado true)
    (fun s campo depois => ?_) depois).imp id fun ⟨_, member, same⟩ => same ▸ member
  cases campo with
  | logado valor => exact .inr (congrArg Campo.logado depois)
  | _ => exact .inl depois

theorem autenticado_de (depois : (s.atribuirTodos campos).autenticado = true) :
    s.autenticado = true ∨ .autenticado true ∈ campos := by
  refine (atribuirTodos_de (·.autenticado) (fun campo => campo = .autenticado true)
    (fun s campo depois => ?_) depois).imp id fun ⟨_, member, same⟩ => same ▸ member
  cases campo with
  | autenticado valor => exact .inr (congrArg Campo.autenticado depois)
  | _ => exact .inl depois

theorem setor_de (depois : (s.atribuirTodos campos).setor = some setor) :
    s.setor = some setor ∨ .setor (some setor) ∈ campos := by
  refine (atribuirTodos_de (·.setor) (fun campo => campo = .setor (some setor))
    (fun s campo depois => ?_) depois).imp id fun ⟨_, member, same⟩ => same ▸ member
  cases campo with
  | setor valor => exact .inr (congrArg Campo.setor depois)
  | _ => exact .inl depois

theorem cargo_de (depois : (s.atribuirTodos campos).cargo.isSome = true) :
    s.cargo.isSome = true ∨ ∃ valor, .cargo valor ∈ campos := by
  refine (atribuirTodos_de (fun s => s.cargo.isSome) (fun campo => ∃ valor, campo = .cargo valor)
    (fun s campo depois => ?_) depois).imp id
    fun ⟨_, member, valor, same⟩ => ⟨valor, same ▸ member⟩
  cases campo with
  | cargo valor => exact .inr ⟨valor, rfl⟩
  | _ => exact .inl depois

end Campos

def Fato.comum : Fato → Bool
  | .criou _ | .chamou .. => false
  | _ => true

namespace Guardada

variable {k k' : Conversa} {novos : List Fato}

/-- Common facts happened, and each field shows what it may. -/
theorem muda (g : Guardada k) (mesmos : k'.proximo = k.proximo)
    (historia : k'.historia = novos ++ k.historia) (comuns : ∀ fato ∈ novos, fato.comum = true)
    (cargo : ∀ r, (k'.objetos r).cargo.isSome = true → .criou r ∈ k.historia)
    (logado : ∀ r, (k'.objetos r).logado = true → Identificou (desde r k.historia))
    (setor : ∀ r setor, (k'.objetos r).setor = some setor →
      .criou r ∈ k.historia ∧ Escolheu r setor (novos ++ desde r k.historia))
    (autenticado : ∀ r setor, (k'.objetos r).autenticado = true →
      (k'.objetos r).setor = some setor → Liberou r setor (desde r k.historia)) :
    Guardada k' := by
  have recente (r : Nat) : desde r k'.historia = novos ++ desde r k.historia := by
    rw [historia]
    refine desde_append fun fato member same => ?_
    have := comuns fato member
    rw [same] at this
    cases this
  have antiga {fato : Fato} (member : fato ∈ k.historia) : fato ∈ k'.historia :=
    historia ▸ List.mem_append_right _ member
  refine ⟨fun r old => antiga (g.criada r (mesmos ▸ old)), fun r shown => antiga (cargo r shown),
    fun r shown => ?_, fun r x shown => ?_, fun r x auth shown => ?_,
    fun depois r x antes split => ?_⟩
  · rw [recente]
    exact (logado r shown).append
  · rw [recente]
    exact ⟨antiga (setor r x shown).1, (setor r x shown).2⟩
  · rw [recente]
    exact (autenticado r x auth shown).append
  · -- the call is not among the new facts
    rw [historia] at split
    rcases List.append_eq_append_iff.mp split with ⟨meio, -, rest⟩ | ⟨meio, new, rest⟩
    · exact g.chamadas meio r x antes rest
    · cases meio with
      | nil => exact g.chamadas [] r x antes rest.symm
      | cons fato meio =>
        obtain ⟨rfl, -⟩ := List.cons.inj rest
        have := comuns (.chamou r x) (by rw [new]; simp)
        cases this

theorem anota (g : Guardada k) (novos : List Fato) (mesmos : k'.proximo = k.proximo)
    (objetos : k'.objetos = k.objetos)
    (historia : k'.historia = novos ++ k.historia) (comuns : ∀ fato ∈ novos, fato.comum = true) :
    Guardada k' := by
  refine g.muda mesmos historia comuns ?_ ?_ ?_ ?_ <;> rw [objetos]
  · exact g.cargo
  · exact g.logado
  · exact fun r setor shown => ⟨(g.setor r setor shown).1, (g.setor r setor shown).2.append⟩
  · exact g.autenticado

theorem guarda (g : Guardada k) (r : Nat) : Guardada (k.guarda r) :=
  g.anota [] rfl rfl rfl (by simp)

theorem apaga (g : Guardada k) (saida : Saida) : Guardada (k.apaga saida) :=
  g.anota [.apagou saida k.proximo] rfl rfl rfl (by simp [Fato.comum])

theorem nota (g : Guardada k) {fato : Fato} (comum : fato.comum = true) :
    Guardada (k.anota [fato]) :=
  g.anota [fato] rfl rfl rfl (by simpa using comum)

theorem cria (g : Guardada k) (inicio : Inicio) : Guardada (k.cria inicio) := by
  have novo : (k.cria inicio).objetos k.proximo = inicio.sessao := Conversa.objetos_cria ..
  have velho {r : Nat} (other : r ≠ k.proximo) : (k.cria inicio).objetos r = k.objetos r :=
    if_neg other
  have recente {r : Nat} (other : r ≠ k.proximo) :
      desde r (k.cria inicio).historia = [.criou k.proximo] ++ desde r k.historia := by
    change desde r ([.criou k.proximo] ++ k.historia) = _
    exact desde_append (by simpa using Ne.symm other)
  refine ⟨fun r old => ?_, fun r shown => ?_, fun r shown => ?_, fun r x shown => ?_,
    fun r x auth shown => ?_, fun depois r x antes split => ?_⟩
  · by_cases same : r = k.proximo
    · exact same ▸ List.mem_cons_self
    · exact List.mem_cons_of_mem _ (g.criada r (Nat.lt_of_le_of_ne (Nat.le_of_lt_succ old) same))
  · by_cases same : r = k.proximo
    · exact same ▸ List.mem_cons_self
    · rw [velho same] at shown
      exact List.mem_cons_of_mem _ (g.cargo r shown)
  · by_cases same : r = k.proximo
    · rw [same, novo] at shown
      cases shown
    · rw [velho same] at shown
      rw [recente same]
      exact (g.logado r shown).append
  · by_cases same : r = k.proximo
    · rw [same, novo] at shown
      cases shown
    · rw [velho same] at shown
      rw [recente same]
      exact ⟨List.mem_cons_of_mem _ (g.setor r x shown).1, (g.setor r x shown).2.append⟩
  · by_cases same : r = k.proximo
    · rw [same, novo] at auth
      cases auth
    · rw [velho same] at auth shown
      rw [recente same]
      exact (g.autenticado r x auth shown).append
  · cases depois with
    | nil => cases (List.cons.inj split).1
    | cons fato depois => exact g.chamadas depois r x antes (List.cons.inj split).2

theorem chama (g : Guardada k) {r : Nat} {setor : Setor}
    (escolhido : (k.objetos r).setor = some setor) (aberta : (k.objetos r).autenticado = true) :
    Guardada (k.anota [.chamou r setor]) := by
  have recente (r' : Nat) :
      desde r' (k.anota [.chamou r setor]).historia = [.chamou r setor] ++ desde r' k.historia :=
    desde_append (by simp)
  refine ⟨fun r' old => List.mem_cons_of_mem _ (g.criada r' old),
    fun r' shown => List.mem_cons_of_mem _ (g.cargo r' shown), fun r' shown => ?_,
    fun r' x shown => ?_, fun r' x auth shown => ?_, fun depois r' x antes split => ?_⟩
  · rw [recente]
    exact (g.logado r' shown).append
  · rw [recente]
    exact ⟨List.mem_cons_of_mem _ (g.setor r' x shown).1, (g.setor r' x shown).2.append⟩
  · rw [recente]
    exact (g.autenticado r' x auth shown).append
  · cases depois with
    | nil =>
      obtain ⟨same, rfl⟩ := List.cons.inj split
      cases same
      exact ⟨(g.setor r setor escolhido).1, g.autenticado r setor aberta escolhido⟩
    | cons fato depois => exact g.chamadas depois r' x antes (List.cons.inj split).2

/-- The newest fact is also the newest since the object was created. -/
theorem topo {r : Nat} {fato : Fato} (head : k.historia.head? = some fato) (outro : fato ≠ .criou r) :
    ∃ antes, desde r k.historia = fato :: antes := by
  obtain ⟨rest, whole⟩ := List.head?_eq_some_iff.mp head
  exact ⟨desde r rest, by rw [whole, desde, List.takeWhile_cons_of_pos (by simpa using outro), desde]⟩

section Atribui

variable {r : Nat} {campos : List Campo} (g : Guardada k) (licenca : Licenca k r campos)
include g licenca

theorem cargo_atribui (shown : ((k.objetos r).atribuirTodos campos).cargo.isSome = true) :
    .criou r ∈ k.historia := by
  rcases cargo_de shown with before | ⟨valor, member⟩
  · exact g.cargo r before
  cases licenca with
  | comum todos => exact todos _ member
  | escolha _ cargo _ _ _ => exact g.cargo r (by rw [cargo]; rfl)

theorem logado_atribui (shown : ((k.objetos r).atribuirTodos campos).logado = true) :
    Identificou (desde r k.historia) := by
  rcases logado_de shown with before | member
  · exact g.logado r before
  cases licenca with
  | comum todos =>
    rcases todos _ member with head | head
    · obtain ⟨antes, whole⟩ := topo head (r := r) (by simp)
      rw [whole]
      exact .inl List.mem_cons_self
    · obtain ⟨antes, whole⟩ := topo head (r := r) (by simp)
      rw [whole]
      exact .inr List.mem_cons_self
  | escolha _ _ _ _ todos =>
    rcases List.mem_cons.mp member with same | member
    · cases same
    · simpa [Campo.abre] using List.all_eq_true.mp todos _ member

theorem setor_atribui {setor : Setor}
    (shown : ((k.objetos r).atribuirTodos campos).setor = some setor) :
    .criou r ∈ k.historia ∧ Escolheu r setor
      ((campos.map fun campo => Fato.atribuiu r (k.objetos r).cargo campo).reverse ++
        desde r k.historia) := by
  rcases setor_de shown with before | member
  · exact ⟨(g.setor r setor before).1, (g.setor r setor before).2.append⟩
  cases licenca with
  | comum todos => exact (todos _ member).elim
  | @escolha resto x data _ cargo botao escolhe todos =>
    rcases List.mem_cons.mp member with same | member
    · cases same
      obtain ⟨antes, whole⟩ := topo botao (r := r) (by simp)
      refine ⟨g.cargo r (by rw [cargo]; rfl), data, escolhe, ?_⟩
      rw [whole, cargo, List.map_cons, List.reverse_cons]
      refine ⟨(resto.map fun campo => Fato.atribuiu r (some setor.cargo) campo).reverse, antes, ?_⟩
      simp only [List.append_assoc, List.cons_append, List.nil_append]
    · simpa [Campo.abre] using List.all_eq_true.mp todos _ member

theorem autenticado_atribui {setor : Setor}
    (auth : ((k.objetos r).atribuirTodos campos).autenticado = true)
    (shown : ((k.objetos r).atribuirTodos campos).setor = some setor) :
    Liberou r setor (desde r k.historia) := by
  cases licenca with
  | comum todos =>
    have before : (k.objetos r).setor = some setor :=
      (setor_de shown).resolve_right fun member => (todos _ member).elim
    rcases autenticado_de auth with already | member
    · exact g.autenticado r setor already before
    obtain ⟨logado, x, chosen, head⟩ := todos _ member
    obtain rfl := Option.some.inj (chosen.symm.trans before)
    obtain ⟨antes, whole⟩ := topo head (r := r) (by simp)
    have identificou := g.logado r logado
    have escolheu := (g.setor r x before).2
    rw [whole] at identificou escolheu ⊢
    exact ⟨[], antes, rfl, identificou.tail (by simp) (by simp), escolheu.tail (by simp)⟩
  | escolha fora _ _ _ todos =>
    rcases autenticado_de auth with already | member
    · rw [fora] at already
      cases already
    · rcases List.mem_cons.mp member with same | member
      · cases same
      · simpa [Campo.abre] using List.all_eq_true.mp todos _ member

theorem atribui : Guardada (k.atribui r campos) := by
  have outro {r' : Nat} (other : r' ≠ r) : (k.atribui r campos).objetos r' = k.objetos r' :=
    Conversa.objetos_atribui_ne _ _ _ other
  have proprio : (k.atribui r campos).objetos r = (k.objetos r).atribuirTodos campos :=
    Conversa.objetos_atribui ..
  refine g.muda rfl rfl (fun fato member => ?_) (fun r' shown => ?_) (fun r' shown => ?_)
    (fun r' x shown => ?_) fun r' x auth shown => ?_
  · obtain ⟨campo, -, rfl⟩ := List.mem_map.mp (List.mem_reverse.mp member)
    rfl
  · by_cases same : r' = r
    · subst same
      exact cargo_atribui g licenca (proprio ▸ shown)
    · exact g.cargo r' (outro same ▸ shown)
  · by_cases same : r' = r
    · subst same
      exact logado_atribui g licenca (proprio ▸ shown)
    · exact g.logado r' (outro same ▸ shown)
  · by_cases same : r' = r
    · subst same
      exact setor_atribui g licenca (proprio ▸ shown)
    · rw [outro same] at shown
      exact ⟨(g.setor r' x shown).1, (g.setor r' x shown).2.append⟩
  · by_cases same : r' = r
    · subst same
      exact autenticado_atribui g licenca (proprio ▸ auth) (proprio ▸ shown)
    · rw [outro same] at auth shown
      exact g.autenticado r' x auth shown

end Atribui
end Guardada

end IceClube
