import IceClube.Requests

/-! Two runs of one system from states that differ only in what its programs are never told.
While the calls are answered alike the runs go in step: they hold the same tasks, so that nothing
they do tells the states apart. -/
namespace Coop.System

open Prog

variable {Req Env ε Op α S : Type} {Res : Op → Type}

section

variable (M : System Req Env ε Res α S) (K : Contract ε Res Unit) (like : S → S → Prop)

/-- From states that are alike a call is answered alike, as the contract says, and leaves states
that are alike. -/
def Discreet : Prop :=
  ∀ o s s', like s s' → K.pre o () → (M.exec o s).1 = (M.exec o s').1 ∧
    K.post o () (M.exec o s).1 () ∧ like (M.exec o s).2 (M.exec o s').2

/-- The same step of both runs; only what others do may differ. -/
inductive Twin : Action Req Env → Action Req Env → Prop
  | arrive {request : Req} (obeys : ∀ p ∈ M.listeners request, Obeys K p) :
    Twin (.arrive request) (.arrive request)
  | step (task : Nat) : Twin (.step task) (.step task)
  | drift {change change' : Env}
    (alike : ∀ s s', like s s' → like (M.drift change s) (M.drift change' s')) :
    Twin (.drift change) (.drift change')

structure Alike (c c' : Config ε Res α S) : Prop where
  state : like c.state c'.state
  tasks : c.tasks = c'.tasks
  obeys : ∀ p ∈ c.tasks, Obeys K p

end

variable {M : System Req Env ε Res α S} {K : Contract ε Res Unit} {like : S → S → Prop}
  (discreet : Discreet M K like)
include discreet

theorem settle_alike {p : Prog ε Res α} {s s' : S} (alike : like s s') (obeys : Obeys K p) :
    (M.settle p s).1 = (M.settle p s').1 ∧ like (M.settle p s).2 (M.settle p s').2 ∧
      Obeys K (M.settle p s).1 := by
  induction p generalizing s s' with
  | done a => exact ⟨rfl, alike, obeys⟩
  | fail e => exact ⟨rfl, alike, obeys⟩
  | call o next ih =>
    rw [settle, settle]
    split
    next =>
      obtain ⟨same, post, after⟩ := discreet o s s' alike obeys.1
      rw [← same]
      exact ih _ after (obeys.2 _ () post)
    next => exact ⟨rfl, alike, obeys⟩

theorem enter_alike {ps : List (Prog ε Res α)} (obeys : ∀ p ∈ ps, Obeys K p)
    {c c' : Config ε Res α S} (alike : Alike K like c c') :
    Alike K like (M.enter ps c) (M.enter ps c') := by
  induction ps generalizing c c' with
  | nil => exact alike
  | cons p rest ih =>
    obtain ⟨same, after, obeyed⟩ :=
      settle_alike discreet alike.state (obeys p List.mem_cons_self)
    refine ih (fun q member => obeys q (List.mem_cons_of_mem _ member)) ⟨after, ?_, ?_⟩
    · rw [alike.tasks, same]
    · exact List.forall_mem_append.mpr ⟨alike.obeys, List.forall_mem_singleton.mpr obeyed⟩

theorem advance_alike {a a' : Action Req Env} (twin : Twin M K like a a')
    {c c' : Config ε Res α S} (alike : Alike K like c c') :
    Alike K like (M.advance a c) (M.advance a' c') := by
  cases twin with
  | arrive obeys => exact enter_alike discreet obeys alike
  | drift drifts => exact ⟨drifts _ _ alike.state, alike.tasks, alike.obeys⟩
  | step task =>
    rw [advance, advance, resume, resume, ← alike.tasks]
    cases found : c.tasks[task]? with
    | none => exact alike
    | some p =>
      cases p with
      | done a => exact alike
      | fail e => exact alike
      | call o next =>
        have obeys := alike.obeys _ (List.mem_of_getElem? found)
        obtain ⟨same, post, after⟩ := discreet o _ _ alike.state obeys.1
        obtain ⟨same', after', obeyed⟩ := settle_alike discreet after (obeys.2 _ () post)
        rw [same] at same' after' obeyed
        refine ⟨by simpa only [same] using after', ?_, fun q member => ?_⟩
        · simp only [same, same']
        · rcases List.mem_or_eq_of_mem_set member with old | rfl
          · exact alike.obeys q old
          · simpa only [same] using obeyed

/-- Runs of the same steps stay in step. -/
theorem execute_alike {actions actions' : List (Action Req Env)}
    (twins : List.Forall₂ (Twin M K like) actions actions') {c c' : Config ε Res α S}
    (alike : Alike K like c c') : Alike K like (M.execute actions c) (M.execute actions' c') := by
  induction twins generalizing c c' with
  | nil => exact alike
  | cons twin _ ih => exact ih (advance_alike discreet twin alike)

end Coop.System
