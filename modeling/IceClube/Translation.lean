import IceClube.Requests

/-! Programs whose calls are carried out by programs over other calls, and runs of programs that
keep one contract, each from its own request on. -/
namespace Coop

open Prog

namespace Prog

variable {ε Op Op' α V : Type} {Res : Op → Type} {Res' : Op' → Type}

def attempt (o : Op) : Prog ε Res (Except ε (Res o)) := call o done

def outcome : Prog ε Res α → Prog ε Res (Except ε α)
  | done a => done (.ok a)
  | fail e => done (.error e)
  | call o next => call o fun answer => outcome (next answer)

/-- `send` carries out a call and tells its answer. -/
def through (send : (o : Op) → Prog ε Res' (Except ε (Res o))) :
    Prog ε Res α → Prog ε Res' α
  | done a => done a
  | fail e => fail e
  | call o next => send o >>= fun answer => through send (next answer)

/-- Calls carried out as `exec` would answer them. -/
theorem run_through {S : Type} {exec : Exec ε Res S} {exec' : Exec ε Res' S}
    {send : (o : Op) → Prog ε Res' (Except ε (Res o))}
    (sends : ∀ o s, (send o).run exec' s = (.ok (exec o s).1, (exec o s).2)) (p : Prog ε Res α)
    (s : S) : (through send p).run exec' s = p.run exec s := by
  induction p generalizing s with
  | done a => rfl
  | fail e => rfl
  | call o next ih =>
    rw [through, run_bind, sends]
    exact ih _ _

theorem run_outcome {S : Type} {exec : Exec ε Res S} (p : Prog ε Res α) (s : S) :
    (outcome p).run exec s = (.ok (p.run exec s).1, (p.run exec s).2) := by
  induction p generalizing s with
  | done a => rfl
  | fail e => rfl
  | call o next ih => exact ih _ _

/-- Executions that answer alike, seen through `view`, on the calls that the program can make. -/
theorem run_view {S S' : Type} {exec : Exec ε Res S} {exec' : Exec ε Res S'} (view : S → S')
    {P : Op → Prop} (alike : ∀ o s, P o →
      (exec o s).1 = (exec' o (view s)).1 ∧ view (exec o s).2 = (exec' o (view s)).2)
    {p : Prog ε Res α} (calls : Calls P p) (s : S) :
    (p.run exec s).1 = (p.run exec' (view s)).1 ∧
      view (p.run exec s).2 = (p.run exec' (view s)).2 := by
  induction p generalizing s with
  | done a => exact ⟨rfl, rfl⟩
  | fail e => exact ⟨rfl, rfl⟩
  | call o next ih =>
    obtain ⟨answer, state⟩ := alike o s calls.1
    rw [run, run, ← answer, ← state]
    exact ih _ (calls_next calls _) _

/-- A contract that has a view for every answer tells what calls a program can make at all. -/
theorem meets_calls {K : Contract ε Res V} {P : Op → Prop} (pre : ∀ o v, K.pre o v → P o)
    (any : ∀ o v answer, ∃ v', K.post o v answer v') {p : Prog ε Res α}
    {Q : Except ε α → V → Prop} {v : V} (h : Meets K p Q v) : Calls P p := by
  let any_view (_ : V) (_ : Unit) : Prop := True
  have follows (o : Op) (v : V) (w : Unit) (_ : any_view v w) (owed : K.pre o v) :
      P o ∧ ∀ answer (w' : Unit), True → ∃ v', K.post o v answer v' ∧ any_view v' w' := by
    refine ⟨pre o v owed, fun answer w' _ => ?_⟩
    obtain ⟨v', post⟩ := any o v answer
    exact ⟨v', post, trivial⟩
  exact meets_mono (meets_simulate follows h trivial) fun _ _ _ => trivial

theorem meets_through {K : Contract ε Res V} {K' : Contract ε Res' V}
    {send : (o : Op) → Prog ε Res' (Except ε (Res o))}
    (sends : ∀ o v, K.pre o v → Meets K' (send o)
      (fun r v' => ∃ answer, r = .ok answer ∧ K.post o v answer v') v)
    {p : Prog ε Res α} {Q : Except ε α → V → Prop} {v : V} (h : Meets K p Q v) :
    Meets K' (through send p) Q v := by
  induction p generalizing v with
  | done a => exact h
  | fail e => exact h
  | call o next ih =>
    rw [through, meets_bind]
    refine meets_mono (sends o v h.1) fun r v' told => ?_
    obtain ⟨answer, rfl, post⟩ := told
    exact ih answer (h.2 answer v' post)

/-- A view that the programs of all calls leave as it is. -/
theorem meets_through_still {K' : Contract ε Res' V}
    {send : (o : Op) → Prog ε Res' (Except ε (Res o))} {v : V}
    (sends : ∀ o, Meets K' (send o) (fun r v' => ∃ answer, r = .ok answer ∧ v' = v) v)
    (p : Prog ε Res α) : Meets K' (through send p) (fun _ v' => v' = v) v := by
  induction p with
  | done a => rfl
  | fail e => rfl
  | call o next ih =>
    rw [through, meets_bind]
    refine meets_mono (sends o) fun r v' told => ?_
    obtain ⟨answer, rfl, rfl⟩ := told
    exact ih answer

theorem meets_outcome {K : Contract ε Res V} {p : Prog ε Res α} {Q : Except ε α → V → Prop} {v : V}
    (h : Meets K p Q v) :
    Meets K (outcome p) (fun r v' => ∃ ended, r = .ok ended ∧ Q ended v') v := by
  induction p generalizing v with
  | done a => exact ⟨_, rfl, h⟩
  | fail e => exact ⟨_, rfl, h⟩
  | call o next ih => exact ⟨h.1, fun answer v' post => ih answer (h.2 answer v' post)⟩

end Prog

namespace System

variable {Req Env ε Op α S : Type} {Res : Op → Type} {M : System Req Env ε Res α S}
  {K : Contract ε Res Unit} {J : S → Prop}

section Keeps

variable (calls : ∀ o s, J s → K.pre o () →
  K.post o () (M.exec o s).1 () ∧ J (M.exec o s).2)
include calls

theorem settle_obeys {p : Prog ε Res α} {s : S} (start : J s) (obeys : Obeys K p) :
    Obeys K (M.settle p s).1 ∧ J (M.settle p s).2 := by
  induction p generalizing s with
  | done a => exact ⟨obeys, start⟩
  | fail e => exact ⟨obeys, start⟩
  | call o next ih =>
    rw [settle]
    split
    · obtain ⟨post, kept⟩ := calls o s start obeys.1
      exact ih _ kept (obeys.2 _ () post)
    · exact ⟨obeys, start⟩

variable {program : Req → Prog ε Res α} (one : ∀ request, M.listeners request = [program request])
  (drifts : ∀ change s, J s → J (M.drift change s))
include one drifts

theorem advance_obeys {c : Config ε Res α S} {a : Action Req Env}
    (starts : ∀ request ∈ arrivals [a], Obeys K (program request))
    (kept : J c.state ∧ ∀ p ∈ c.tasks, Obeys K p) :
    J (M.advance a c).state ∧ ∀ p ∈ (M.advance a c).tasks, Obeys K p := by
  obtain ⟨state, tasks⟩ := kept
  cases a with
  | drift change => exact ⟨drifts change _ state, tasks⟩
  | arrive request =>
    obtain ⟨rest, after⟩ := settle_obeys calls state (starts request (List.mem_singleton_self _))
    simp only [advance, one, enter]
    refine ⟨after, fun p member => ?_⟩
    rcases List.mem_append.mp member with old | new
    · exact tasks p old
    · exact List.mem_singleton.mp new ▸ rest
  | step task =>
    rw [advance, resume]
    cases found : c.tasks[task]? with
    | none => exact ⟨state, tasks⟩
    | some p =>
      cases p with
      | done b => exact ⟨state, tasks⟩
      | fail e => exact ⟨state, tasks⟩
      | call o next =>
        have obeys := tasks _ (List.mem_of_getElem? found)
        obtain ⟨post, kept⟩ := calls o c.state state obeys.1
        obtain ⟨rest, after⟩ := settle_obeys calls kept (obeys.2 _ () post)
        refine ⟨after, fun q member => ?_⟩
        rcases List.mem_or_eq_of_mem_set member with old | rfl
        · exact tasks q old
        · exact rest

/-- Only the requests of the run need to keep the contract, and it may tell of them. -/
theorem execute_obeys_from {actions : List (Action Req Env)} {c : Config ε Res α S}
    (starts : ∀ request ∈ arrivals actions, Obeys K (program request))
    (before : J c.state ∧ ∀ p ∈ c.tasks, Obeys K p) : J (M.execute actions c).state := by
  induction actions generalizing c with
  | nil => exact before.1
  | cons a rest ih =>
    rw [arrivals_cons] at starts
    refine ih (fun request member => starts request (List.mem_append_right _ member)) ?_
    exact advance_obeys calls one drifts
      (fun request member => starts request (List.mem_append_left _ member)) before

end Keeps

section Seen

variable {I : S → Prop} {program : Req → Prog ε Res α}

/-- Without synchronous calls each call is made in a state that the run passes through, and the
contract may tell of these states. -/
theorem execute_obeys_seen (async : ∀ o, M.sync o = false)
    (calls : ∀ o s, I s → J s → K.pre o () → K.post o () (M.exec o s).1 () ∧ J (M.exec o s).2)
    (one : ∀ request, M.listeners request = [program request])
    (drifts : ∀ change s, J s → J (M.drift change s)) {actions : List (Action Req Env)}
    {c : Config ε Res α S} (seen : ∀ pre post, actions = pre ++ post → I (M.execute pre c).state)
    (starts : ∀ request ∈ arrivals actions, Obeys K (program request))
    (before : J c.state ∧ ∀ p ∈ c.tasks, Obeys K p) : J (M.execute actions c).state := by
  induction actions generalizing c with
  | nil => exact before.1
  | cons a rest ih =>
    rw [arrivals_cons] at starts
    have here : I c.state := seen [] _ rfl
    refine ih (fun pre post split => seen (a :: pre) post (congrArg (a :: ·) split))
      (fun request member => starts request (List.mem_append_right _ member)) ?_
    obtain ⟨state, tasks⟩ := before
    cases a with
    | drift change => exact ⟨drifts change _ state, tasks⟩
    | arrive request =>
      simp only [advance, one, enter, settle_async async]
      refine ⟨state, fun p member => ?_⟩
      rcases List.mem_append.mp member with old | new
      · exact tasks p old
      · rw [List.mem_singleton.mp new]
        exact starts request (List.mem_append_left _ (List.mem_singleton_self _))
    | step task =>
      rw [advance, resume]
      cases found : c.tasks[task]? with
      | none => exact ⟨state, tasks⟩
      | some p =>
        cases p with
        | done b => exact ⟨state, tasks⟩
        | fail e => exact ⟨state, tasks⟩
        | call o next =>
          have obeys := tasks _ (List.mem_of_getElem? found)
          obtain ⟨post, kept⟩ := calls o c.state here state obeys.1
          simp only [settle_async async]
          refine ⟨kept, fun q member => ?_⟩
          rcases List.mem_or_eq_of_mem_set member with old | rfl
          · exact tasks q old
          · exact obeys.2 _ () post

end Seen
end System
end Coop
