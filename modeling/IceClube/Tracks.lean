import Mathlib.Logic.Function.Basic
import IceClube.Histories

/-! Tasks seen through views that change with the answers to their own calls. What every call
that its task may make keeps, of all views and the state together, holds along every run. -/
namespace Coop

open Prog

variable {Req Env ε Op α S V : Type} {Res : Op → Type}

/-- The view follows the answers; `pre` says what may be called in it. -/
def Contract.tracking (pre : Op → V → Prop) (after : (o : Op) → Except ε (Res o) → V → V) :
    Contract ε Res V where
  pre := pre
  post o v answer v' := v' = after o answer v

section Tracked

variable (exec : Exec ε Res S) (after : (o : Op) → Except ε (Res o) → V → V) (v₀ : V)

def tracked (l : List (Entry Op S)) : V :=
  l.foldl (fun v e => after e.op (exec e.op e.state).1 v) v₀

def view (l : List (Entry Op S)) (task : Nat) : V := tracked exec after v₀ (own task l)

theorem tracked_append (l : List (Entry Op S)) (e : Entry Op S) :
    tracked exec after v₀ (l ++ [e]) =
      after e.op (exec e.op e.state).1 (tracked exec after v₀ l) := by
  simp [tracked]

theorem view_append (l : List (Entry Op S)) (e : Entry Op S) :
    view exec after v₀ (l ++ [e]) = Function.update (view exec after v₀ l) e.task
      (after e.op (exec e.op e.state).1 (view exec after v₀ l e.task)) := by
  funext task
  rw [view, own_append]
  by_cases mine : task = e.task
  · subst mine
    rw [own_self, tracked_append, Function.update_self]
    rfl
  · rw [own_other mine, List.append_nil, Function.update_of_ne mine]
    rfl

variable {exec after v₀} {pre : Op → V → Prop} {Q : Except ε α → V → Prop}

/-- A program that keeps the contract keeps it through the calls it made. -/
theorem meets_history {p : Prog ε Res α} {v : V} (h : Meets (Contract.tracking pre after) p Q v)
    {l : List (Entry Op S)} (told : v = tracked exec after v₀ l) :
    Meets (Contract.history exec fun o l => pre o (tracked exec after v₀ l)) p
      (fun r l => Q r (tracked exec after v₀ l)) l := by
  let K := Contract.history exec fun o l => pre o (tracked exec after v₀ l)
  let same (v : V) (l : List (Entry Op S)) : Prop := v = tracked exec after v₀ l
  have follows (o : Op) (v : V) (l : List (Entry Op S)) (seen : same v l) (allowed : pre o v) :
      K.pre o l ∧ ∀ answer l', K.post o l answer l' →
        ∃ v', v' = after o answer v ∧ same v' l' := by
    obtain rfl : v = _ := seen
    refine ⟨allowed, fun answer l' ⟨task, s, grown, told⟩ => ⟨_, rfl, ?_⟩⟩
    show _ = tracked exec after v₀ l'
    rw [grown, tracked_append, told]
  have followed : Meets K p (fun r l => ∃ v, Q r v ∧ same v l) l := meets_simulate follows h told
  refine meets_mono followed fun r l' reached => ?_
  obtain ⟨v', ended, rfl⟩ := reached
  exact ended

end Tracked

namespace System

variable {M : System Req Env ε Res α S} {pre : Op → V → Prop}
  {after : (o : Op) → Except ε (Res o) → V → V} {v₀ : V} {Q : Except ε α → V → Prop}
  {J : (Nat → V) → S → Prop}

/-- A field that drifts leave alone is told by the log, if each call keeps it so. -/
theorem execute_tells {γ : Type} (async : ∀ o, M.sync o = false) (field : S → γ)
    (still : ∀ change s, field (M.drift change s) = field s) {tell : List (Entry Op S) → γ}
    (step : ∀ past (e : Entry Op S), field e.state = tell past →
      field (M.exec e.op e.state).2 = tell (past ++ [e]))
    {past : List (Entry Op S)} {c : Config ε Res α S} (told : field c.state = tell past)
    (actions : List (Action Req Env)) :
    field (M.execute actions c).state = tell (past ++ M.log actions c) := by
  induction actions generalizing past c with
  | nil => simpa [log, execute] using told
  | cons a rest ih =>
    rw [log, execute, ← List.append_assoc]
    refine ih ?_
    cases a with
    | arrive request =>
      rw [show M.advance (.arrive request) c = M.enter (M.listeners request) c from rfl,
        enter_async async, Config.entries, List.append_nil]
      exact told
    | drift change =>
      rw [Config.entries, List.append_nil]
      exact (still change c.state).trans told
    | step task =>
      rw [Config.entries, advance, resume]
      cases found : c.tasks[task]? with
      | none => simpa using told
      | some p =>
        cases p with
        | done a => simpa using told
        | fail e => simpa using told
        | call o next =>
          simp only [settle_async async]
          exact step past ⟨task, o, c.state⟩ told

structure Tracks (M : System Req Env ε Res α S) (pre : Op → V → Prop)
    (after : (o : Op) → Except ε (Res o) → V → V) (v₀ : V) (Q : Except ε α → V → Prop)
    (J : (Nat → V) → S → Prop) (l : List (Entry Op S)) (c : Config ε Res α S) : Prop where
  told : Told M (fun o h => pre o (tracked M.exec after v₀ h))
    (fun r h => Q r (tracked M.exec after v₀ h)) l c
  holds : J (view M.exec after v₀ l) c.state

theorem tracks_empty {s : S} (start : J (fun _ => v₀) s) :
    Tracks M pre after v₀ Q J [] ⟨s, []⟩ := ⟨told_empty s, start⟩

/-- A waiting task may make its call. -/
theorem Tracks.waits {l : List (Entry Op S)} {c : Config ε Res α S}
    (tracks : Tracks M pre after v₀ Q J l c) {task : Nat} {o : Op}
    {next : Except ε (Res o) → Prog ε Res α} (found : c.tasks[task]? = some (.call o next)) :
    pre o (view M.exec after v₀ l task) := (tracks.told.2 task _ found).1

theorem Tracks.returned {l : List (Entry Op S)} {c : Config ε Res α S}
    (tracks : Tracks M pre after v₀ Q J l c) {task : Nat} {a : α}
    (found : c.tasks[task]? = some (.done a)) : Q (.ok a) (view M.exec after v₀ l task) :=
  tracks.told.2 task _ found

theorem Tracks.failed {l : List (Entry Op S)} {c : Config ε Res α S}
    (tracks : Tracks M pre after v₀ Q J l c) {task : Nat} {e : ε}
    (found : c.tasks[task]? = some (.fail e)) : Q (.error e) (view M.exec after v₀ l task) :=
  tracks.told.2 task _ found

variable (async : ∀ o, M.sync o = false)
  (starts : ∀ request, ∀ p ∈ M.listeners request, Meets (Contract.tracking pre after) p Q v₀)
  (calls : ∀ vs s task o, J vs s → pre o (vs task) →
    J (Function.update vs task (after o (M.exec o s).1 (vs task))) (M.exec o s).2)
include async starts calls

theorem advance_tracks {l : List (Entry Op S)} {c : Config ε Res α S} (a : Action Req Env)
    (drifts : ∀ change, a = .drift change → ∀ vs s, J vs s → J vs (M.drift change s))
    (tracks : Tracks M pre after v₀ Q J l c) :
    Lawful (fun past e => pre e.op (view M.exec after v₀ past e.task)) l (c.entries a) ∧
      Tracks M pre after v₀ Q J (l ++ c.entries a) (M.advance a c) := by
  have start : v₀ = tracked M.exec after v₀ [] := rfl
  have ready (request : Req) (p : Prog ε Res α) (member : p ∈ M.listeners request) :=
    meets_history (starts request p member) start
  obtain ⟨lawful, told⟩ := advance_told async ready tracks.told a
  refine ⟨lawful, told, ?_⟩
  cases a with
  | arrive request =>
    rw [show M.advance (.arrive request) c = M.enter (M.listeners request) c from rfl,
      enter_async async, Config.entries, List.append_nil]
    exact tracks.holds
  | drift change =>
    rw [Config.entries, List.append_nil]
    exact drifts change rfl _ _ tracks.holds
  | step task =>
    rw [Config.entries, advance, resume]
    cases found : c.tasks[task]? with
    | none => simpa using tracks.holds
    | some p =>
      cases p with
      | done a => simpa using tracks.holds
      | fail e => simpa using tracks.holds
      | call o next =>
        simp only [settle_async async]
        rw [view_append]
        exact calls _ _ task o tracks.holds (tracks.waits found)

/-- The rule for runs: the drifts only need to keep what they meet in this run. -/
theorem execute_tracks {l : List (Entry Op S)} {c : Config ε Res α S}
    (actions : List (Action Req Env))
    (drifts : ∀ change, .drift change ∈ actions → ∀ vs s, J vs s → J vs (M.drift change s))
    (tracks : Tracks M pre after v₀ Q J l c) :
    Lawful (fun past e => pre e.op (view M.exec after v₀ past e.task)) l (M.log actions c) ∧
      Tracks M pre after v₀ Q J (l ++ M.log actions c) (M.execute actions c) := by
  induction actions generalizing l c with
  | nil => exact ⟨trivial, by simpa [log, execute] using tracks⟩
  | cons a rest ih =>
    obtain ⟨now, next⟩ := advance_tracks async starts calls a
      (fun change here => drifts change (here ▸ List.mem_cons_self)) tracks
    obtain ⟨later, final⟩ := ih
      (fun change member => drifts change (List.mem_cons_of_mem _ member)) next
    rw [log, lawful_append, ← List.append_assoc]
    exact ⟨⟨now, later⟩, final⟩

end System
end Coop
