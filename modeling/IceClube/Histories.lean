import IceClube.Views

/-! Tasks seen through the calls they made themselves. No task learns of another one but by the
answers of its own calls, so a contract over its calls holds in every interleaving. -/
namespace Coop

open Prog

variable {Req Env ε Op α S : Type} {Res : Op → Type}

def own (task : Nat) (l : List (Entry Op S)) : List (Entry Op S) := l.filter (·.task = task)

theorem own_append (task : Nat) (l l' : List (Entry Op S)) :
    own task (l ++ l') = own task l ++ own task l' := List.filter_append ..

theorem own_self (e : Entry Op S) : own e.task [e] = [e] := by simp [own]

theorem own_other {task : Nat} {e : Entry Op S} (other : task ≠ e.task) : own task [e] = [] := by
  simp [own, Ne.symm other]

/-- A law about the calls of the same task can be read task by task. -/
theorem lawful_own {law : List (Entry Op S) → Entry Op S → Prop} {past l : List (Entry Op S)}
    (lawful : Lawful (fun past e => law (own e.task past) e) past l) (task : Nat) :
    Lawful law (own task past) (own task l) := by
  induction l generalizing past with
  | nil => trivial
  | cons e rest ih =>
    obtain ⟨now, later⟩ := lawful
    have later := ih later
    rw [own_append] at later
    by_cases mine : task = e.task
    · subst mine
      rw [own_self] at later
      have first : own e.task (e :: rest) = e :: own e.task rest := by simp [own]
      rw [first]
      exact ⟨now, later⟩
    · have skipped : own task (e :: rest) = own task rest := by simp [own, Ne.symm mine]
      rw [own_other mine, List.append_nil] at later
      rw [skipped]
      exact later

/-- Two kinds of calls are equally many if they are so for each task. -/
theorem countP_own {p q : Entry Op S → Bool} {l : List (Entry Op S)}
    (each : ∀ task, (own task l).countP p = (own task l).countP q) : l.countP p = l.countP q := by
  induction length : l.length using Nat.strongRecOn generalizing l with
  | ind n ih =>
    cases l with
    | nil => rfl
    | cons e rest =>
      let others := (e :: rest).filter fun x => !decide (x.task = e.task)
      have total (r : Entry Op S → Bool) : (e :: rest).countP r =
          (own e.task (e :: rest)).countP r + others.countP r := by
        rw [← List.countP_append]
        exact (List.filter_append_perm (fun x => x.task = e.task) (e :: rest)).countP_eq r |>.symm
      have fewer : others.length < n := by
        rw [← length, List.length_cons]
        have kept : others = rest.filter fun x => !decide (x.task = e.task) := by simp [others]
        rw [kept]
        exact Nat.lt_succ_of_le (List.length_filter_le _ _)
      have same : others.countP p = others.countP q := by
        refine ih _ fewer (fun task => ?_) rfl
        by_cases mine : task = e.task
        · have none_left : own task others = [] := by
            apply List.filter_eq_nil_iff.mpr
            intro x member
            have := (List.mem_filter.mp member).2
            simpa [mine] using this
          rw [none_left]
          rfl
        · have all : own task others = own task (e :: rest) := by
            rw [own, List.filter_filter, own]
            apply List.filter_congr
            intro x _
            by_cases here : x.task = task
            · simp [here, mine]
            · simp [here]
          rw [all]
          exact each task
      rw [total p, total q, each e.task, same]

namespace Contract

/-- The view of a program is what it called; `pre` says what it may call next. -/
def history (exec : Exec ε Res S) (pre : Op → List (Entry Op S) → Prop) :
    Contract ε Res (List (Entry Op S)) where
  pre := pre
  post o v answer v' := ∃ task s, v' = v ++ [⟨task, o, s⟩] ∧ answer = (exec o s).1

end Contract

namespace System

variable {M : System Req Env ε Res α S} {pre : Op → List (Entry Op S) → Prop}
  {Q : Except ε α → List (Entry Op S) → Prop}

def Told (M : System Req Env ε Res α S) (pre : Op → List (Entry Op S) → Prop)
    (Q : Except ε α → List (Entry Op S) → Prop) (l : List (Entry Op S))
    (c : Config ε Res α S) : Prop :=
  (∀ e ∈ l, e.task < c.tasks.length) ∧
    ∀ (task : Nat) p, c.tasks[task]? = some p →
      Meets (Contract.history M.exec pre) p Q (own task l)

theorem enter_async (async : ∀ o, M.sync o = false) (ps : List (Prog ε Res α))
    (c : Config ε Res α S) : M.enter ps c = ⟨c.state, c.tasks ++ ps⟩ := by
  induction ps generalizing c with
  | nil => simp [enter]
  | cons p rest ih =>
    rw [enter, ih, settle_async async]
    simp

theorem advance_told (async : ∀ o, M.sync o = false)
    (starts : ∀ request, ∀ p ∈ M.listeners request, Meets (Contract.history M.exec pre) p Q [])
    {l : List (Entry Op S)} {c : Config ε Res α S} (told : Told M pre Q l c)
    (a : Action Req Env) :
    Lawful (fun past e => pre e.op (own e.task past)) l (c.entries a) ∧
      Told M pre Q (l ++ c.entries a) (M.advance a c) := by
  obtain ⟨bound, tasks⟩ := told
  cases a with
  | drift change => exact ⟨trivial, by simpa [Config.entries] using ⟨bound, tasks⟩⟩
  | arrive request =>
    refine ⟨trivial, ?_⟩
    simp only [Config.entries, List.append_nil]
    have entered : M.advance (.arrive request) c = ⟨c.state, c.tasks ++ M.listeners request⟩ :=
      enter_async async _ _
    rw [entered]
    refine ⟨fun e member => ?_, fun task p found => ?_⟩
    · have := bound e member
      simp only [List.length_append]
      omega
    · simp only at found
      rcases Nat.lt_or_ge task c.tasks.length with old | new
      · rw [List.getElem?_append_left old] at found
        exact tasks task p found
      · rw [List.getElem?_append_right new] at found
        have untold : own task l = [] := by
          apply List.filter_eq_nil_iff.mpr
          intro e member
          have := bound e member
          simp only [decide_eq_true_eq]
          omega
        rw [untold]
        exact starts request p (List.mem_of_getElem? found)
  | step task =>
    rw [Config.entries, advance, resume]
    cases found : c.tasks[task]? with
    | none => exact ⟨trivial, by simpa using ⟨bound, tasks⟩⟩
    | some p =>
      cases p with
      | done a => exact ⟨trivial, by simpa using ⟨bound, tasks⟩⟩
      | fail e => exact ⟨trivial, by simpa using ⟨bound, tasks⟩⟩
      | call o next =>
        simp only [settle_async async]
        have inside := (List.getElem?_eq_some_iff.mp found).1
        obtain ⟨may, rest⟩ := tasks task _ found
        refine ⟨⟨may, trivial⟩, fun e member => ?_, fun other q there => ?_⟩
        · rw [List.length_set]
          rcases List.mem_append.mp member with old | new
          · exact bound e old
          · rw [List.mem_singleton.mp new]
            exact inside
        · rw [own_append]
          by_cases mine : other = task
          · subst mine
            rw [List.getElem?_set_self inside, Option.some.injEq] at there
            rw [own_self (⟨other, o, c.state⟩ : Entry Op S), ← there]
            exact rest _ _ ⟨other, c.state, rfl, rfl⟩
          · rw [List.getElem?_set_ne (Ne.symm mine)] at there
            rw [own_other (e := ⟨task, o, c.state⟩) mine, List.append_nil]
            exact tasks other q there

theorem execute_told (async : ∀ o, M.sync o = false)
    (starts : ∀ request, ∀ p ∈ M.listeners request, Meets (Contract.history M.exec pre) p Q [])
    {l : List (Entry Op S)} {c : Config ε Res α S} (told : Told M pre Q l c)
    (actions : List (Action Req Env)) :
    Lawful (fun past e => pre e.op (own e.task past)) l (M.log actions c) ∧
      Told M pre Q (l ++ M.log actions c) (M.execute actions c) := by
  induction actions generalizing l c with
  | nil => exact ⟨trivial, by simpa [log, execute] using told⟩
  | cons a rest ih =>
    obtain ⟨now, told'⟩ := advance_told async starts told a
    obtain ⟨later, final⟩ := ih told'
    rw [log, lawful_append, ← List.append_assoc]
    exact ⟨⟨now, later⟩, final⟩

theorem told_empty (s : S) : Told M pre Q [] ⟨s, []⟩ := by
  constructor
  · simp
  · simp

/-- A call of the log was the last one of some beginning of the run. -/
theorem log_split {actions : List (Action Req Env)} {c : Config ε Res α S}
    {past rest : List (Entry Op S)} {e : Entry Op S}
    (split : M.log actions c = past ++ e :: rest) :
    ∃ first second, actions = first ++ second ∧ M.log first c = past ++ [e] := by
  induction actions generalizing c past with
  | nil => simp [log] at split
  | cons a actions ih =>
    have single : c.entries a = [] ∨ ∃ e, c.entries a = [e] := by
      cases a with
      | arrive request => exact .inl rfl
      | drift change => exact .inl rfl
      | step task =>
        rw [Config.entries]
        split
        · exact .inr ⟨_, rfl⟩
        · exact .inl rfl
    rw [log] at split
    rcases single with silent | ⟨e', made⟩
    · rw [silent, List.nil_append] at split
      obtain ⟨first, second, rfl, logged⟩ := ih split
      exact ⟨a :: first, second, rfl, by rw [log, silent, logged, List.nil_append]⟩
    · rw [made] at split
      cases past with
      | nil =>
        obtain ⟨rfl, -⟩ := List.cons.inj split
        exact ⟨[a], actions, rfl, by simp [log, made]⟩
      | cons x past =>
        obtain ⟨rfl, tail⟩ := List.cons.inj split
        obtain ⟨first, second, rfl, logged⟩ := ih tail
        exact ⟨a :: first, second, rfl, by rw [log, made, logged]; rfl⟩

end System
end Coop
