import IceClube.Views

/-! Schedules without arrivals: the tasks that wait take turns until each of them ended. -/
namespace Coop
namespace System

open Prog

variable {Req Env ε Op α S : Type} {Res : Op → Type} (M : System Req Env ε Res α S)

def turns (is : List Nat) : List (Action Req Env) := is.map .step

/-- The calls of a program that yield, when nothing happens between them. -/
def awaited (p : Prog ε Res α) (s : S) : List Op :=
  ((p.trace M.exec s).map (·.1)).filter fun o => !M.sync o

/-- The calls that a program makes before it waits, each with the state it met. -/
def settling : Prog ε Res α → S → List (Op × S)
  | .call o next, s => if M.sync o then (o, s) :: settling (next (M.exec o s).1) (M.exec o s).2 else []
  | _, _ => []

def entering : List (Prog ε Res α) → S → List (Op × S)
  | [], _ => []
  | p :: rest, s => M.settling p s ++ entering rest (M.settle p s).2

def calls : Action Req Env → Config ε Res α S → List (Op × S)
  | .arrive request, c => M.entering (M.listeners request) c.state
  | .step task, c =>
    match c.tasks[task]? with
    | some (.call o next) =>
      (o, c.state) :: M.settling (next (M.exec o c.state).1) (M.exec o c.state).2
    | _ => []
  | .drift _, _ => []

variable {M} {p : Prog ε Res α} {s : S} {i : Nat} {c : Config ε Res α S}

/-- If every call of the program up to its wait obeys the law, it waits in `Q`. -/
def Settles (M : System Req Env ε Res α S) (law : Op → S → Prop) (Q : Prog ε Res α → S → Prop)
    (p : Prog ε Res α) (s : S) : Prop :=
  (∀ x ∈ M.settling p s, law x.1 x.2) → Q (M.settle p s).1 (M.settle p s).2

theorem settles_sync {law : Op → S → Prop} {Q : Prog ε Res α → S → Prop} {o : Op}
    {next : Except ε (Res o) → Prog ε Res α} (sync : M.sync o = true)
    (rest : law o s → M.Settles law Q (next (M.exec o s).1) (M.exec o s).2) :
    M.Settles law Q (.call o next) s := by
  intro lawful
  simp only [settling, settle, sync, if_true] at lawful ⊢
  exact rest (lawful _ List.mem_cons_self) fun x later => lawful x (List.mem_cons_of_mem _ later)

theorem settles_waiting {law : Op → S → Prop} {Q : Prog ε Res α → S → Prop}
    (settled : M.settle p s = (p, s)) (reached : Q p s) : M.Settles law Q p s := by
  intro _
  rw [settled]
  exact reached

theorem settle_waiting (waiting : Waiting M p) : M.settle p s = (p, s) := by
  cases p with
  | done a => rfl
  | fail e => rfl
  | call o next => simp [settle, show M.sync o = false from waiting]

theorem waiting_ended (ended : p.Ended) : Waiting M p := by
  cases p with
  | call o next => exact ended.elim
  | done a => trivial
  | fail e => trivial

theorem waiting_settle : Waiting M (M.settle p s).1 := by
  induction p generalizing s with
  | done a => trivial
  | fail e => trivial
  | call o next ih =>
    cases sync : M.sync o with
    | true => simpa [settle, sync] using ih _
    | false =>
      rw [show M.settle (.call o next) s = (.call o next, s) by simp [settle, sync]]
      exact sync

theorem awaited_settle : M.awaited (M.settle p s).1 (M.settle p s).2 = M.awaited p s := by
  induction p generalizing s with
  | done a => rfl
  | fail e => rfl
  | call o next ih =>
    cases sync : M.sync o with
    | true => simpa [settle, awaited, trace, sync] using ih _
    | false => simp [settle, sync]

theorem resume_call {o : Op} {next : Except ε (Res o) → Prog ε Res α}
    (here : c.tasks[i]? = some (.call o next)) :
    M.resume i c =
      ⟨(M.settle (next (M.exec o c.state).1) (M.exec o c.state).2).2,
        c.tasks.set i (M.settle (next (M.exec o c.state).1) (M.exec o c.state).2).1⟩ := by
  simp [resume, here]

theorem resume_ended (ended : p.Ended) (here : c.tasks[i]? = some p) : M.resume i c = c := by
  cases p with
  | done a => simp [resume, here]
  | fail e => simp [resume, here]
  | call o next => exact ended.elim

theorem resume_none (absent : c.tasks[i]? = none) : M.resume i c = c := by
  simp [resume, absent]

theorem set_same {q : Prog ε Res α} (here : c.tasks[i]? = some q) : c.tasks.set i q = c.tasks := by
  obtain ⟨bound, same⟩ := List.getElem?_eq_some_iff.mp here
  simp [← same]

/-- A task that runs alone to its end has the effect of its program, and makes its calls. -/
theorem solo_settled (here : c.tasks[i]? = some (M.settle p s).1)
    (state : c.state = (M.settle p s).2) :
    ∃ n q, q.Ended ∧
      M.execute (turns (List.replicate n i)) c = ⟨(p.run M.exec s).2, c.tasks.set i q⟩ ∧
      (M.log (turns (List.replicate n i)) c).map Entry.op = M.awaited p s := by
  induction p generalizing s c with
  | done a =>
    have same : c = ⟨s, c.tasks⟩ := by rw [show s = c.state from state.symm]
    exact ⟨0, .done a, trivial, by rwa [set_same (q := .done a) here], rfl⟩
  | fail e =>
    have same : c = ⟨s, c.tasks⟩ := by rw [show s = c.state from state.symm]
    exact ⟨0, .fail e, trivial, by rwa [set_same (q := .fail e) here], rfl⟩
  | call o next ih =>
    cases sync : M.sync o with
    | true =>
      simp only [settle, sync, if_true] at here state
      obtain ⟨n, q, ended, final, calls⟩ := ih _ here state
      exact ⟨n, q, ended, final, by simpa [awaited, trace, sync] using calls⟩
    | false =>
      simp only [settle, sync, Bool.false_eq_true, if_false] at here state
      subst state
      have bound := (List.getElem?_eq_some_iff.mp here).1
      have step := resume_call (M := M) here
      obtain ⟨n, q, ended, final, calls⟩ := ih (M.exec o c.state).1 (s := (M.exec o c.state).2)
        (c := M.resume i c) (by simp [step, bound]) (by rw [step])
      have later : M.execute (turns (List.replicate (n + 1) i)) c =
          M.execute (turns (List.replicate n i)) (M.resume i c) := rfl
      have entries : M.log (turns (List.replicate (n + 1) i)) c =
          c.entries (Action.step i : Action Req Env) ++
            M.log (turns (List.replicate n i)) (M.resume i c) := rfl
      refine ⟨n + 1, q, ended, ?_, ?_⟩
      · rw [later, final, step]
        simp
      · rw [entries, List.map_append, calls]
        simp [Config.entries, here, awaited, trace, sync]

theorem solo (here : c.tasks[i]? = some p) (waiting : Waiting M p) :
    ∃ n q, q.Ended ∧
      M.execute (turns (List.replicate n i)) c = ⟨(p.run M.exec c.state).2, c.tasks.set i q⟩ ∧
      (M.log (turns (List.replicate n i)) c).map Entry.op = M.awaited p c.state := by
  have settled := settle_waiting (s := c.state) waiting
  exact solo_settled (by rw [settled]; exact here) (by rw [settled])

theorem turns_append (is js : List Nat) :
    (turns (is ++ js) : List (Action Req Env)) = turns is ++ turns js := List.map_append

section Pair

/-- Two tasks run to their ends, one after the other. -/
theorem pair_solo {p q : Prog ε Res α} (tasks : c.tasks = [p, q]) (first : Waiting M p)
    (second : Waiting M q) :
    ∃ is p' q', p'.Ended ∧ q'.Ended ∧ M.execute (turns is) c =
      ⟨(q.run M.exec (p.run M.exec c.state).2).2, [p', q']⟩ ∧
      (M.log (turns is) c).map Entry.op =
        M.awaited p c.state ++ M.awaited q (p.run M.exec c.state).2 := by
  obtain ⟨n, p', ended, alone, calls⟩ :=
    solo (i := 0) (show c.tasks[0]? = some p by simp [tasks]) first
  rw [tasks] at alone
  obtain ⟨k, q', ended', alone', calls'⟩ := solo (M := M) (i := 1) (p := q)
    (c := ⟨(p.run M.exec c.state).2, [p', q]⟩) rfl second
  refine ⟨List.replicate n 0 ++ List.replicate k 1, p', q', ended, ended', ?_, ?_⟩
  · rw [turns_append, execute_append, alone]
    exact alone'
  · rw [turns_append, log_append, List.map_append, calls, alone]
    exact congrArg _ calls'

variable {V W : Type} {K : Contract ε Res V} {L : Contract ε Res W} {R : S → V → W → Prop}
  {Q : Except ε α → V → Prop} {Q' : Except ε α → W → Prop}

/-- A program that keeps a contract keeps it up to the call it waits for. -/
theorem settle_meets (sees : S → V → Prop) {v : V}
    (honours : ∀ o s v, M.sync o = true → sees s v → K.pre o v →
      ∃ v', K.post o v (M.exec o s).1 v' ∧ sees (M.exec o s).2 v')
    (meets : Meets K p Q v) (seen : sees s v) :
    ∃ v', Meets K (M.settle p s).1 Q v' ∧ sees (M.settle p s).2 v' := by
  induction p generalizing s v with
  | done a => exact ⟨v, meets, seen⟩
  | fail e => exact ⟨v, meets, seen⟩
  | call o next ih =>
    cases sync : M.sync o with
    | true =>
      obtain ⟨v', post, seen'⟩ := honours o s v sync seen meets.1
      simp only [settle, sync, if_true]
      exact ih _ (meets.2 _ v' post) seen'
    | false =>
      simp only [settle, sync, Bool.false_eq_true, if_false]
      exact ⟨v, meets, seen⟩

theorem resume_meets {sees : S → V → Prop} {v : V}
    (honours : ∀ o s v, sees s v → K.pre o v →
      ∃ v', K.post o v (M.exec o s).1 v' ∧ sees (M.exec o s).2 v')
    (here : c.tasks[i]? = some p) (meets : Meets K p Q v) (seen : sees c.state v) :
    ∃ p' v', (M.resume i c).tasks = c.tasks.set i p' ∧ Meets K p' Q v' ∧
      sees (M.resume i c).state v' := by
  have still (ended : p.Ended) : ∃ p' v', (M.resume i c).tasks = c.tasks.set i p' ∧
      Meets K p' Q v' ∧ sees (M.resume i c).state v' := by
    rw [resume_ended ended here]
    exact ⟨p, v, (set_same here).symm, meets, seen⟩
  cases p with
  | done a => exact still trivial
  | fail e => exact still trivial
  | call o next =>
    obtain ⟨v', post, seen'⟩ := honours o c.state v seen meets.1
    obtain ⟨v'', meets', seen''⟩ :=
      settle_meets sees (fun o s v _ => honours o s v) (meets.2 _ v' post) seen'
    rw [resume_call here]
    exact ⟨_, v'', rfl, meets', seen''⟩

/-- Two tasks keep contracts of their own while a relation joins their views to the state. -/
theorem turns_pair
    (left : ∀ w o s v, R s v w → K.pre o v →
      ∃ v', K.post o v (M.exec o s).1 v' ∧ R (M.exec o s).2 v' w)
    (right : ∀ v o s w, R s v w → L.pre o w →
      ∃ w', L.post o w (M.exec o s).1 w' ∧ R (M.exec o s).2 v w')
    {p q : Prog ε Res α} {v : V} {w : W} (tasks : c.tasks = [p, q])
    (first : Meets K p Q v) (second : Meets L q Q' w) (joined : R c.state v w) (is : List Nat) :
    (∃ p' q' v' w', (M.execute (turns is) c).tasks = [p', q'] ∧ Meets K p' Q v' ∧
      Meets L q' Q' w' ∧ R (M.execute (turns is) c).state v' w') ∧
    ∀ e ∈ M.log (turns is) c, ∃ v w, R e.state v w ∧ (K.pre e.op v ∨ L.pre e.op w) := by
  induction is generalizing c p q v w with
  | nil => exact ⟨⟨p, q, v, w, tasks, first, second, joined⟩, by simp [turns, log]⟩
  | cons i is ih =>
    have entries (e : Entry Op S) (made : e ∈ c.entries (Action.step i : Action Req Env)) :
        ∃ v w, R e.state v w ∧ (K.pre e.op v ∨ L.pre e.op w) := by
      refine ⟨v, w, ?_⟩
      simp only [Config.entries, tasks] at made
      rcases i with _ | _ | i
      · cases p with
        | call o next =>
          simp at made
          subst made
          exact ⟨joined, .inl first.1⟩
        | _ => simp at made
      · cases q with
        | call o next =>
          simp at made
          subst made
          exact ⟨joined, .inr second.1⟩
        | _ => simp at made
      · simp at made
    have step : ∃ p' q' v' w', (M.resume i c).tasks = [p', q'] ∧ Meets K p' Q v' ∧
        Meets L q' Q' w' ∧ R (M.resume i c).state v' w' := by
      rcases i with _ | _ | i
      · obtain ⟨p', v', turn, meets, joined'⟩ :=
          resume_meets (i := 0) (fun o s v => left w o s v) (by simp [tasks]) first joined
        exact ⟨p', q, v', w, by simp [turn, tasks], meets, second, joined'⟩
      · obtain ⟨q', w', turn, meets, joined'⟩ :=
          resume_meets (i := 1) (fun o s w => right v o s w) (by simp [tasks]) second joined
        exact ⟨p, q', v, w', by simp [turn, tasks], first, meets, joined'⟩
      · rw [resume_none (by simp [tasks])]
        exact ⟨p, q, v, w, tasks, first, second, joined⟩
    obtain ⟨p', q', v', w', tasks', first', second', joined'⟩ := step
    obtain ⟨final, later⟩ := ih tasks' first' second' joined'
    refine ⟨final, fun e made => ?_⟩
    rcases List.mem_append.mp made with now | after
    · exact entries e now
    · exact later e after

end Pair

end System
end Coop
