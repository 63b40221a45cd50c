import IceClube.Views
import Mathlib.Data.List.Induction

/-! Transactions over a pool. A statement runs on a connection that its task does not choose;
starting, committing and rolling back act on that connection alone. When every task keeps its
transactions to connections of their own, a rollback undoes its own transaction and no more. -/
namespace Coop

inductive Kind where
  | start | commit | rollback | define | read | write
  deriving DecidableEq, Repr

/-- A pending write waits for the end of the transaction it runs in. -/
inductive Fate where
  | pending | kept | undone
  deriving DecidableEq, Repr

structure Write (W : Type) where
  conn : Nat
  stmt : W
  fate : Fate

/-- The connections inside a transaction, and every write in order. -/
structure Ledger (W : Type) where
  inside : Nat → Bool := fun _ => false
  writes : List (Write W) := []

structure Event (W : Type) where
  task : Nat
  conn : Nat
  kind : Kind
  stmt : W

variable {W : Type}

def Write.close (k : Nat) (fate : Fate) (w : Write W) : Write W :=
  if w.conn = k ∧ w.fate = .pending then { w with fate := fate } else w

namespace Ledger

def fate (b : Ledger W) (n : Nat) : Option Fate := b.writes[n]?.map (·.fate)

def enter (k : Nat) (inside : Bool) (b : Ledger W) : Ledger W :=
  { b with inside := fun j => if j = k then inside else b.inside j }

def close (k : Nat) (fate : Fate) (b : Ledger W) : Ledger W :=
  { b.enter k false with writes := b.writes.map (Write.close k fate) }

/-- A statement that starts a transaction or defines a table commits the one before. -/
def exec (k : Nat) (kind : Kind) (stmt : W) (b : Ledger W) : Ledger W :=
  match kind with
  | .start => (b.close k .kept).enter k true
  | .commit | .define => b.close k .kept
  | .rollback => b.close k .undone
  | .read => b
  | .write =>
    { b with writes := b.writes ++ [⟨k, stmt, if b.inside k then .pending else .kept⟩] }

def run (l : List (Event W)) : Ledger W :=
  l.foldl (fun b e => b.exec e.conn e.kind e.stmt) {}

end Ledger

/-- What a task knows of its own statements: where its transaction was started, the writes
since then, and all of its writes. `next` counts the writes of all tasks. -/
structure Account where
  next : Nat := 0
  conn : Option Nat := none
  block : List Nat := []
  made : List Nat := []

namespace Account

def own (e : Event W) (a : Account) : Account :=
  match e.kind with
  | .start => { a with conn := some e.conn, block := [] }
  | .commit | .rollback => { a with conn := none, block := [] }
  | .define | .read => a
  | .write =>
    { a with
      block := if a.conn.isSome then a.block ++ [a.next] else a.block
      made := a.made ++ [a.next] }

def add (task : Nat) (a : Account) (e : Event W) : Account :=
  { if e.task = task then a.own e else a with
    next := if e.kind = .write then a.next + 1 else a.next }

end Account

def account (task : Nat) (l : List (Event W)) : Account := l.foldl (Account.add task) {}

/-- The statement keeps to the connection of its task's transaction, and to no other's. -/
def Isolated (past : List (Event W)) (e : Event W) : Prop :=
  e.kind ≠ .read →
    (∀ k ∈ (account e.task past).conn, e.conn = k ∧ e.kind ≠ .define) ∧
    ∀ e' ∈ past, e'.task ≠ e.task → (account e'.task past).conn ≠ some e.conn

instance (past : List (Event W)) (e : Event W) : Decidable (Isolated past e) :=
  inferInstanceAs (Decidable (e.kind ≠ .read →
    (∀ k ∈ (account e.task past).conn, e.conn = k ∧ e.kind ≠ .define) ∧
    ∀ e' ∈ past, e'.task ≠ e.task → (account e'.task past).conn ≠ some e.conn))

variable {l past : List (Event W)} {e : Event W} {task task' k n : Nat}

namespace Ledger

theorem run_append (l : List (Event W)) (e : Event W) :
    run (l ++ [e]) = (run l).exec e.conn e.kind e.stmt := by
  simp [run]

theorem inside_enter (k : Nat) (inside : Bool) (b : Ledger W) (j : Nat) :
    (b.enter k inside).inside j = if j = k then inside else b.inside j := rfl

@[simp] theorem writes_enter (k : Nat) (inside : Bool) (b : Ledger W) :
    (b.enter k inside).writes = b.writes := rfl

theorem inside_close (k : Nat) (fate : Fate) (b : Ledger W) (j : Nat) :
    (b.close k fate).inside j = if j = k then false else b.inside j := rfl

@[simp] theorem writes_close (k : Nat) (fate : Fate) (b : Ledger W) :
    (b.close k fate).writes = b.writes.map (Write.close k fate) := rfl

end Ledger

namespace Write

variable {w : Write W} {fate : Fate}

@[simp] theorem conn_close : (w.close k fate).conn = w.conn := by
  rw [close]
  split <;> rfl

theorem close_other (other : w.conn ≠ k) : w.close k fate = w := if_neg fun h => other h.1

theorem fate_close (here : w.conn = k) (pending : w.fate = .pending) :
    (w.close k fate).fate = fate := by
  rw [close, if_pos ⟨here, pending⟩]

/-- No write of a closed connection is pending. -/
theorem pending_close (settles : fate ≠ .pending) (pending : (w.close k fate).fate = .pending) :
    w.conn ≠ k ∧ w.fate = .pending := by
  rw [close] at pending
  split at pending
  next => exact absurd pending settles
  next away => exact ⟨fun here => away ⟨here, pending⟩, pending⟩

end Write

section Accounts

theorem account_append (task : Nat) (l : List (Event W)) (e : Event W) :
    account task (l ++ [e]) = (account task l).add task e := by
  simp [account]

theorem account_next (task : Nat) (l : List (Event W)) :
    (account task l).next = (Ledger.run l).writes.length := by
  induction l using List.reverseRecOn with
  | nil => rfl
  | append_singleton l e ih =>
    rw [account_append, Ledger.run_append, Account.add, Ledger.exec.eq_def, ih]
    cases e.kind <;> simp

theorem account_other (other : e.task ≠ task) :
    (account task (l ++ [e])).conn = (account task l).conn ∧
      (account task (l ++ [e])).block = (account task l).block ∧
      (account task (l ++ [e])).made = (account task l).made := by
  rw [account_append, Account.add, if_neg other]
  exact ⟨rfl, rfl, rfl⟩

theorem account_own (mine : e.task = task) :
    (account task (l ++ [e])).conn = ((account task l).own e).conn ∧
      (account task (l ++ [e])).block = ((account task l).own e).block ∧
      (account task (l ++ [e])).made = ((account task l).own e).made := by
  rw [account_append, Account.add, if_pos mine]
  exact ⟨rfl, rfl, rfl⟩

theorem exists_of_conn (opened : (account task l).conn = some k) : ∃ e ∈ l, e.task = task := by
  induction l using List.reverseRecOn with
  | nil => cases opened
  | append_singleton l e ih =>
    by_cases mine : e.task = task
    · exact ⟨e, List.mem_append_right _ (List.mem_singleton_self e), mine⟩
    · rw [(account_other mine).1] at opened
      obtain ⟨e', member, same⟩ := ih opened
      exact ⟨e', List.mem_append_left _ member, same⟩

theorem mem_made_append : n ∈ (account task (l ++ [e])).made ↔
    n ∈ (account task l).made ∨
      (e.task = task ∧ e.kind = .write ∧ n = (Ledger.run l).writes.length) := by
  by_cases mine : e.task = task
  · rw [(account_own mine).2.2, Account.own]
    cases e.kind <;> simp [mine, account_next]
  · rw [(account_other mine).2.2]
    simp [mine]

theorem made_append (made : n ∈ (account task l).made) (rest : List (Event W)) :
    n ∈ (account task (l ++ rest)).made := by
  induction rest using List.reverseRecOn with
  | nil => simpa using made
  | append_singleton rest e ih =>
    rw [← List.append_assoc]
    exact mem_made_append.mpr (.inl ih)

theorem made_of_block (block : n ∈ (account task l).block) : n ∈ (account task l).made := by
  induction l using List.reverseRecOn with
  | nil => exact block
  | append_singleton l e ih =>
    by_cases mine : e.task = task
    · rw [(account_own mine).2.1, Account.own] at block
      rw [(account_own mine).2.2, Account.own]
      cases kind : e.kind <;> simp only [kind] at block ⊢
      case start | commit | rollback => cases block
      case define | read => exact ih block
      case write =>
        split at block
        · rcases List.mem_append.mp block with old | new
          · exact List.mem_append_left _ (ih old)
          · exact List.mem_append_right _ new
        · exact List.mem_append_left _ (ih block)
    · rw [(account_other mine).2.1] at block
      rw [(account_other mine).2.2]
      exact ih block

end Accounts

/-- Transactions lie on connections of their own, and hold what is pending there. -/
structure Apart (l : List (Event W)) : Prop where
  inside : ∀ k, (Ledger.run l).inside k = true ↔ ∃ task, (account task l).conn = some k
  one : ∀ task task' k, (account task l).conn = some k → (account task' l).conn = some k →
    task = task'
  pending : ∀ n w, (Ledger.run l).writes[n]? = some w → w.fate = .pending →
    ∃ task, (account task l).conn = some w.conn ∧ n ∈ (account task l).block
  block : ∀ task k n, (account task l).conn = some k → n ∈ (account task l).block →
    ∃ w, (Ledger.run l).writes[n]? = some w ∧ w.fate = .pending ∧ w.conn = k
  bound : ∀ task n, n ∈ (account task l).made → n < (Ledger.run l).writes.length
  maker : ∀ task task' n, n ∈ (account task l).made → n ∈ (account task' l).made → task = task'

section Step

/-- Only the task of a statement can have its transaction on the statement's connection. -/
theorem Isolated.owner (isolated : Isolated l e) (effect : e.kind ≠ .read)
    (here : (account task l).conn = some e.conn) : task = e.task := by
  by_contra other
  obtain ⟨e', member, rfl⟩ := exists_of_conn here
  exact (isolated effect).2 e' member other here

theorem Isolated.home (isolated : Isolated l e) (effect : e.kind ≠ .read)
    (opened : (account e.task l).conn = some k) : e.conn = k ∧ e.kind ≠ .define :=
  (isolated effect).1 k opened

theorem Isolated.away (isolated : Isolated l e) (effect : e.kind ≠ .read) (other : k ≠ e.conn) :
    ((account task (l ++ [e])).conn = some k ↔ (account task l).conn = some k) ∧
      ((account task l).conn = some k →
        (account task (l ++ [e])).block = (account task l).block) := by
  by_cases mine : e.task = task
  · have closed : (account task l).conn ≠ some k := fun opened =>
      other (isolated.home effect (mine ▸ opened)).1.symm
    refine ⟨⟨fun after => ?_, fun before => absurd before closed⟩,
      fun before => absurd before closed⟩
    rw [(account_own mine).1, Account.own] at after
    cases kind : e.kind <;> simp only [kind] at after
    case start => exact absurd (Option.some.inj after).symm other
    case commit | rollback => cases after
    case define | read | write => exact after
  · rw [(account_other mine).1, (account_other mine).2.1]
    exact ⟨Iff.rfl, fun _ => rfl⟩

/-- On its own connection it leaves the transaction of its task, if any. -/
theorem Isolated.here (isolated : Isolated l e) (effect : e.kind ≠ .read)
    (after : (account task (l ++ [e])).conn = some e.conn) : task = e.task := by
  by_contra other
  rw [(account_other (Ne.symm other)).1] at after
  exact other (isolated.owner effect after)

variable {w : Write W}

/-- A pending write was pending before on another connection, or belongs to the statement's
own transaction. -/
theorem pending_append (apart : Apart l) (found : (Ledger.run (l ++ [e])).writes[n]? = some w)
    (pending : w.fate = .pending) :
    (w.conn ≠ e.conn ∧ (Ledger.run l).writes[n]? = some w) ∨
      (e.kind = .read ∧ (Ledger.run l).writes[n]? = some w) ∨
      (e.kind = .write ∧ w.conn = e.conn ∧ (Ledger.run l).inside e.conn = true ∧
        ((Ledger.run l).writes[n]? = some w ∨ n = (Ledger.run l).writes.length)) := by
  have closed (fate : Fate) (settles : fate ≠ .pending)
      (found : ((Ledger.run l).writes.map (Write.close e.conn fate))[n]? = some w) :
      w.conn ≠ e.conn ∧ (Ledger.run l).writes[n]? = some w := by
    rw [List.getElem?_map] at found
    obtain ⟨v, before, rfl⟩ := Option.map_eq_some_iff.mp found
    obtain ⟨other, -⟩ := Write.pending_close settles pending
    rw [Write.close_other other]
    exact ⟨other, before⟩
  rw [Ledger.run_append, Ledger.exec.eq_def] at found
  cases kind : e.kind <;> simp only [kind] at found
  case start | commit | define => exact .inl (closed .kept (by decide) found)
  case rollback => exact .inl (closed .undone (by decide) found)
  case read => exact .inr (.inl ⟨rfl, found⟩)
  case write =>
    rcases Nat.lt_or_ge n (Ledger.run l).writes.length with old | new
    · rw [List.getElem?_append_left old] at found
      by_cases here : w.conn = e.conn
      · obtain ⟨task, opened, -⟩ := apart.pending n w found pending
        exact .inr (.inr ⟨rfl, here, (apart.inside _).mpr ⟨task, here ▸ opened⟩, .inl found⟩)
      · exact .inl ⟨here, found⟩
    · rw [List.getElem?_append_right new, List.getElem?_singleton] at found
      split at found
      next zero =>
        cases found
        simp only at pending
        split at pending
        next inside => exact .inr (.inr ⟨rfl, rfl, inside, .inr (by omega)⟩)
        next => cases pending
      next => cases found

theorem kept_append (found : (Ledger.run l).writes[n]? = some w) (other : w.conn ≠ e.conn) :
    (Ledger.run (l ++ [e])).writes[n]? = some w := by
  have closed (fate : Fate) :
      ((Ledger.run l).writes.map (Write.close e.conn fate))[n]? = some w := by
    rw [List.getElem?_map, found, Option.map_some, Write.close_other other]
  rw [Ledger.run_append, Ledger.exec.eq_def]
  cases e.kind
  case start | commit | define | rollback => exact closed _
  case read => exact found
  case write =>
    rw [List.getElem?_append_left (List.getElem?_eq_some_iff.mp found).1]
    exact found

theorem inside_away (other : k ≠ e.conn) :
    (Ledger.run (l ++ [e])).inside k = (Ledger.run l).inside k := by
  rw [Ledger.run_append, Ledger.exec.eq_def]
  cases e.kind
  case start => rw [Ledger.inside_enter, if_neg other, Ledger.inside_close, if_neg other]
  case commit | define | rollback => rw [Ledger.inside_close, if_neg other]
  case read | write => rfl

theorem apart_read (apart : Apart l) (read : e.kind = .read) : Apart (l ++ [e]) := by
  have run : Ledger.run (l ++ [e]) = Ledger.run l := by
    rw [Ledger.run_append, Ledger.exec.eq_def]
    simp only [read]
  have same (task : Nat) : account task (l ++ [e]) = account task l := by
    rw [account_append, Account.add, Account.own]
    simp [read]
  refine ⟨?_, ?_, ?_, ?_, ?_, ?_⟩ <;> simp only [run, same]
  · exact apart.inside
  · exact apart.one
  · exact apart.pending
  · exact apart.block
  · exact apart.bound
  · exact apart.maker

/-- Whether the connection of a statement ends up in a transaction is up to its task. -/
theorem inside_here (apart : Apart l) (isolated : Isolated l e) (effect : e.kind ≠ .read) :
    (Ledger.run (l ++ [e])).inside e.conn = true ↔
      (account e.task (l ++ [e])).conn = some e.conn := by
  have before : (Ledger.run l).inside e.conn = true ↔ (account e.task l).conn = some e.conn := by
    rw [apart.inside]
    constructor
    · rintro ⟨task, opened⟩
      exact isolated.owner effect opened ▸ opened
    · exact fun opened => ⟨e.task, opened⟩
  rw [Ledger.run_append, Ledger.exec.eq_def, (account_own rfl).1, Account.own]
  cases kind : e.kind
  case start => simp [Ledger.inside_enter]
  case commit | rollback => simp [Ledger.inside_close]
  case define =>
    have closed : (account e.task l).conn ≠ some e.conn := fun opened =>
      (isolated.home effect opened).2 kind
    simp [Ledger.inside_close, closed]
  case read => exact absurd kind effect
  case write => exact before

theorem apart_step (apart : Apart l) (isolated : Isolated l e) : Apart (l ++ [e]) := by
  by_cases read : e.kind = .read
  · exact apart_read apart read
  have effect : e.kind ≠ .read := read
  refine ⟨fun k => ?_, fun task task' k first second => ?_, fun n w found pending => ?_,
    fun task k n opened block => ?_, fun task n made => ?_, fun task task' n first second => ?_⟩
  · by_cases here : k = e.conn
    · subst here
      rw [inside_here apart isolated effect]
      exact ⟨fun opened => ⟨_, opened⟩, fun ⟨task, opened⟩ => isolated.here effect opened ▸ opened⟩
    · rw [inside_away here, apart.inside]
      exact exists_congr fun task => (isolated.away effect here).1.symm
  · by_cases here : k = e.conn
    · subst here
      rw [isolated.here effect first, isolated.here effect second]
    · exact apart.one task task' k ((isolated.away effect here).1.mp first)
        ((isolated.away effect here).1.mp second)
  · rcases pending_append apart found pending with ⟨other, old⟩ | ⟨kind, -⟩ | ⟨kind, here, inside, own⟩
    · obtain ⟨task, opened, block⟩ := apart.pending n w old pending
      refine ⟨task, (isolated.away effect other).1.mpr opened, ?_⟩
      rwa [(isolated.away effect other).2 opened]
    · exact absurd kind effect
    · obtain ⟨task, opened⟩ := (apart.inside _).mp inside
      obtain rfl := isolated.owner effect opened
      refine ⟨e.task, ?_, ?_⟩
      · rw [here, (account_own rfl).1, Account.own]
        simpa only [kind] using opened
      · rw [(account_own rfl).2.1, Account.own]
        simp only [kind, opened, Option.isSome_some, if_true]
        rcases own with old | new
        · obtain ⟨task, opened', block⟩ := apart.pending n w old pending
          obtain rfl := isolated.owner effect (here ▸ opened')
          exact List.mem_append_left _ block
        · exact List.mem_append_right _ (by simp [new, account_next])
  · by_cases here : k = e.conn
    · subst here
      obtain rfl := isolated.here effect opened
      rw [(account_own rfl).2.1, Account.own] at block
      rw [(account_own rfl).1, Account.own] at opened
      rw [Ledger.run_append, Ledger.exec.eq_def]
      cases kind : e.kind <;> simp only [kind] at block opened ⊢
      case start => cases block
      case commit | rollback => cases opened
      case define => exact absurd kind (isolated.home effect opened).2
      case read => exact absurd kind effect
      case write =>
        simp only [opened, Option.isSome_some, if_true] at block
        rcases List.mem_append.mp block with old | new
        · obtain ⟨w, found, pending, here⟩ := apart.block _ _ n opened old
          refine ⟨w, ?_, pending, here⟩
          rwa [List.getElem?_append_left (List.getElem?_eq_some_iff.mp found).1]
        · have last := List.mem_singleton.mp new
          rw [account_next] at last
          subst last
          refine ⟨_, List.getElem?_concat_length, ?_, rfl⟩
          simp [(apart.inside e.conn).mpr ⟨_, opened⟩]
    · have before := (isolated.away effect here).1.mp opened
      rw [(isolated.away effect here).2 before] at block
      obtain ⟨w, found, pending, conn⟩ := apart.block task k n before block
      exact ⟨w, kept_append found (conn ▸ here), pending, conn⟩
  · have longer : (Ledger.run l).writes.length ≤ (Ledger.run (l ++ [e])).writes.length := by
      rw [Ledger.run_append, Ledger.exec.eq_def]
      cases e.kind <;> simp
    rcases mem_made_append.mp made with old | ⟨-, kind, rfl⟩
    · exact Nat.lt_of_lt_of_le (apart.bound task n old) longer
    · rw [Ledger.run_append, Ledger.exec.eq_def, kind]
      simp
  · rcases mem_made_append.mp first with old | ⟨mine, -, new⟩ <;>
      rcases mem_made_append.mp second with old' | ⟨mine', -, new'⟩
    · exact apart.maker task task' n old old'
    · exact absurd (apart.bound task n old) (by omega)
    · exact absurd (apart.bound task' n old') (by omega)
    · rw [← mine, ← mine']

theorem apart_run (apart : Apart past) (lawful : Lawful Isolated past l) : Apart (past ++ l) := by
  induction l generalizing past with
  | nil => rwa [List.append_nil]
  | cons e rest ih =>
    rw [← List.singleton_append, ← List.append_assoc]
    exact ih (apart_step apart lawful.1) lawful.2

theorem apart_nil : Apart ([] : List (Event W)) where
  inside k := by simp [Ledger.run, account]
  one task task' k first := by simp [account] at first
  pending n w found := by simp [Ledger.run] at found
  block task k n opened := by simp [account] at opened
  bound task n made := by simp [account] at made
  maker task task' n made := by simp [account] at made

/-- A rollback undoes all of its task's transaction. -/
theorem rollback_all (apart : Apart l) (isolated : Isolated l e) (rollback : e.kind = .rollback)
    (opened : (account e.task l).conn.isSome) :
    ∀ n ∈ (account e.task l).block, (Ledger.run (l ++ [e])).fate n = some .undone := by
  intro n block
  obtain ⟨k, opened⟩ := Option.isSome_iff_exists.mp opened
  obtain ⟨w, found, pending, here⟩ := apart.block _ k n opened block
  have same := (isolated.home (by rw [rollback]; exact nofun) opened).1
  rw [Ledger.fate, Ledger.run_append, Ledger.exec.eq_def, rollback]
  simp only [Ledger.writes_close, List.getElem?_map, found, Option.map_some]
  rw [Write.fate_close (here.trans same.symm) pending]

theorem rollback_own (apart : Apart l) (isolated : Isolated l e) (rollback : e.kind = .rollback)
    (before : (Ledger.run l).fate n = some .pending)
    (after : (Ledger.run (l ++ [e])).fate n = some .undone) : n ∈ (account e.task l).made := by
  obtain ⟨w, found, pending⟩ := Option.map_eq_some_iff.mp before
  have here : w.conn = e.conn := by
    by_contra other
    rw [Ledger.fate, kept_append found other, Option.map_some, pending] at after
    cases after
  obtain ⟨task, opened, block⟩ := apart.pending n w found pending
  have mine := isolated.owner (by rw [rollback]; exact nofun) (here ▸ opened)
  exact made_of_block (mine ▸ block)

end Step

end Coop
