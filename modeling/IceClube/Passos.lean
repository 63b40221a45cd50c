import IceClube.Rotas
import IceClube.Efeitos

/-! One step of the server: the statement or transaction that takes effect, if any, and
what the database is afterwards. -/
namespace IceClube

open Coop Prog

section Consulta

variable {α : Type} (q : Sql) (f : q.Res → Rota α) {w : Faulty Db}

theorem run_rejeitada (fault : w.faults.headD false = true) :
    (dbQuery q >>= f).run Op.exec w = (.error Tx.rejeicao, ⟨w.state, w.faults.tail⟩) := by
  have step : (dbQuery q >>= f).run Op.exec w =
      ((answered (Faulty.exec Sql.sem Tx.rejeicao q w).1 : Rota q.Res) >>= f).run Op.exec
        (Faulty.exec Sql.sem Tx.rejeicao q w).2 := rfl
  rw [step, Faulty.exec_rejected q fault]
  rfl

theorem run_respondida (fault : w.faults.headD false = false) :
    (dbQuery q >>= f).run Op.exec w =
      (f (q.sem w.state).1).run Op.exec ⟨(q.sem w.state).2, w.faults.tail⟩ := by
  have step : (dbQuery q >>= f).run Op.exec w =
      ((answered (Faulty.exec Sql.sem Tx.rejeicao q w).1 : Rota q.Res) >>= f).run Op.exec
        (Faulty.exec Sql.sem Tx.rejeicao q w).2 := rfl
  rw [step, Faulty.exec_answered q fault]
  rfl

theorem run_segue (w : Faulty Db) :
    ((dbQuery q >>= f).run Op.exec w).2.state = w.state ∨
      (dbQuery q >>= f).run Op.exec w =
        (f (q.sem w.state).1).run Op.exec ⟨(q.sem w.state).2, w.faults.tail⟩ := by
  cases fault : w.faults.headD false with
  | true => exact .inl (congrArg (fun r => r.2.state) (run_rejeitada q f fault))
  | false => exact .inr (run_respondida q f fault)

end Consulta

/-- The call that takes effect in a step: issued and not rejected. -/
def Servidor.Efetua (c : Servidor) (a : Passo) (o : Op) : Prop :=
  c.issued a = some o ∧
    match o with
    | .sql _ => c.state.faults.headD false = false
    | .tx t => t.Confirma c.state

namespace Servidor

variable {c : Servidor} {a : Passo}

theorem advance_state (c : Servidor) (a : Passo) :
    (servidor.advance a c).state =
      match a, c.issued a with
      | .drift dt, _ => ⟨{ c.db with agora := c.db.agora + dt }, c.state.faults⟩
      | _, some o => (Op.exec o c.state).2
      | _, none => c.state := by
  rw [System.advance_state_async (M := servidor) fun _ => rfl]
  cases a <;> cases Config.issued c _ <;> rfl

theorem issued_step {o : Op} (issued : c.issued a = some o) :
    (servidor.advance a c).state = (Op.exec o c.state).2 := by
  rw [advance_state, issued]
  cases a with
  | drift dt => simp [Config.issued] at issued
  | arrive _ => rfl
  | step _ => rfl

theorem efetua_unique {o o' : Op} (first : c.Efetua a o) (second : c.Efetua a o') : o = o' :=
  Option.some.inj (first.1.symm.trans second.1)

theorem efetua_sql {q : Sql} (effect : c.Efetua a (.sql q)) :
    Servidor.db (servidor.advance a c) = (q.sem c.db).2 := by
  have step := issued_step effect.1
  rw [Op.exec, Faulty.exec_answered q effect.2] at step
  rw [Servidor.db, step]

theorem efetua_tx {t : Tx} (effect : c.Efetua a (.tx t)) :
    t.Grava c.db (Servidor.db (servidor.advance a c)) := by
  have written := (Tx.executar_confirma effect.2).2
  rwa [← show _ = (t.executar c.state).2 from issued_step effect.1] at written

/-- Without an effect at most the clock moves, and identifiers are used up. -/
theorem efetua_none (none : ∀ o, ¬ c.Efetua a o) : ∃ agora,
    Db.MesmasLinhas { c.db with agora := agora } (Servidor.db (servidor.advance a c)) := by
  change ∃ agora, Db.MesmasLinhas _ (servidor.advance a c).state.state
  cases issued : c.issued a with
  | none =>
    rw [advance_state, issued]
    cases a with
    | drift dt => exact ⟨_, Db.MesmasLinhas.refl _⟩
    | arrive _ => exact ⟨c.db.agora, Db.MesmasLinhas.refl _⟩
    | step _ => exact ⟨c.db.agora, Db.MesmasLinhas.refl _⟩
  | some o =>
    refine ⟨c.db.agora, ?_⟩
    rw [issued_step issued]
    cases o with
    | sql q =>
      have fault : c.state.faults.headD false = true := by
        by_contra fine
        exact none (.sql q) ⟨issued, by simpa using fine⟩
      rw [Op.exec, Faulty.exec_rejected q fault]
      exact Db.MesmasLinhas.refl _
    | tx t =>
      have refused : ¬ t.Confirma c.state := fun commits => none (.tx t) ⟨issued, commits⟩
      exact (Tx.executar_recusa refused).2

theorem efetua_only {o : Op} {cond : Op → Prop} (effect : c.Efetua a o) :
    (∀ o', c.Efetua a o' → cond o') ↔ cond o :=
  ⟨fun all => all o effect, fun holds _ effect' => efetua_unique effect effect' ▸ holds⟩

/-- A property of the rows holds after a step exactly when the call that takes effect establishes
it. -/
theorem step_iff {P : Db → Prop} {C : Op → Prop}
    (still : ∀ agora depois, P (Db.desfeito { c.db with agora := agora } depois))
    (sql : ∀ q, P (q.sem c.db).2 ↔ C (.sql q))
    (tx : ∀ t db', t.Grava c.db db' → (P db' ↔ C (.tx t))) :
    P (Servidor.db (servidor.advance a c)) ↔ ∀ o, c.Efetua a o → C o := by
  by_cases silent : ∃ o, c.Efetua a o
  · obtain ⟨o, effect⟩ := silent
    rw [efetua_only effect]
    cases o with
    | sql q =>
      rw [efetua_sql effect]
      exact sql q
    | tx t => exact tx t _ (efetua_tx effect)
  · obtain ⟨agora, depois, same⟩ := efetua_none (not_exists.mp silent)
    rw [same]
    exact iff_of_true (still agora depois) fun o effect => absurd ⟨o, effect⟩ silent

end Servidor
end IceClube
