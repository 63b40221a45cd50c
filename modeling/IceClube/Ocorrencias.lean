import IceClube.Execucao

/-! Whether a call of some kind is made when a program runs, followed part by part, and how
one call may end. -/
namespace IceClube

open Coop Prog

section Ocorrencias

variable {α β : Type}

def Ocorre (P : Ato → Mundo → Prop) (f : Fluxo α) (m : Mundo) : Prop :=
  ∃ x ∈ f.trace Ato.exec m, P x.1 x.2

variable {P : Ato → Mundo → Prop}

theorem ocorre_bind {f : Fluxo α} {g : α → Fluxo β} (m : Mundo) :
    Ocorre P (f >>= g) m ↔ Ocorre P f m ∨
      ∃ a m', f.run Ato.exec m = (.ok a, m') ∧ Ocorre P (g a) m' := by
  rw [Ocorre, trace_bind]
  rcases run : f.run Ato.exec m with ⟨answer, m'⟩
  cases answer with
  | ok a => simp [Ocorre, or_and_right, exists_or]
  | error e => simp [Ocorre]

theorem ocorre_handle {f : Fluxo α} {h : String → Fluxo α} (m : Mundo) :
    Ocorre P (f.handle h) m ↔ Ocorre P f m ∨
      ∃ e m', f.run Ato.exec m = (.error e, m') ∧ Ocorre P (h e) m' := by
  rw [Ocorre, trace_handle]
  rcases run : f.run Ato.exec m with ⟨answer, m'⟩
  cases answer with
  | ok a => simp [Ocorre]
  | error e => simp [Ocorre, or_and_right, exists_or]

theorem ocorre_bind_ok {f : Fluxo α} {g : α → Fluxo β} {m m' : Mundo} {a : α}
    (run : f.run Ato.exec m = (.ok a, m')) :
    (f >>= g).run Ato.exec m = (g a).run Ato.exec m' ∧
      (Ocorre P (f >>= g) m ↔ Ocorre P f m ∨ Ocorre P (g a) m') := by
  rw [run_bind, ocorre_bind, run]
  simp

theorem ocorre_bind_error {f : Fluxo α} {g : α → Fluxo β} {m m' : Mundo} {e : String}
    (run : f.run Ato.exec m = (.error e, m')) :
    (f >>= g).run Ato.exec m = (.error e, m') ∧ (Ocorre P (f >>= g) m ↔ Ocorre P f m) := by
  rw [run_bind, ocorre_bind, run]
  simp

theorem ocorre_handle_ok {f : Fluxo α} {h : String → Fluxo α} {m m' : Mundo} {a : α}
    (run : f.run Ato.exec m = (.ok a, m')) :
    (f.handle h).run Ato.exec m = (.ok a, m') ∧ (Ocorre P (f.handle h) m ↔ Ocorre P f m) := by
  rw [run_handle, ocorre_handle, run]
  simp

theorem ocorre_handle_error {f : Fluxo α} {h : String → Fluxo α} {m m' : Mundo} {e : String}
    (run : f.run Ato.exec m = (.error e, m')) :
    (f.handle h).run Ato.exec m = (h e).run Ato.exec m' ∧
      (Ocorre P (f.handle h) m ↔ Ocorre P f m ∨ Ocorre P (h e) m') := by
  rw [run_handle, ocorre_handle, run]
  simp

theorem run_faz (o : Ato) (m : Mundo) : (faz o).run Ato.exec m = o.exec m := by
  change Prog.run Ato.exec (answered (o.exec m).1) (o.exec m).2 = _
  rcases o.exec m with ⟨_ | _, _⟩ <;> rfl

@[simp] theorem ocorre_faz (o : Ato) (m : Mundo) : Ocorre P (faz o) m ↔ P o m := by
  have whole : (faz o).trace Ato.exec m = [(o, m)] := by
    change (o, m) :: Prog.trace Ato.exec (answered (o.exec m).1) (o.exec m).2 = _
    cases (o.exec m).1 <;> rfl
  rw [Ocorre, whole]
  simp

instance [∀ o m, Decidable (P o m)] (f : Fluxo α) (m : Mundo) : Decidable (Ocorre P f m) :=
  inferInstanceAs (Decidable (∃ x ∈ f.trace Ato.exec m, P x.1 x.2))

@[simp] theorem ocorre_done (a : α) (m : Mundo) : ¬ Ocorre P (done a : Fluxo α) m := by
  simp [Ocorre, trace]

theorem ocorre_calls {f : Fluxo α} (calls : f.Calls fun o => ∀ m, ¬ P o m) (m : Mundo) :
    ¬ Ocorre P f m := by
  rintro ⟨x, member, holds⟩
  exact calls_trace calls m x member x.2 holds

end Ocorrencias

namespace Mundo

def falha (m : Mundo) : Falha := m.falhas.headD .nenhuma

def seguida (m : Mundo) : Mundo := m.comFalhas m.falhas.tail

def alcanca (m : Mundo) : Bool :=
  match m.falha with
  | .rejeitada _ => false
  | _ => true

end Mundo

section Chamadas

theorem exec_nenhuma {o : Ato} {m : Mundo} (fallible : o.infalivel = false)
    (calm : m.falha = .nenhuma) : o.exec m = o.sem m.seguida := by
  have head : m.falhas.headD .nenhuma = .nenhuma := calm
  rw [Ato.exec, fallible, if_neg Bool.false_ne_true, head]
  rfl

theorem exec_rejeitada {o : Ato} {m : Mundo} {erro : String} (fallible : o.infalivel = false)
    (rough : m.falha = .rejeitada erro) : o.exec m = (.error erro, m.seguida) := by
  have head : m.falhas.headD .nenhuma = .rejeitada erro := rough
  rw [Ato.exec, fallible, if_neg Bool.false_ne_true, head]
  rfl

theorem exec_perdida {o : Ato} {m : Mundo} (fallible : o.infalivel = false)
    (lost : m.falha = .perdida) : o.exec m = (.error semResposta, (o.sem m.seguida).2) := by
  have head : m.falhas.headD .nenhuma = .perdida := lost
  rw [Ato.exec, fallible, if_neg Bool.false_ne_true, head]
  rfl

/-- The call changes nothing that the bot sees. -/
def Ato.Mudo (o : Ato) (a : o.Res) : Prop :=
  o.infalivel = false ∧ ∀ m, o.sem m = (.ok a, m)

variable {α : Type} {P : Ato → Mundo → Prop}

theorem exec_mudo {o : Ato} {a : o.Res} (mute : o.Mudo a) (m : Mundo) :
    (m.falha = .nenhuma ∧ o.exec m = (.ok a, m.seguida)) ∨
      (m.falha ≠ .nenhuma ∧ ∃ erro, o.exec m = (.error erro, m.seguida)) := by
  cases end_ : m.falha with
  | nenhuma => exact .inl ⟨rfl, (exec_nenhuma mute.1 end_).trans (mute.2 _)⟩
  | rejeitada erro => exact .inr ⟨by simp, erro, exec_rejeitada mute.1 end_⟩
  | perdida =>
    refine .inr ⟨by simp, semResposta, ?_⟩
    rw [exec_perdida mute.1 end_, mute.2]

theorem faz_ok {o : Ato} {a : o.Res} {m m' : Mundo} (answer : o.exec m = (.ok a, m'))
    (f : o.Res → Fluxo α) :
    (faz o >>= f).run Ato.exec m = (f a).run Ato.exec m' ∧
      (Ocorre P (faz o >>= f) m ↔ P o m ∨ Ocorre P (f a) m') := by
  have alone : (faz o).run Ato.exec m = (.ok a, m') := by
    rw [run_faz, answer]
  have step := ocorre_bind_ok (P := P) (g := f) alone
  rwa [ocorre_faz] at step

theorem faz_error {o : Ato} {erro : String} {m m' : Mundo} (answer : o.exec m = (.error erro, m'))
    (f : o.Res → Fluxo α) :
    (faz o >>= f).run Ato.exec m = (.error erro, m') ∧ (Ocorre P (faz o >>= f) m ↔ P o m) := by
  have alone : (faz o).run Ato.exec m = (.error erro, m') := by
    rw [run_faz, answer]
  have step := ocorre_bind_error (P := P) (g := f) alone
  rwa [ocorre_faz] at step

theorem ocorre_mudo {o : Ato} {a : o.Res} (mute : o.Mudo a) (f : o.Res → Fluxo α) (m : Mundo) :
    Ocorre P (faz o >>= f) m ↔ P o m ∨ m.falha = .nenhuma ∧ Ocorre P (f a) m.seguida := by
  rcases exec_mudo mute m with ⟨calm, answer⟩ | ⟨rough, erro, answer⟩
  · rw [(faz_ok answer f).2]
    simp only [calm, true_and]
  · rw [(faz_error answer f).2]
    simp only [rough, false_and, or_false]

end Chamadas

section Volta

/-- What reports its own errors never fails its caller. -/
theorem handle_volta (f : Fluxo Unit) (m : Mundo) :
    ∃ m', (f.handle fun _ => done ()).run Ato.exec m = (.ok (), m') := by
  rw [run_handle]
  rcases f.run Ato.exec m with ⟨answer, m'⟩
  cases answer with
  | ok _ => exact ⟨m', rfl⟩
  | error _ => exact ⟨m', rfl⟩

end Volta
end IceClube
