import IceClube.Confirmacao

/-! When a cart is sold at most once: a press reads the lines only while nobody holds them. -/
namespace IceClube

open Coop Prog

section Ordem

variable (c : Chat) (r : Nat)

def Vazio (m : Mundo) : Prop := ((m.conversas c).objetos r).carrinho.getD [] = []

/-- What the calls made so far, the cart and the places of the presses say of one another. -/
structure Ordem (l : Registros) (m : Mundo) (f : Nat → Fase) : Prop where
  semLinhas : ∀ i, f i = .semLinhas → Vazio c r m
  comLinhas : ∀ i, f i = .comLinhas → Segura c r l i
  uma : ∀ i j, f i = .comLinhas → f j = .comLinhas → i = j
  intocadas : ∀ i, f i = .inicio ∨ f i = .fora → ∀ e ∈ l, e.task = i → e.fecha = false
  semChamadas : ∀ i, f i = .inicio ∨ f i = .fora ∨ f i = .semLinhas → chamadasDe i l = []
  confirmadas : ∀ e ∈ l, e.confirma c r = true → f e.task = .vendida ∨ f e.task = .fim
  vazio : ∀ i, vendidas c r i l ≠ [] →
    (Vazio c r m ∨ f i = .vendida) ∧ ∀ j, f j ≠ .comLinhas
  vendido : VendidoUmaVez c r l

variable {c : Chat} {r : Nat} {l : Registros} {m m' : Mundo} {f : Nat → Fase}

theorem chamadasDe_anota (i : Nat) (e : Registro) :
    chamadasDe i (l ++ [e]) = chamadasDe i l ++ if e.task = i then e.chamada.toList else [] := by
  rw [chamadasDe, List.filter_append, List.filterMap_append]
  congr 1
  by_cases mine : e.task = i
  · cases made : e.chamada <;> simp [mine, made]
  · simp [mine]

theorem vendidas_ne_nil {i : Nat} (sold : vendidas c r i l ≠ []) :
    (∃ e ∈ l, e.task = i ∧ e.confirma c r = true) ∧ chamadasDe i l ≠ [] := by
  rw [vendidas] at sold
  split at sold
  next committed =>
    refine ⟨?_, sold⟩
    simpa using committed
  next => exact absurd rfl sold

theorem Ordem.estado (order : Ordem c r l m f) (kept : Vazio c r m → Vazio c r m') :
    Ordem c r l m' f :=
  { order with
    semLinhas := fun i here => kept (order.semLinhas i here)
    vazio := fun i sold => ⟨(order.vazio i sold).1.imp kept id, (order.vazio i sold).2⟩ }

theorem Ordem.muda (order : Ordem c r l m f) {i : Nat} {v : Fase}
    (semLinhas : v = .semLinhas → Vazio c r m ∧ chamadasDe i l = [])
    (comLinhas : v = .comLinhas →
      Segura c r l i ∧ (∀ j, j ≠ i → f j ≠ .comLinhas) ∧ ∀ j, vendidas c r j l = [])
    (inicio : v = .inicio ∨ v = .fora → f i = .inicio)
    (confirmada : f i = .vendida ∨ f i = .fim → v = .vendida ∨ v = .fim)
    (vendida : f i = .vendida → v = .vendida ∨ Vazio c r m) :
    Ordem c r l m (Function.update f i v) := by
  have here {j : Nat} : j = i → Function.update f i v j = v := by
    rintro rfl
    exact Function.update_self ..
  have there {j : Nat} (other : j ≠ i) : Function.update f i v j = f j :=
    Function.update_of_ne other ..
  refine ⟨fun j place => ?_, fun j place => ?_, fun j k first second => ?_,
    fun j place e member mine => ?_,
    fun j place => ?_, fun e member confirmed => ?_, fun j sold => ?_, order.vendido⟩
  · by_cases same : j = i
    · exact (semLinhas ((here same).symm.trans place)).1
    · exact order.semLinhas j ((there same).symm.trans place)
  · by_cases same : j = i
    · exact same ▸ (comLinhas ((here same).symm.trans place)).1
    · exact order.comLinhas j ((there same).symm.trans place)
  · by_cases same : j = i
    · by_cases same' : k = i
      · rw [same, same']
      · exact absurd ((there same').symm.trans second)
          ((comLinhas ((here same).symm.trans first)).2.1 k same')
    · by_cases same' : k = i
      · exact absurd ((there same).symm.trans first)
          ((comLinhas ((here same').symm.trans second)).2.1 j same)
      · exact order.uma j k ((there same).symm.trans first) ((there same').symm.trans second)
  · by_cases same : j = i
    · rw [here same] at place
      exact order.intocadas j (.inl (same ▸ inicio place)) e member mine
    · rw [there same] at place
      exact order.intocadas j place e member mine
  · by_cases same : j = i
    · rw [here same] at place
      rcases place with place | place | place
      · exact order.semChamadas j (.inl (same ▸ inicio (.inl place)))
      · exact order.semChamadas j (.inl (same ▸ inicio (.inr place)))
      · exact same ▸ (semLinhas place).2
    · rw [there same] at place
      exact order.semChamadas j place
  · have before := order.confirmadas e member confirmed
    by_cases same : e.task = i
    · rw [here same]
      exact confirmada (same ▸ before)
    · rwa [there same]
  · obtain ⟨empty, nobody⟩ := order.vazio j sold
    refine ⟨?_, fun k place => ?_⟩
    · by_cases same : j = i
      · rw [here same]
        rcases empty with empty | moving
        · exact .inl empty
        · exact (vendida (same ▸ moving)).symm
      · rwa [there same]
    · by_cases same : k = i
      · exact sold ((comLinhas ((here same).symm.trans place)).2.2 j)
      · exact nobody k ((there same).symm.trans place)

theorem Ordem.anota (order : Ordem c r l m f) {e : Registro}
    (fecha : e.fecha = true → f e.task ≠ .comLinhas ∧ f e.task ≠ .inicio ∧ f e.task ≠ .fora)
    (chamada : e.chamada ≠ none → f e.task = .comLinhas ∨ f e.task = .alheia)
    (confirma : e.confirma c r = false) : Ordem c r (l ++ [e]) m f := by
  have unclosed {i : Nat} (mine : e.task = i)
      (place : f i = .comLinhas ∨ f i = .inicio ∨ f i = .fora) : e.fecha = false := by
    cases closes : e.fecha with
    | false => rfl
    | true =>
      obtain ⟨a, b, d⟩ := fecha closes
      rw [mine] at a b d
      rcases place with place | place | place <;> contradiction
  have calls {i : Nat} (place : f i ≠ .comLinhas) (out : f i ≠ .alheia) :
      chamadasDe i (l ++ [e]) = chamadasDe i l := by
    rw [chamadasDe_anota]
    split
    next mine =>
      cases made : e.chamada with
      | none => exact List.append_nil _
      | some x =>
        have := chamada (by rw [made]; exact nofun)
        rw [mine] at this
        rcases this with this | this <;> contradiction
    next => exact List.append_nil _
  have confirmed {e' : Registro} (member : e' ∈ l ++ [e]) (done : e'.confirma c r = true) :
      e' ∈ l := by
    rcases List.mem_append.mp member with old | new
    · exact old
    · rw [List.mem_singleton.mp new, confirma] at done
      cases done
  have sold {i : Nat} (sold : vendidas c r i (l ++ [e]) ≠ []) : vendidas c r i l ≠ [] := by
    obtain ⟨⟨e', member, mine, done⟩, lines⟩ := vendidas_ne_nil sold
    have old := confirmed member done
    have place := order.confirmadas e' old done
    rw [mine] at place
    rw [calls (by rcases place with place | place <;> rw [place] <;> exact nofun)
      (by rcases place with place | place <;> rw [place] <;> exact nofun)] at lines
    rw [vendidas, if_pos (List.any_eq_true.mpr ⟨e', old, by simp [mine, done]⟩)]
    exact lines
  refine ⟨order.semLinhas, fun i place => ?_, order.uma, fun i place e' member mine => ?_,
    fun i place => ?_,
    fun e' member done => order.confirmadas e' (confirmed member done) done,
    fun i done => order.vazio i (sold done), fun i j first second =>
      order.vendido i j (sold first) (sold second)⟩
  · obtain ⟨⟨e', member, mine, read⟩, still⟩ := order.comLinhas i place
    refine ⟨⟨e', List.mem_append_left _ member, mine, read⟩, fun e'' member mine => ?_⟩
    rcases List.mem_append.mp member with old | new
    · exact still e'' old mine
    · obtain rfl := List.mem_singleton.mp new
      exact unclosed mine (.inl place)
  · rcases List.mem_append.mp member with old | new
    · exact order.intocadas i place e' old mine
    · obtain rfl := List.mem_singleton.mp new
      exact unclosed mine (.inr place)
  · rw [calls (by rcases place with place | place | place <;> rw [place] <;> exact nofun)
      (by rcases place with place | place | place <;> rw [place] <;> exact nofun)]
    exact order.semChamadas i place

/-- A commit: only a press that read lines sells any. -/
theorem Ordem.vende (order : Ordem c r l m f) {e : Registro}
    (mine : f e.task = .semLinhas ∨ f e.task = .comLinhas) (silent : e.chamada = none) :
    Ordem c r (l ++ [e]) m (Function.update f e.task .vendida) := by
  have here : Function.update f e.task Fase.vendida e.task = .vendida := Function.update_self ..
  have there {j : Nat} (other : j ≠ e.task) : Function.update f e.task Fase.vendida j = f j :=
    Function.update_of_ne other ..
  have away {j : Nat} {v : Fase} (place : Function.update f e.task Fase.vendida j = v)
      (moved : v ≠ .vendida) : j ≠ e.task ∧ f j = v := by
    have other : j ≠ e.task := fun same => moved (by rw [← place, same, here])
    exact ⟨other, (there other).symm.trans place⟩
  have calls (j : Nat) : chamadasDe j (l ++ [e]) = chamadasDe j l := by
    rw [chamadasDe_anota, silent]
    split <;> exact List.append_nil _
  have old {e' : Registro} (member : e' ∈ l ++ [e]) (other : e'.task ≠ e.task) : e' ∈ l := by
    rcases List.mem_append.mp member with old | new
    · exact old
    · exact absurd (congrArg Entry.task (List.mem_singleton.mp new)) other
  have before {j : Nat} (other : j ≠ e.task) (sold : vendidas c r j (l ++ [e]) ≠ []) :
      vendidas c r j l ≠ [] := by
    obtain ⟨⟨e', member, task, done⟩, lines⟩ := vendidas_ne_nil sold
    rw [calls] at lines
    rw [vendidas, if_pos (List.any_eq_true.mpr
      ⟨e', old member (by rwa [task]), by simp [task, done]⟩)]
    exact lines
  have seller (sold : vendidas c r e.task (l ++ [e]) ≠ []) : f e.task = .comLinhas := by
    obtain ⟨-, lines⟩ := vendidas_ne_nil sold
    rw [calls] at lines
    exact mine.resolve_left fun place => lines (order.semChamadas _ (.inr (.inr place)))
  refine ⟨fun j place => order.semLinhas j (away place nofun).2, fun j place => ?_,
    fun j k first second => order.uma j k (away first nofun).2 (away second nofun).2,
    fun j place e' member task => ?_, fun j place => ?_, fun e' member done => ?_, fun j sold => ?_,
    fun j k first second => ?_⟩
  · obtain ⟨other, place⟩ := away place nofun
    obtain ⟨⟨e', member, task, read⟩, still⟩ := order.comLinhas j place
    exact ⟨⟨e', List.mem_append_left _ member, task, read⟩, fun e'' member task =>
      still e'' (old member (by rwa [task])) task⟩
  · have apart : j ≠ e.task ∧ (f j = .inicio ∨ f j = .fora) := by
      rcases place with place | place
      · exact ⟨(away place nofun).1, .inl (away place nofun).2⟩
      · exact ⟨(away place nofun).1, .inr (away place nofun).2⟩
    exact order.intocadas j apart.2 e' (old member (by rw [task]; exact apart.1)) task
  · rw [calls]
    rcases place with place | place | place
    · exact order.semChamadas j (.inl (away place nofun).2)
    · exact order.semChamadas j (.inr (.inl (away place nofun).2))
    · exact order.semChamadas j (.inr (.inr (away place nofun).2))
  · by_cases same : e'.task = e.task
    · rw [same, here]
      exact .inl rfl
    · rw [there same]
      exact order.confirmadas e' (old member same) done
  · by_cases same : j = e.task
    · subst same
      refine ⟨.inr here, fun k place => ?_⟩
      obtain ⟨other, place⟩ := away place nofun
      exact other (order.uma k e.task place (seller sold))
    · obtain ⟨empty, nobody⟩ := order.vazio j (before same sold)
      exact ⟨by rwa [there same], fun k place => nobody k (away place nofun).2⟩
  · by_cases same : j = e.task
    · by_cases same' : k = e.task
      · rw [same, same']
      · exact absurd (seller (same ▸ first)) ((order.vazio k (before same' second)).2 _)
    · by_cases same' : k = e.task
      · exact absurd (seller (same' ▸ second)) ((order.vazio j (before same first)).2 _)
      · exact order.vendido j k (before same first) (before same' second)

theorem carrinho_atribuirTodos {campos : List Campo} (todos : campos.all Campo.doPainel = true)
    (s : Sessao) : (s.atribuirTodos campos).carrinho = s.carrinho :=
  atribuirTodos_visao
    (fun s campo h => by cases campo <;> first | rfl | cases h) todos s

theorem vazio_exec {o : Ato} {v : Fase} (pre : (toque c r).pre o v) (empty : Vazio c r m) :
    Vazio c r (o.exec m).2 := by
  cases o with
  | novo c' inicio =>
    rw [Ato.exec_infalivel rfl]
    change (((m.conversa c' (·.cria inicio)).conversas c).objetos r).carrinho.getD [] = []
    by_cases mine : c = c'
    · subst mine
      rw [Mundo.conversas_conversa, Conversa.cria, Conversa.troca]
      simp only
      split
      · rfl
      · exact empty
    · rwa [Mundo.conversas_conversa_ne mine]
  | atribuir c' r' campos =>
    obtain ⟨rfl, pre⟩ := pre
    rw [Ato.exec_infalivel rfl]
    change (((m.conversa c' (·.atribui r' campos)).conversas c').objetos r).carrinho.getD [] = []
    rw [Mundo.conversas_conversa]
    by_cases mine : r = r'
    · subst mine
      rw [Conversa.objetos_atribui]
      split at pre
      next =>
        obtain ⟨-, agora, rfl⟩ := pre
        rfl
      next =>
        rw [carrinho_atribuirTodos (pre rfl)]
        exact empty
    · rwa [Conversa.objetos_atribui_ne _ _ _ mine]
  | _ =>
    rw [Vazio, objetos_exec rfl]
    exact empty

def lugar (views : List Fase) (i : Nat) : Fase := views[i]?.getD .inicio

theorem lugar_set {views : List Fase} {i : Nat} (bound : i < views.length) (v : Fase) :
    lugar (views.set i v) = Function.update (lugar views) i v := by
  funext j
  by_cases same : j = i
  · subst same
    rw [lugar, List.getElem?_set_self bound, Function.update_self, Option.getD_some]
  · rw [lugar, List.getElem?_set_ne (Ne.symm same), Function.update_of_ne same, lugar]

theorem lugar_append (views : List Fase) (v : Fase) :
    lugar (views ++ [v]) = Function.update (lugar views) views.length v := by
  funext j
  by_cases same : j = views.length
  · subst same
    rw [lugar, List.getElem?_concat_length, Function.update_self, Option.getD_some]
  · rw [Function.update_of_ne same, lugar, lugar]
    rcases Nat.lt_or_gt_of_ne same with old | beyond
    · rw [List.getElem?_append_left old]
    · rw [List.getElem?_eq_none (by simp; omega), List.getElem?_eq_none (by omega)]

variable {views : List Fase} {i : Nat} {v : Fase}

theorem ordem_parada (view : views[i]? = some v) (order : Ordem c r l m (lugar views)) :
    Ordem c r l m (lugar (views.set i v)) := by
  obtain ⟨bound, found⟩ := List.getElem?_eq_some_iff.mp view
  rwa [← found, List.set_getElem_self]

theorem ordem_inside {o : Ato} (sync : o.sync = true) (view : views[i]? = some v)
    (pre : (toque c r).pre o v) (order : Ordem c r l m (lugar views)) :
    ∃ v', (toque c r).post o v (o.exec m).1 v' ∧
      Ordem c r l (o.exec m).2 (lugar (views.set i v')) := by
  have bound := (List.getElem?_eq_some_iff.mp view).1
  have place : lugar views i = v := by rw [lugar, view, Option.getD_some]
  have moved := order.estado (vazio_exec pre)
  have fixed : o.infalivel = true := by
    cases o <;> first | rfl | cases sync
  cases o with
  | chama c' r' setor =>
    obtain ⟨-, rfl⟩ := pre
    refine ⟨_, rfl, ?_⟩
    rw [lugar_set bound]
    refine moved.muda ?_ ?_ (fun _ => place) ?_ ?_
    · split <;> exact nofun
    · split <;> exact nofun
    · rintro (already | already) <;> rw [place] at already <;> cases already
    · intro already
      rw [place] at already
      cases already
  | atribuir c' r' campos =>
    by_cases sold : v = .vendida
    · subst sold
      obtain ⟨rfl, pre⟩ := pre
      rw [if_pos rfl] at pre
      obtain ⟨rfl, agora, rfl⟩ := pre
      refine ⟨.fim, rfl, ?_⟩
      rw [lugar_set bound]
      refine moved.muda nofun nofun (by rintro (h | h) <;> cases h) (fun _ => .inr rfl)
        fun _ => .inr ?_
      rw [Vazio, Ato.exec_infalivel fixed, Ato.sem, Mundo.conversas_conversa,
        Conversa.objetos_atribui]
      rfl
    · exact ⟨v, (if_neg sold).symm, ordem_parada view moved⟩
  | ler c' r' =>
    refine ⟨v, ⟨rfl, ?_⟩, ordem_parada view moved⟩
    rintro rfl ⟨rfl, rfl⟩ s answer
    rw [Ato.exec_infalivel fixed] at answer
    obtain rfl := Except.ok.inj answer
    exact order.semLinhas i place
  | get c' => exact ⟨v, ⟨rfl, _, by rw [Ato.exec_infalivel fixed]; rfl⟩, ordem_parada view moved⟩
  | dateNow => exact ⟨v, ⟨rfl, _, by rw [Ato.exec_infalivel fixed]; rfl⟩, ordem_parada view moved⟩
  | set | delete | novo | botao => exact ⟨v, rfl, ordem_parada view moved⟩
  | _ => cases sync

theorem Ordem.encerra (order : Ordem c r l m f) {e : Registro} (unsold : f e.task ≠ .vendida)
    (silent : e.chamada = none) (confirma : e.confirma c r = false) :
    Ordem c r (l ++ [e]) m (Function.update f e.task .fim) := by
  have ended := order.muda (i := e.task) (v := .fim) nofun nofun (by rintro (h | h) <;> cases h)
    (fun _ => .inr rfl) (fun sold => absurd sold unsold)
  refine ended.anota (fun _ => ?_) (fun made => absurd silent made) confirma
  rw [Function.update_self]
  exact ⟨nofun, nofun, nofun⟩

theorem exec_falha {o : Ato} (fallible : o.infalivel = false) (m : Mundo) :
    (m.falhas.headD .nenhuma = .nenhuma ∧ o.exec m = o.sem (m.comFalhas m.falhas.tail)) ∨
      m.falhas.headD .nenhuma ≠ .nenhuma ∧ ∃ erro, (o.exec m).1 = .error erro := by
  rw [Ato.exec, fallible]
  cases m.falhas.headD .nenhuma with
  | nenhuma => exact .inl ⟨rfl, rfl⟩
  | rejeitada erro => exact .inr ⟨by simp, erro, rfl⟩
  | perdida => exact .inr ⟨by simp, _, rfl⟩

theorem ordem_begin (view : views[i]? = some v)
    (others : System.Others (fun v => v ≠ Fase.vendida) views i)
    (pre : v = .fora ∨ v = .alheia) (order : Ordem c r l m (lugar views))
    (lawful : Sozinha c r l ⟨i, .beginTransaction, m⟩) :
    ∃ v', (toque c r).post .beginTransaction v (Ato.exec .beginTransaction m).1 v' ∧
      Ordem c r (l ++ [⟨i, .beginTransaction, m⟩]) (Ato.exec .beginTransaction m).2
        (lugar (views.set i v')) := by
  have bound := (List.getElem?_eq_some_iff.mp view).1
  have place : lugar views i = v := by rw [lugar, view, Option.getD_some]
  let e : Registro := ⟨i, .beginTransaction, m⟩
  have noted : Ordem c r (l ++ [e]) m (lugar views) :=
    order.anota nofun (fun made => absurd rfl made) rfl
  have moved : Ordem c r (l ++ [e]) (Ato.exec .beginTransaction m).2 (lugar views) :=
    noted.estado (vazio_exec pre)
  rcases pre with rfl | rfl
  · rcases exec_falha (o := .beginTransaction) rfl m with ⟨calm, run⟩ | ⟨-, erro, failed⟩
    · rw [run] at moved ⊢
      by_cases empty : Vazio c r m
      · refine ⟨.semLinhas, .inl rfl, ?_⟩
        rw [lugar_set bound]
        exact moved.muda (fun _ => ⟨empty, moved.semChamadas i (.inr (.inl place))⟩) nofun
          (by rintro (h | h) <;> cases h) (by rw [place]; rintro (h | h) <;> cases h)
          (by rw [place]; exact nofun)
      · -- the press reads lines, so nobody else holds any and none was sold
        have reads : e.leLinhas c r = true := by
          simpa [e, Registro.leLinhas, Registro.respondida, Vazio] using And.intro calm empty
        refine ⟨.comLinhas, .inr rfl, ?_⟩
        rw [lugar_set bound]
        refine moved.muda nofun (fun _ => ⟨⟨⟨e, List.mem_append_right _ (List.mem_singleton_self e),
          rfl, reads⟩, moved.intocadas i (.inr place)⟩, fun j other holds => ?_, fun j => ?_⟩)
          (by rintro (h | h) <;> cases h) (by rw [place]; rintro (h | h) <;> cases h)
          (by rw [place]; exact nofun)
        · obtain ⟨⟨e', member, rfl, -⟩, -⟩ := order.comLinhas j holds
          exact lawful.1 reads e' member other (order.comLinhas e'.task holds)
        · by_contra sold
          rcases (noted.vazio j sold).1 with cleared | clearing
          · exact empty cleared
          · by_cases same : j = i
            · rw [same, place] at clearing
              cases clearing
            · rw [lugar] at clearing
              cases found : views[j]? with
              | none =>
                rw [found] at clearing
                cases clearing
              | some w =>
                rw [found, Option.getD_some] at clearing
                exact others j w same found clearing
    · refine ⟨.fim, by rw [failed]; rfl, ?_⟩
      rw [lugar_set bound]
      exact moved.muda nofun nofun (by rintro (h | h) <;> cases h) (fun _ => .inr rfl)
        (by rw [place]; exact nofun)
  · exact ⟨.alheia, rfl, ordem_parada view moved⟩

theorem ordem_commit {c' : Chat} {r' : Nat} (view : views[i]? = some v)
    (pre : (toque c r).pre (.commitVenda c' r') v) (order : Ordem c r l m (lugar views))
    (lawful : Sozinha c r l ⟨i, .commitVenda c' r', m⟩) :
    ∃ v', (toque c r).post (.commitVenda c' r') v (Ato.exec (.commitVenda c' r') m).1 v' ∧
      Ordem c r (l ++ [⟨i, .commitVenda c' r', m⟩]) (Ato.exec (.commitVenda c' r') m).2
        (lugar (views.set i v')) := by
  have bound := (List.getElem?_eq_some_iff.mp view).1
  have place : lugar views i = v := by rw [lugar, view, Option.getD_some]
  have moved := order.estado (vazio_exec pre)
  let e : Registro := ⟨i, .commitVenda c' r', m⟩
  obtain ⟨rfl, ⟨rfl, mine⟩ | ⟨other, rfl⟩⟩ := pre
  · have own : v ≠ .alheia := by rcases mine with rfl | rfl <;> decide
    have unsold : lugar views i ≠ .vendida := by
      rw [place]
      rcases mine with rfl | rfl <;> decide
    rcases exec_falha (o := .commitVenda c' r') rfl m with ⟨calm, run⟩ | ⟨rough, erro, failed⟩
    · refine ⟨.vendida, by simp only [run, toque, if_neg own, Ato.sem], ?_⟩
      rw [lugar_set bound]
      exact moved.vende (e := e) (by rw [show lugar views e.task = v from place]; exact mine) rfl
    · refine ⟨.fim, by simp only [failed, toque, if_neg own], ?_⟩
      rw [lugar_set bound]
      refine moved.encerra (e := e) unsold rfl ?_
      cases done : e.confirma c' r' with
      | false => rfl
      | true => exact absurd (by simpa [e, Registro.respondida] using lawful.2 done) rough
  · refine ⟨.alheia, rfl, ordem_parada view (moved.anota (fun _ => ?_) (fun made => absurd rfl made)
      ?_)⟩
    · rw [place]
      decide
    · simp [Registro.confirma, other]

theorem ordem_across {o : Ato} (yields : o.sync = false) (view : views[i]? = some v)
    (others : System.Others (fun v => v ≠ Fase.vendida) views i)
    (pre : (toque c r).pre o v) (order : Ordem c r l m (lugar views))
    (lawful : Sozinha c r l ⟨i, o, m⟩) :
    ∃ v', (toque c r).post o v (o.exec m).1 v' ∧
      Ordem c r (l ++ [⟨i, o, m⟩]) (o.exec m).2 (lugar (views.set i v')) := by
  have bound := (List.getElem?_eq_some_iff.mp view).1
  have place : lugar views i = v := by rw [lugar, view, Option.getD_some]
  cases o with
  | beginTransaction => exact ordem_begin view others pre order lawful
  | commitVenda c' r' => exact ordem_commit view pre order lawful
  | rollbackVenda =>
    have moved := order.estado (vazio_exec pre)
    by_cases other : v = .alheia
    · refine ⟨v, (if_pos other).symm, ordem_parada view (moved.anota (fun _ => ?_)
        (fun made => absurd rfl made) rfl)⟩
      rw [place, other]
      exact ⟨nofun, nofun, nofun⟩
    · refine ⟨.fim, (if_neg other).symm, ?_⟩
      rw [lugar_set bound]
      refine moved.encerra (fun sold => ?_) rfl rfl
      rw [place] at sold
      rcases pre with rfl | rfl | rfl | rfl <;> cases sold
  | call c' chamada =>
    refine ⟨v, rfl, ordem_parada view ?_⟩
    refine (order.estado (vazio_exec pre)).anota nofun (fun _ => ?_) rfl
    rw [place]
    exact pre
  | get | set | delete | novo | ler | atribuir | dateNow | botao | chama => cases yields
  | _ =>
    refine ⟨v, rfl, ordem_parada view ?_⟩
    exact (order.estado (vazio_exec pre)).anota nofun (fun made => absurd rfl made) rfl

end Ordem

theorem confirmacoes_keeps (c : Chat) (r : Nat) :
    System.Keeps (confirmacoes c) (toque c r) (fun v => v ≠ .vendida)
      (fun l m views => Ordem c r l m (lugar views)) (Sozinha c r) where
  waits o v yields pre := by
    cases o with
    | beginTransaction => rcases pre with rfl | rfl <;> exact nofun
    | call => rcases pre with rfl | rfl <;> exact nofun
    | commitVenda => rcases pre with ⟨-, ⟨-, rfl | rfl⟩ | ⟨-, rfl⟩⟩ <;> exact nofun
    | rollbackVenda => rcases pre with rfl | rfl | rfl | rfl <;> exact nofun
    | get | set | delete | novo | ler | atribuir | dateNow | botao | chama => cases yields
    | _ => exact pre.resolve_left nofun
  inside l m views i o v sync view _ pre order := ordem_inside sync view pre order
  across l m views i o v yields view others pre order lawful :=
    ordem_across yields view others pre order lawful
  starts request p member l m views order := by
    have fresh : lugar views views.length = .inicio := by simp [lugar]
    have start {v : Fase} (place : v = .inicio ∨ v = .alheia) :
        Ordem c r l m (lugar (views ++ [v])) := by
      rw [lugar_append]
      refine order.muda ?_ ?_ (fun _ => fresh) ?_ ?_
      · rcases place with rfl | rfl <;> exact nofun
      · rcases place with rfl | rfl <;> exact nofun
      · rw [fresh]
        rintro (h | h) <;> cases h
      · rw [fresh]
        exact nofun
    rcases List.mem_cons.mp member with rfl | member
    · exact ⟨.alheia, meets_mono (toque_callbackEntrega _) fun _ _ same => same ▸ nofun,
        start (.inr rfl)⟩
    · obtain rfl := List.mem_singleton.mp member
      exact ⟨.inicio, toque_callbackChat, start (.inl rfl)⟩
  drifts l m views change order := order.estado id

/-- However presses of a chat interleave, a cart is sold at most once, as long as no press
reads its lines while another one holds them. -/
theorem vendidoUmaVez (c : Chat) (r : Nat) (m : Mundo) (passos : List (Action Unit Deriva))
    (alone : Lawful (Sozinha c r) [] ((confirmacoes c).log passos ⟨m, []⟩)) :
    VendidoUmaVez c r ((confirmacoes c).log passos ⟨m, []⟩) := by
  have start : Ordem c r [] m (lugar []) :=
    { semLinhas := fun i place => by simp [lugar] at place
      comLinhas := fun i place => by simp [lugar] at place
      uma := fun i j place => by simp [lugar] at place
      intocadas := fun _ _ e member => by simp at member
      semChamadas := fun _ _ => rfl
      confirmadas := fun e member => by simp at member
      vazio := fun i sold => absurd rfl sold
      vendido := fun i j sold => absurd rfl sold }
  have seen : System.Seen (confirmacoes c) (toque c r) (fun v => v ≠ .vendida)
      (fun l m views => Ordem c r l m (lugar views)) [] ⟨m, []⟩ :=
    ⟨[], rfl, fun _ _ _ found => by simp at found, start⟩
  obtain ⟨views, -, -, order⟩ := System.execute_seen (confirmacoes_keeps c r) seen alone
  exact order.vendido

/-- A seller with one line in the cart, at the button that confirms. -/
def carrinhoPronto : Mundo where
  conversas _ :=
    { sessao := some 0
      objetos := fun _ =>
        { setor := some .vendas, data := some 0, autenticado := true, logado := true,
          usuarioId := some 3, carrinho := some [⟨some 1, "Capulho".toList, "1".toList, 5, 5⟩],
          numeroCliente := some "5511999990000".toList, metodoPagamento := some .dinheiro }
      proximo := 1 }

def umToque : List (Action Unit Deriva) :=
  [.arrive (), .arrive ()] ++ List.replicate 4 (.step 1) ++ List.replicate 4 (.step 3)

/-- Two presses, each step of the one followed by the same step of the other. -/
def doisToques : List (Action Unit Deriva) :=
  [.arrive (), .arrive ()] ++
    (List.replicate 4 [.step 1, .step 3]).flatten

theorem um_toque : VendidoUmaVez 7 0 ((confirmacoes 7).log umToque ⟨carrinhoPronto, []⟩) :=
  vendidoUmaVez 7 0 carrinhoPronto umToque (by decide +kernel)

theorem dois_toques :
    ¬ VendidoUmaVez 7 0 ((confirmacoes 7).log doisToques ⟨carrinhoPronto, []⟩) := by
  intro once
  have same := once 1 3 (by decide +kernel) (by decide +kernel)
  contradiction

end IceClube
