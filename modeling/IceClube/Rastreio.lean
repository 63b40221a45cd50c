import IceClube.Execucao
import IceClube.Turns

/-! The identifiers of a chat's messages: the handlers that append them, the cleanup that
deletes the messages and empties the list, and the calls of all other handlers between. -/
namespace IceClube

open Coop Prog System

section Handlers

variable (c : Chat)

/-- The message handler up to its first wait; `none` where the session had expired. -/
def receber (m : Mensagem) : Fluxo (Option Nat) := do
  let agora ← faz .dateNow
  let r ← obter c (sessaoDoDia agora)
  faz (.atribuir c r (m.messageId.toList.map Campo.pushMessageId))
  let r ← sessaoDeHoje c agora r
  let sessao ← faz (.ler c r)
  if sessaoExpirada sessao agora then do
    faz (.delete c .expirada)
    pure none
  else do
    faz (.atribuir c r [.lastUpdated agora])
    faz (.set c r)
    pure (some r)

def seguir (m : Mensagem) : Option Nat → Fluxo Unit
  | none => enviarMensagem c "🕒 *Sessão expirada. Envie sua senha pessoal para continuar.*"
  | some r => do
    match ← consultarUsuario c with
    | none => pure ()
    | some none => novoUsuario c r m
    | some (some (id, usuario)) => usuarioCadastrado c r m id usuario

theorem mensagem_eq (m : Mensagem) : mensagem c m = receber c m >>= seguir c m := by
  simp only [mensagem, receber, bind_assoc]
  refine congrArg (faz .dateNow >>= ·) (funext fun agora => ?_)
  refine congrArg (obter c (sessaoDoDia agora) >>= ·) (funext fun r => ?_)
  refine congrArg (faz (.atribuir c r _) >>= ·) (funext fun _ => ?_)
  refine congrArg (sessaoDeHoje c agora r >>= ·) (funext fun r => ?_)
  refine congrArg (faz (.ler c r) >>= ·) (funext fun sessao => ?_)
  split
  · rw [bind_assoc]
    rfl
  · simp only [bind_assoc]
    rfl

end Handlers

/-- Not one of the two assignments to `messageIds`. -/
def Campo.poupaIds : Campo → Bool
  | pushMessageId _ | messageIds _ => false
  | _ => true

def Campo.anexa : Campo → Bool
  | pushMessageId _ => true
  | _ => false

/-- A call that any other handler may make; none of them assigns `messageIds`. -/
structure Alheia where
  ato : Ato
  poupa : ∀ c r campos, ato = .atribuir c r campos → campos.all Campo.poupaIds = true

/-- What concerns the messages of one chat. The calls of other handlers come one by one. -/
inductive Pedida where
  | limpar
  | enviar (texto : String)
  | receber (m : Mensagem)
  | alheia (outra : Alheia)

structure Rastro where
  mundo : Mundo
  tentadas : List Nat := []

def Ato.tenta (c : Chat) : Ato → List Nat
  | .deleteMessage c' id => if c' = c then [id] else []
  | _ => []

def Rastro.exec (c : Chat) : Exec String Ato.Res Rastro := fun o s =>
  ((o.exec s.mundo).1, ⟨(o.exec s.mundo).2, o.tenta c ++ s.tentadas⟩)

def Alheia.programa (outra : Alheia) : Fluxo Unit := do
  let _ ← faz outra.ato
  pure ()

def Pedida.programa (c : Chat) : Pedida → Fluxo Unit
  | limpar => limparMensagensChat c
  | enviar texto => enviarMensagem c texto
  | receber m => do
    let _ ← IceClube.receber c m
    pure ()
  | alheia outra => outra.programa

def rastreio (c : Chat) : System Pedida Deriva String Ato.Res Unit Rastro where
  exec := Rastro.exec c
  sync := Ato.sync
  listeners pedida := [pedida.programa c]
  drift d s := { s with mundo := s.mundo.derivar d }

section Property

variable (c : Chat)

def Conversa.ids (k : Conversa) (r : Nat) : List Nat := (k.objetos r).messageIds

/-- The `messageIds` of the session in the map. -/
def Rastro.listadas (s : Rastro) : List Nat :=
  ((s.mundo.conversas c).sessao.map (s.mundo.conversas c).ids).getD []

def Fato.anexa : Fato → Option Nat
  | .atribuiu _ _ (.pushMessageId id) => some id
  | _ => none

/-- Every identifier ever appended to the chat's `messageIds`. -/
def Rastro.anexadas (s : Rastro) : List Nat := (s.mundo.conversas c).historia.filterMap Fato.anexa

def devidas : Fluxo Unit → List Nat
  | .call (.deleteMessage c' id) next => (if c' = c then [id] else []) ++ devidas (next (.ok ()))
  | .call (.setTimeout _) next => devidas (next (.ok ()))
  | _ => []

def alvo : Fluxo Unit → Option Nat
  | .call (.deleteMessage _ _) next => alvo (next (.ok ()))
  | .call (.setTimeout _) next => alvo (next (.ok ()))
  | .call (.atribuir c' r [.messageIds []]) _ => if c' = c then some r else none
  | _ => none

/-- A deletion was attempted, or a cleanup under way is going to attempt it. -/
def Tentada (tasks : List (Fluxo Unit)) (s : Rastro) (id : Nat) : Prop :=
  id ∈ s.tentadas ∨ ∃ p ∈ tasks, id ∈ devidas c p

/-- No identifier is lost: each is in the list of the stored session or is dealt with. -/
def Rastreada (tasks : List (Fluxo Unit)) (s : Rastro) : Prop :=
  ∀ id ∈ s.anexadas c, id ∈ s.listadas c ∨ Tentada c tasks s id

/-- The list of the stored session holds nothing that is not dealt with. -/
def EmDia (tasks : List (Fluxo Unit)) (s : Rastro) : Prop :=
  ∀ id ∈ s.listadas c, Tentada c tasks s id

/-- When a call loses no identifier: the session leaves the map, or gives its place to another
object, only while its list holds nothing open, and nothing is appended to a list that a cleanup
is deleting. -/
def Cuida (tasks : List (Fluxo Unit)) (s : Rastro) : Ato → Prop
  | .delete c' _ => c' = c → EmDia c tasks s
  | .set c' r => c' = c → r < (s.mundo.conversas c).proximo ∧
    ((s.mundo.conversas c).sessao = some r ∨ EmDia c tasks s)
  | .atribuir c' r campos => c' = c → campos.any Campo.anexa = true →
    ∀ p ∈ tasks, alvo c p ≠ some r
  | _ => True

def Cuidadosa (cfg : Config String Ato.Res Unit Rastro) (a : Action Pedida Deriva) : Prop :=
  ∀ x ∈ (rastreio c).calls a cfg, Cuida c cfg.tasks x.2 x.1

section Decidability

variable {c} {tasks : List (Fluxo Unit)} {s : Rastro}

instance (id : Nat) : Decidable (Tentada c tasks s id) := inferInstanceAs (Decidable (_ ∨ _))

instance : Decidable (Rastreada c tasks s) := inferInstanceAs (Decidable (∀ id ∈ s.anexadas c, _))

instance : Decidable (EmDia c tasks s) := inferInstanceAs (Decidable (∀ id ∈ s.listadas c, _))

instance : (o : Ato) → Decidable (Cuida c tasks s o)
  | .delete c' _ => inferInstanceAs (Decidable (c' = c → EmDia c tasks s))
  | .set c' r => inferInstanceAs (Decidable (c' = c → r < (s.mundo.conversas c).proximo ∧
    ((s.mundo.conversas c).sessao = some r ∨ EmDia c tasks s)))
  | .atribuir c' r campos => inferInstanceAs (Decidable (c' = c → campos.any Campo.anexa = true →
    ∀ p ∈ tasks, alvo c p ≠ some r))
  | .get _ | .novo .. | .ler .. | .dateNow | .botao .. | .chama .. | .sendMessage ..
  | .answerCallbackQuery _ | .deleteMessage .. | .getChatMember _ | .getFile _ | .screenshot _
  | .sendPhoto _ | .geocode _ | .distancematrix .. | .setTimeout _ | .compare .. | .query ..
  | .getConnection | .beginTransaction | .call .. | .selectVendasRecentes ..
  | .updateComprovante .. | .commitVenda .. | .rollbackVenda => isTrue trivial

instance (cfg : Config String Ato.Res Unit Rastro) (a : Action Pedida Deriva) :
    Decidable (Cuidadosa c cfg a) :=
  inferInstanceAs (Decidable (∀ x ∈ (rastreio c).calls a cfg, Cuida c cfg.tasks x.2 x.1))

end Decidability
end Property

section Inventory

variable {c : Chat} {tasks : List (Fluxo Unit)} {s s' : Rastro} {r : Nat}

structure Rastreando (c : Chat) (tasks : List (Fluxo Unit)) (s : Rastro) : Prop where
  rastreada : Rastreada c tasks s
  sessao : ∀ r, (s.mundo.conversas c).sessao = some r → r < (s.mundo.conversas c).proximo
  limpando : ∀ p ∈ tasks, ∀ r, alvo c p = some r → r < (s.mundo.conversas c).proximo ∧
    ∀ id ∈ (s.mundo.conversas c).ids r, id ∈ s.tentadas ∨ id ∈ devidas c p

structure Conversa.Igual (k k' : Conversa) : Prop where
  sessao : k'.sessao = k.sessao
  proximo : k.proximo ≤ k'.proximo
  ids : ∀ r, r < k.proximo → k'.ids r = k.ids r
  anexadas : k'.historia.filterMap Fato.anexa = k.historia.filterMap Fato.anexa

theorem Tentada.mono {id : Nat} (dealt : Tentada c tasks s id) (more : s.tentadas ⊆ s'.tentadas) :
    Tentada c tasks s' id := dealt.imp_left fun tried => more tried

theorem listadas_sessao (stored : (s.mundo.conversas c).sessao = some r) :
    s.listadas c = (s.mundo.conversas c).ids r := by
  simp [Rastro.listadas, stored]

theorem listadas_vazia (empty : (s.mundo.conversas c).sessao = none) : s.listadas c = [] := by
  simp [Rastro.listadas, empty]

/-- Identifiers are appended one by one. -/
theorem messageIds_push (novos : List Nat) (t : Sessao) :
    (t.atribuirTodos (novos.map Campo.pushMessageId)).messageIds = t.messageIds ++ novos := by
  induction novos generalizing t with
  | nil => simp
  | cons id novos ih => simp [ih, Sessao.atribuir]

theorem messageIds_poupa {campos : List Campo} (poupa : campos.all Campo.poupaIds = true)
    (t : Sessao) : (t.atribuirTodos campos).messageIds = t.messageIds :=
  atribuirTodos_visao (fun t campo poupa => by cases campo <;> first | rfl | cases poupa) poupa t

theorem lastUpdated_push (novos : List Nat) (t : Sessao) :
    (t.atribuirTodos (novos.map Campo.pushMessageId)).lastUpdated = t.lastUpdated := by
  induction novos generalizing t with
  | nil => rfl
  | cons id novos ih => exact ih _

variable {k : Conversa}

theorem ids_atribui_ne {r' : Nat} (other : r' ≠ r) (campos : List Campo) :
    (k.atribui r campos).ids r' = k.ids r' := by
  rw [Conversa.ids, Conversa.objetos_atribui_ne k r campos other, Conversa.ids]

theorem ids_push (novos : List Nat) :
    (k.atribui r (novos.map Campo.pushMessageId)).ids r = k.ids r ++ novos := by
  rw [Conversa.ids, Conversa.objetos_atribui, messageIds_push, Conversa.ids]

theorem anexadas_atribui (k : Conversa) (r : Nat) (campos : List Campo) (id : Nat) :
    id ∈ (k.atribui r campos).historia.filterMap Fato.anexa ↔
      .pushMessageId id ∈ campos ∨ id ∈ k.historia.filterMap Fato.anexa := by
  have named (campo : Campo) (cargo : Option Cargo) :
      (Fato.atribuiu r cargo campo).anexa = some id ↔ campo = .pushMessageId id := by
    cases campo <;> simp [Fato.anexa]
  simp only [Conversa.atribui, Conversa.historia_anota, List.filterMap_append, List.mem_append,
    List.mem_filterMap, List.mem_reverse, List.mem_map]
  apply or_congr_left
  constructor
  · rintro ⟨fato, ⟨campo, member, rfl⟩, told⟩
    rw [← (named campo _).mp told]
    exact member
  · intro member
    exact ⟨_, ⟨_, member, rfl⟩, (named _ _).mpr rfl⟩

theorem igual_atribui {campos : List Campo} (poupa : campos.all Campo.poupaIds = true) :
    k.Igual (k.atribui r campos) where
  sessao := rfl
  proximo := Nat.le_refl _
  ids r' _ := by
    by_cases here : r' = r
    · subst here
      rw [Conversa.ids, Conversa.objetos_atribui, messageIds_poupa poupa, Conversa.ids]
    · exact ids_atribui_ne here campos
  anexadas := by
    have silent (campo : Campo) (member : campo ∈ campos) (cargo : Option Cargo) :
        (Fato.atribuiu r cargo campo).anexa = none := by
      have spared := List.all_eq_true.mp poupa campo member
      cases campo <;> first | rfl | cases spared
    rw [Conversa.atribui, Conversa.historia_anota, List.filterMap_append]
    rw [List.filterMap_eq_nil_iff.mpr, List.nil_append]
    · rfl
    · intro fato member
      obtain ⟨campo, assigned, rfl⟩ := List.mem_map.mp (List.mem_reverse.mp member)
      exact silent campo assigned _

theorem igual_cria (inicio : Inicio) : k.Igual (k.cria inicio) where
  sessao := rfl
  proximo := Nat.le_succ _
  ids r' inside := by
    have other : r' ≠ k.proximo := Nat.ne_of_lt inside
    exact congrArg Sessao.messageIds (if_neg other)
  anexadas := rfl

theorem igual_anota {fatos : List Fato} (silent : ∀ fato ∈ fatos, fato.anexa = none) :
    k.Igual (k.anota fatos) where
  sessao := rfl
  proximo := Nat.le_refl _
  ids _ _ := rfl
  anexadas := by
    rw [Conversa.historia_anota, List.filterMap_append, List.filterMap_eq_nil_iff.mpr silent,
      List.nil_append]

theorem igual_refl : k.Igual k := ⟨rfl, Nat.le_refl _, fun _ _ => rfl, rfl⟩

namespace Rastreando

theorem igual (h : Rastreando c tasks s)
    (same : (s.mundo.conversas c).Igual (s'.mundo.conversas c))
    (more : s.tentadas ⊆ s'.tentadas) : Rastreando c tasks s' := by
  have listed : s'.listadas c = s.listadas c := by
    cases stored : (s.mundo.conversas c).sessao with
    | none => rw [listadas_vazia stored, listadas_vazia (same.sessao.trans stored)]
    | some r =>
      rw [listadas_sessao stored, listadas_sessao (same.sessao.trans stored)]
      exact same.ids r (h.sessao r stored)
  refine ⟨fun id appended => ?_, fun r stored => ?_, fun p member r target => ?_⟩
  · rw [listed]
    have before : id ∈ s.anexadas c := by
      rw [Rastro.anexadas, ← same.anexadas]
      exact appended
    exact (h.rastreada id before).imp_right fun dealt => dealt.mono more
  · exact lt_of_lt_of_le (h.sessao r (same.sessao.symm.trans stored)) same.proximo
  · obtain ⟨inside, tried⟩ := h.limpando p member r target
    refine ⟨lt_of_lt_of_le inside same.proximo, fun id listed => ?_⟩
    rw [same.ids r inside] at listed
    exact (tried id listed).imp_left fun tried => more tried

theorem anexa (h : Rastreando c tasks s) (novos : List Nat)
    (stored : (s.mundo.conversas c).sessao = some r) (free : ∀ p ∈ tasks, alvo c p ≠ some r)
    (changed : s'.mundo.conversas c =
      (s.mundo.conversas c).atribui r (novos.map Campo.pushMessageId))
    (same : s'.tentadas = s.tentadas) : Rastreando c tasks s' := by
  have stored' : (s'.mundo.conversas c).sessao = some r := by
    rw [changed]
    exact stored
  refine ⟨fun id appended => ?_, fun r' shown => ?_, fun p member r' target => ?_⟩
  · rw [Rastro.anexadas, changed, anexadas_atribui] at appended
    rw [listadas_sessao stored', changed, ids_push, List.mem_append]
    rcases appended with new | old
    · simp only [List.mem_map, Campo.pushMessageId.injEq, exists_eq_right] at new
      exact .inl (.inr new)
    · rcases h.rastreada id old with listed | dealt
      · rw [listadas_sessao stored] at listed
        exact .inl (.inl listed)
      · exact .inr (dealt.mono (by rw [same]; exact List.Subset.refl _))
  · rw [changed] at shown ⊢
    exact h.sessao r' shown
  · obtain ⟨inside, tried⟩ := h.limpando p member r' target
    have other : r' ≠ r := fun equal => free p member (equal ▸ target)
    rw [changed, same, ids_atribui_ne other]
    exact ⟨inside, tried⟩

/-- The session leaves the map while nothing is open. -/
theorem apaga (h : Rastreando c tasks s) (saida : Saida) (settled : EmDia c tasks s)
    (changed : s'.mundo.conversas c = (s.mundo.conversas c).apaga saida)
    (same : s'.tentadas = s.tentadas) : Rastreando c tasks s' := by
  have dealt (id : Nat) (dealt : Tentada c tasks s id) : Tentada c tasks s' id :=
    dealt.mono (by rw [same]; exact List.Subset.refl _)
  refine ⟨fun id appended => .inr ?_, fun r' shown => ?_, fun p member r' target => ?_⟩
  · have before : id ∈ s.anexadas c := by
      rw [Rastro.anexadas, changed] at appended
      exact appended
    exact (h.rastreada id before).elim (fun listed => dealt id (settled id listed)) (dealt id)
  · rw [changed] at shown
    cases shown
  · rw [changed, same]
    exact h.limpando p member r' target

/-- The map holds the session already, or one whose list holds nothing open. -/
theorem guarda (h : Rastreando c tasks s) (inside : r < (s.mundo.conversas c).proximo)
    (settled : (s.mundo.conversas c).sessao = some r ∨ EmDia c tasks s)
    (changed : s'.mundo.conversas c = (s.mundo.conversas c).guarda r)
    (same : s'.tentadas = s.tentadas) : Rastreando c tasks s' := by
  have dealt (id : Nat) (dealt : Tentada c tasks s id) : Tentada c tasks s' id :=
    dealt.mono (by rw [same]; exact List.Subset.refl _)
  have stored' : (s'.mundo.conversas c).sessao = some r := by rw [changed, Conversa.sessao_guarda]
  refine ⟨fun id appended => ?_, fun r' shown => ?_, fun p member r' target => ?_⟩
  · have before : id ∈ s.anexadas c := by
      rw [Rastro.anexadas, changed] at appended
      exact appended
    rcases h.rastreada id before with listed | tried
    · rcases settled with stored | settled
      · rw [listadas_sessao stored] at listed
        rw [listadas_sessao stored', changed]
        exact .inl listed
      · exact .inr (dealt id (settled id listed))
    · exact .inr (dealt id tried)
  · rw [stored', Option.some.injEq] at shown
    subst shown
    rw [changed]
    exact inside
  · rw [changed, same]
    exact h.limpando p member r' target

/-- A list whose messages were all dealt with is emptied. -/
theorem esvazia (h : Rastreando c tasks s)
    (tried : ∀ id ∈ (s.mundo.conversas c).ids r, id ∈ s.tentadas)
    (changed : s'.mundo.conversas c = (s.mundo.conversas c).atribui r [.messageIds []])
    (same : s'.tentadas = s.tentadas) : Rastreando c tasks s' := by
  have empty : (s'.mundo.conversas c).ids r = [] := by
    rw [changed, Conversa.ids, Conversa.objetos_atribui]
    rfl
  have dealt (id : Nat) (dealt : Tentada c tasks s id) : Tentada c tasks s' id :=
    dealt.mono (by rw [same]; exact List.Subset.refl _)
  refine ⟨fun id appended => ?_, fun r' shown => ?_, fun p member r' target => ?_⟩
  · rw [Rastro.anexadas, changed, anexadas_atribui] at appended
    have before : id ∈ s.anexadas c := appended.resolve_left (by simp)
    rcases h.rastreada id before with listed | tried'
    · cases stored : (s.mundo.conversas c).sessao with
      | none => simp [listadas_vazia stored] at listed
      | some r' =>
        rw [listadas_sessao stored] at listed
        by_cases here : r' = r
        · subst here
          exact .inr (dealt id (.inl (tried id listed)))
        · have stored' : (s'.mundo.conversas c).sessao = some r' := by
            rw [changed]
            exact stored
          rw [listadas_sessao stored', changed, ids_atribui_ne here]
          exact .inl listed
    · exact .inr (dealt id tried')
  · rw [changed] at shown ⊢
    exact h.sessao r' shown
  · obtain ⟨inside, tried'⟩ := h.limpando p member r' target
    by_cases here : r' = r
    · subst here
      rw [empty, changed]
      exact ⟨inside, by simp⟩
    · rw [changed, same, ids_atribui_ne here]
      exact ⟨inside, tried'⟩

theorem estreia (h : Rastreando c tasks s) (empty : (s.mundo.conversas c).sessao = none)
    (inicio : Inicio) (novos : List Nat)
    (changed : s'.mundo.conversas c = (((s.mundo.conversas c).cria inicio).atribui
      (s.mundo.conversas c).proximo (novos.map Campo.pushMessageId)).guarda
        (s.mundo.conversas c).proximo)
    (same : s'.tentadas = s.tentadas) : Rastreando c tasks s' := by
  let r := (s.mundo.conversas c).proximo
  let s₁ : Rastro := { s with mundo := s.mundo.conversa c (·.cria inicio) }
  let s₂ : Rastro := { s₁ with mundo := s₁.mundo.conversa c (·.guarda r) }
  have first : s₁.mundo.conversas c = (s.mundo.conversas c).cria inicio :=
    Mundo.conversas_conversa ..
  have second : s₂.mundo.conversas c = (s₁.mundo.conversas c).guarda r :=
    Mundo.conversas_conversa ..
  have h₁ : Rastreando c tasks s₁ := by
    apply h.igual
    · rw [first]
      exact igual_cria inicio
    · exact List.Subset.refl _
  have empty₁ : (s₁.mundo.conversas c).sessao = none := by
    rw [first]
    exact empty
  have h₂ : Rastreando c tasks s₂ := by
    apply h₁.guarda (r := r) ?_ (.inr ?_) second rfl
    · rw [first]
      exact Nat.lt_succ_self _
    · intro id listed
      simp [listadas_vazia empty₁] at listed
  apply h₂.anexa (r := r) novos
  · rw [second, Conversa.sessao_guarda]
  · intro p member target
    exact absurd (h.limpando p member r target).1 (Nat.lt_irrefl _)
  · rw [changed, second, first]
    rfl
  · exact same

end Rastreando

end Inventory

section Forms

variable (c : Chat) (r : Nat)

def apagarTodas (ids : List Nat) : Fluxo Unit := do
  each (apagarMensagem c) ids
  faz (.atribuir c r [.messageIds []])
  faz (.set c r)

def resta (ids : List Nat) : Fluxo Unit := (apagarTodas c r ids).handle fun _ => pure ()

def pausa (ids : List Nat) : Fluxo Unit :=
  let depois : Fluxo Unit := do
    faz (.setTimeout 30)
    apagarTodas c r ids
  depois.handle fun _ => pure ()

def permissao : Fluxo Unit :=
  let depois : Fluxo Unit := do
    let _canDeleteOthers ← verificarPermissoes c
    let sessao ← faz (.ler c r)
    apagarTodas c r (mensagensParaApagar sessao.messageIds)
  depois.handle fun _ => pure ()

/-- A task of the chat where it waits or is through; `proximo` bounds the object it holds. -/
inductive EmForma (proximo : Nat) : Fluxo Unit → Prop
  | acabada {p : Fluxo Unit} (ended : p.Ended) : EmForma proximo p
  | enviar (texto : String) : EmForma proximo (enviarMensagem c texto)
  | alheia (outra : Alheia) (espera : outra.ato.sync = false) : EmForma proximo outra.programa
  | permissao (r : Nat) (inside : r < proximo) : EmForma proximo (permissao c r)
  | resta (r id : Nat) (ids : List Nat) : EmForma proximo (resta c r (id :: ids))
  | pausa (r : Nat) (ids : List Nat) : EmForma proximo (pausa c r ids)

variable {c r}

theorem resta_cons (id : Nat) (ids : List Nat) :
    resta c r (id :: ids) = .call (.deleteMessage c id) fun _ => pausa c r ids := by
  have first : apagarTodas c r (id :: ids) = (faz (.deleteMessage c id)).handle (fun _ => pure ()) >>=
      fun _ => faz (.setTimeout 30) >>= fun _ => apagarTodas c r ids := by
    simp only [apagarTodas, each, apagarMensagem, bind_assoc]
  rw [resta, first]
  refine congrArg (Prog.call (Ato.deleteMessage c id)) (funext fun answer => ?_)
  cases answer with
  | ok a => rfl
  | error e => rfl

theorem pausa_eq (ids : List Nat) : pausa c r ids = .call (.setTimeout 30) fun
    | .ok _ => resta c r ids
    | .error _ => done () := by
  refine congrArg (Prog.call (Ato.setTimeout 30)) (funext fun answer => ?_)
  cases answer with
  | ok a => rfl
  | error e => rfl

@[simp] theorem devidas_resta (ids : List Nat) : devidas c (resta c r ids) = ids := by
  induction ids with
  | nil => rfl
  | cons id ids ih => simp [resta_cons, pausa_eq, devidas, ih]

@[simp] theorem devidas_pausa (ids : List Nat) : devidas c (pausa c r ids) = ids := by
  simp [pausa_eq, devidas]

@[simp] theorem alvo_resta (ids : List Nat) : alvo c (resta c r ids) = some r := by
  induction ids with
  | nil => simp [resta, apagarTodas, each, Prog.handle, alvo]
  | cons id ids ih => simp [resta_cons, pausa_eq, alvo, ih]

@[simp] theorem alvo_pausa (ids : List Nat) : alvo c (pausa c r ids) = some r := by
  simp [pausa_eq, alvo]

theorem alvo_ended {p : Fluxo Unit} (ended : p.Ended) : alvo c p = none := by
  cases p with
  | call o next => exact ended.elim
  | _ => rfl

theorem EmForma.mono {n n' : Nat} (le : n ≤ n') {p : Fluxo Unit} (form : EmForma c n p) :
    EmForma c n' p := by
  cases form with
  | acabada ended => exact .acabada ended
  | enviar texto => exact .enviar texto
  | alheia outra espera => exact .alheia outra espera
  | permissao r inside => exact .permissao r (Nat.lt_of_lt_of_le inside le)
  | resta r id ids => exact .resta r id ids
  | pausa r ids => exact .pausa r ids

end Forms

section Effects

variable {c : Chat} {m : Mundo} {o : Ato}

theorem igual_conversa {c' : Chat} {f : Conversa → Conversa} (same : ∀ k : Conversa, k.Igual (f k)) :
    (m.conversas c).Igual ((m.conversa c' f).conversas c) := by
  by_cases here : c = c'
  · subst here
    rw [Mundo.conversas_conversa]
    exact same _
  · rw [Mundo.conversas_conversa_ne here]
    exact igual_refl

theorem igual_fato {d : Chat} (fatos : List Fato) (silent : ∀ fato ∈ fatos, fato.anexa = none) :
    (m.conversas c).Igual ((m.conversa d (·.anota fatos)).conversas c) :=
  igual_conversa fun _ => igual_anota silent

theorem igual_sem (spared : ∀ c' r campos, o = .atribuir c' r campos →
      campos.all Campo.poupaIds = true)
    (set : ∀ r, o ≠ .set c r) (delete : ∀ saida, o ≠ .delete c saida) :
    (m.conversas c).Igual ((o.sem m).2.conversas c) := by
  cases o with
  | set c' r =>
    have other : c ≠ c' := fun here => set r (here ▸ rfl)
    rw [Ato.sem, Mundo.conversas_conversa_ne other]
    exact igual_refl
  | delete c' saida =>
    have other : c ≠ c' := fun here => delete saida (here ▸ rfl)
    rw [Ato.sem, Mundo.conversas_conversa_ne other]
    exact igual_refl
  | novo c' inicio => exact igual_conversa fun _ => igual_cria inicio
  | atribuir c' r campos =>
    have poupa := spared c' r campos rfl
    exact igual_conversa fun _ => igual_atribui poupa
  | botao c' data => exact igual_fato _ (by simp [Fato.anexa])
  | chama c' r setor => exact igual_fato _ (by simp [Fato.anexa])
  | call c' chamada => exact igual_fato _ (by simp [Fato.anexa])
  | commitVenda c' r => exact igual_fato _ (by simp [Fato.anexa])
  | updateComprovante c' imagem vendaId =>
    exact igual_fato (m := m) (c := c) (d := c') [.comprovou imagem] (by simp [Fato.anexa])
  | compare c' setor texto hash =>
    apply igual_fato
    split
    · simp [Fato.anexa]
    · simp
  | query c' q =>
    rw [Ato.sem]
    split
    · exact igual_refl
    · apply igual_fato (m := m) (c := c) (d := c')
      cases q with
      | selectLogin =>
        simp only [SqlBot.fatos]
        split
        · simp [Fato.anexa]
        · simp
      | updateSenha => simp [SqlBot.fatos, Fato.anexa]
      | _ => simp [SqlBot.fatos]
  | _ => exact igual_refl

theorem igual_exec (yields : o.sync = false) :
    (m.conversas c).Igual ((o.exec m).2.conversas c) := by
  have spared (c' : Chat) (r : Nat) (campos : List Campo) (same : o = .atribuir c' r campos) :
      campos.all Campo.poupaIds = true := by
    subst same
    cases yields
  have set (r : Nat) : o ≠ .set c r := by
    rintro rfl
    cases yields
  have delete (saida : Saida) : o ≠ .delete c saida := by
    rintro rfl
    cases yields
  have effect (m : Mundo) : (m.conversas c).Igual ((o.sem m).2.conversas c) :=
    igual_sem spared set delete
  exact Ato.exec_regra (R := fun _ m' => (m.conversas c).Igual (m'.conversas c))
    (fun falhas => effect (m.comFalhas falhas)) (fun _ _ _ => igual_refl)
    fun _ falhas _ => effect (m.comFalhas falhas)

end Effects

/-- What a task leaves when it stops: the identifiers in order, and itself in one of the forms. -/
structure Acertada (c : Chat) (tasks : List (Fluxo Unit)) (n : Nat) (p : Fluxo Unit) (s : Rastro) :
    Prop where
  rastreando : Rastreando c tasks s
  forma : EmForma c (s.mundo.conversas c).proximo p
  proximo : n ≤ (s.mundo.conversas c).proximo
  limpando : ∀ r, alvo c p = some r → r < (s.mundo.conversas c).proximo ∧
    ∀ id ∈ (s.mundo.conversas c).ids r, id ∈ s.tentadas ∨ id ∈ devidas c p

/-- Up to its wait the task keeps the identifiers in order, if its calls take care. -/
def Acerta (c : Chat) (tasks : List (Fluxo Unit)) (n : Nat) (p : Fluxo Unit) (s : Rastro) : Prop :=
  (rastreio c).Settles (fun o s => Cuida c tasks s o) (Acertada c tasks n) p s

section Steps

variable {c : Chat} {tasks : List (Fluxo Unit)} {n : Nat} {s : Rastro} {r : Nat}

/-- A synchronous call always takes effect. -/
theorem acerta_sync {o : Ato} {next : Except String o.Res → Fluxo Unit} (sync : o.sync = true)
    (rest : Cuida c tasks s o →
      Acerta c tasks n (next (o.sem s.mundo).1) ⟨(o.sem s.mundo).2, s.tentadas⟩) :
    Acerta c tasks n (.call o next) s := by
  refine settles_sync (M := rastreio c) sync fun law => ?_
  have fixed : o.infalivel = true := by
    cases o with
    | setTimeout => cases sync
    | _ => exact sync
  have untried : o.tenta c = [] := by
    cases o with
    | deleteMessage => cases sync
    | _ => rfl
  have answered : (rastreio c).exec o s = ((o.sem s.mundo).1, ⟨(o.sem s.mundo).2, s.tentadas⟩) := by
    change ((o.exec s.mundo).1, (⟨(o.exec s.mundo).2, o.tenta c ++ s.tentadas⟩ : Rastro)) = _
    rw [Ato.exec_infalivel fixed, untried, List.nil_append]
  rw [answered]
  exact rest law

theorem acerta_espera {p : Fluxo Unit} (waiting : Waiting (rastreio c) p)
    (done : Acertada c tasks n p s) : Acerta c tasks n p s :=
  settles_waiting (settle_waiting waiting) done

theorem acertada_fim {p : Fluxo Unit} (ended : p.Ended) (h : Rastreando c tasks s)
    (le : n ≤ (s.mundo.conversas c).proximo) : Acertada c tasks n p s where
  rastreando := h
  forma := .acabada ended
  proximo := le
  limpando r target := by simp [alvo_ended ended] at target

theorem acerta_fim {a : Unit} (h : Rastreando c tasks s)
    (le : n ≤ (s.mundo.conversas c).proximo) : Acerta c tasks n (done a) s :=
  acerta_espera trivial (acertada_fim trivial h le)

/-- The same for a call that changes the conversation of the chat. -/
theorem acerta_muda {o : Ato} {next : Except String o.Res → Fluxo Unit} {a : o.Res}
    {f : Conversa → Conversa} (sync : o.sync = true)
    (effect : o.sem s.mundo = (.ok a, s.mundo.conversa c f))
    (rest : Cuida c tasks s o → ∀ s' : Rastro, s'.mundo.conversas c = f (s.mundo.conversas c) →
      s'.tentadas = s.tentadas → Acerta c tasks n (next (.ok a)) s') :
    Acerta c tasks n (.call o next) s := by
  refine acerta_sync sync fun law => ?_
  rw [effect]
  exact rest law _ (Mundo.conversas_conversa ..) rfl

theorem acerta_set {next : Except String Unit → Fluxo Unit} {a : Unit} (h : Rastreando c tasks s)
    (le : n ≤ (s.mundo.conversas c).proximo) (last : next (.ok ()) = done a) :
    Acerta c tasks n (.call (.set c r) next) s := by
  refine acerta_muda (o := .set c r) (f := (·.guarda r)) rfl rfl fun law s' changed same => ?_
  obtain ⟨inside, settled⟩ := law rfl
  rw [last]
  apply acerta_fim (h.guarda inside settled changed same)
  rw [changed]
  exact le

theorem mem_mensagensParaApagar {id : Nat} {ids : List Nat} :
    id ∈ mensagensParaApagar ids ↔ id ∈ ids := by
  simp [mensagensParaApagar, List.mem_eraseDups]

/-- The cleanup goes on, or empties the list once every message of it was dealt with. -/
theorem acerta_resta (h : Rastreando c tasks s) (le : n ≤ (s.mundo.conversas c).proximo)
    (inside : r < (s.mundo.conversas c).proximo) {ids : List Nat}
    (tried : ∀ id ∈ (s.mundo.conversas c).ids r, id ∈ s.tentadas ∨ id ∈ ids) :
    Acerta c tasks n (resta c r ids) s := by
  cases ids with
  | cons id ids =>
    apply acerta_espera
    · rw [resta_cons]
      rfl
    · refine ⟨h, .resta r id ids, le, fun r' target => ?_⟩
      rw [alvo_resta, Option.some.injEq] at target
      subst target
      rw [devidas_resta]
      exact ⟨inside, tried⟩
  | nil =>
    have all (id : Nat) (listed : id ∈ (s.mundo.conversas c).ids r) : id ∈ s.tentadas :=
      (tried id listed).resolve_right (by simp)
    refine acerta_muda (o := .atribuir c r [.messageIds []]) (f := (·.atribui r [.messageIds []]))
      rfl rfl fun _ s' changed same => ?_
    apply acerta_set (h.esvazia all changed same) _ rfl
    rw [changed]
    exact le

theorem acerta_ler (h : Rastreando c tasks s) (le : n ≤ (s.mundo.conversas c).proximo)
    (inside : r < (s.mundo.conversas c).proximo) :
    Acerta c tasks n (.call (.ler c r) fun answer =>
      ((answered answer : Fluxo Sessao) >>= fun sessao =>
        apagarTodas c r (mensagensParaApagar sessao.messageIds)).handle fun _ => pure ()) s := by
  refine acerta_sync rfl fun _ => ?_
  apply acerta_resta h le inside
  intro id listed
  exact .inr (mem_mensagensParaApagar.mpr listed)

/-- What `enviarMensagem` does with the identifier of the message that was sent. -/
def guardarId (c : Chat) (id : Nat) : Fluxo Unit := do
  let r ← obter c {}
  faz (.atribuir c r [.pushMessageId id])
  faz (.set c r)

theorem acerta_guardarId (h : Rastreando c tasks s) (le : n ≤ (s.mundo.conversas c).proximo)
    (id : Nat) : Acerta c tasks n ((guardarId c id).handle fun _ => pure ()) s := by
  refine acerta_sync (o := .get c) rfl fun _ => ?_
  simp only [Ato.sem]
  cases stored : (s.mundo.conversas c).sessao with
  | some r =>
    refine acerta_muda (o := .atribuir c r [.pushMessageId id])
      (f := (·.atribui r [.pushMessageId id])) (s := s) rfl rfl fun law s' changed same => ?_
    have free := law rfl rfl
    apply acerta_set (h.anexa [id] stored free changed same) _ rfl
    rw [changed]
    exact le
  | none =>
    refine acerta_muda (o := .novo c {}) (f := (·.cria {})) (s := s) rfl rfl
      fun _ s₁ created same₁ => ?_
    refine acerta_muda (o := .atribuir c _ [.pushMessageId id])
      (f := (·.atribui _ [.pushMessageId id])) (s := s₁) rfl rfl fun _ s₂ pushed same₂ => ?_
    refine acerta_muda (o := .set c _) (f := (·.guarda _)) (s := s₂) rfl rfl
      fun _ s₃ changed same₃ => ?_
    rw [pushed, created] at changed
    apply acerta_fim
    · exact h.estreia stored {} [id] changed (same₃.trans (same₂.trans same₁))
    · rw [changed]
      exact Nat.le_succ_of_le le

def fecharRecebimento (c : Chat) (agora r : Nat) (sessao : Sessao) : Fluxo Unit :=
  let fechar : Fluxo (Option Nat) :=
    if sessaoExpirada sessao agora then do
      faz (.delete c .expirada)
      pure none
    else do
      faz (.atribuir c r [.lastUpdated agora])
      faz (.set c r)
      pure (some r)
  fechar >>= fun _ => pure ()

theorem acerta_fechar (h : Rastreando c tasks s) (le : n ≤ (s.mundo.conversas c).proximo)
    (agora : Nat) (sessao : Sessao) :
    Acerta c tasks n (fecharRecebimento c agora r sessao) s := by
  rw [fecharRecebimento]
  split
  · refine acerta_muda (o := .delete c .expirada) (f := (·.apaga .expirada)) rfl rfl
      fun law s' changed same => ?_
    apply acerta_fim (h.apaga .expirada (law rfl) changed same)
    rw [changed]
    exact le
  · refine acerta_muda (o := .atribuir c r [.lastUpdated agora])
      (f := (·.atribui r [.lastUpdated agora])) rfl rfl fun _ s' changed same => ?_
    have h' : Rastreando c tasks s' := by
      apply h.igual
      · rw [changed]
        exact igual_atribui rfl
      · rw [same]
        exact List.Subset.refl _
    apply acerta_set h' _ rfl
    rw [changed]
    exact le

theorem acerta_primeira (h : Rastreando c tasks s) (le : n ≤ (s.mundo.conversas c).proximo)
    (empty : (s.mundo.conversas c).sessao = none) (agora : Nat) (novos : List Nat) :
    Acerta c tasks n (faz (.novo c (sessaoDoDia agora)) >>= fun r =>
      faz (.atribuir c r (novos.map Campo.pushMessageId)) >>= fun _ =>
        sessaoDeHoje c agora r >>= fun r => faz (.ler c r) >>= fecharRecebimento c agora r) s := by
  refine acerta_muda (o := .novo c (sessaoDoDia agora)) (f := (·.cria (sessaoDoDia agora))) rfl rfl
    fun _ s₁ created same₁ => ?_
  let r := (s.mundo.conversas c).proximo
  let campos := novos.map Campo.pushMessageId
  refine acerta_muda (o := .atribuir c r campos) (f := (·.atribui r campos)) (s := s₁) rfl rfl
    fun _ s₂ pushed same₂ => ?_
  rw [created] at pushed
  have object : (s₂.mundo.conversas c).objetos r =
      (sessaoDoDia agora).sessao.atribuirTodos campos := by
    rw [pushed, Conversa.objetos_atribui, Conversa.objetos_cria]
  have today : ((s₂.mundo.conversas c).objetos r).data = some (dia agora) := by
    rw [object, data_atribuirTodos]
    rfl
  have fresh : sessaoExpirada ((s₂.mundo.conversas c).objetos r) agora = false := by
    have stamp : ((s₂.mundo.conversas c).objetos r).lastUpdated = some agora := by
      rw [object, lastUpdated_push]
      rfl
    simp [sessaoExpirada, stamp]
  refine acerta_sync (o := .ler c r) (s := s₂) rfl fun _ => ?_
  change Acerta c tasks n ((if ((s₂.mundo.conversas c).objetos r).data ≠ some (dia agora)
    then faz (.novo c (sessaoDoDia agora)) else pure r) >>= _) s₂
  rw [if_neg (not_not.mpr today)]
  refine acerta_sync (o := .ler c r) (s := s₂) rfl fun _ => ?_
  change Acerta c tasks n (fecharRecebimento c agora r ((s₂.mundo.conversas c).objetos r)) s₂
  rw [fecharRecebimento, fresh]
  refine acerta_muda (o := .atribuir c r [.lastUpdated agora])
    (f := (·.atribui r [.lastUpdated agora])) (s := s₂) rfl rfl fun _ s₃ stamped same₃ => ?_
  refine acerta_muda (o := .set c r) (f := (·.guarda r)) (s := s₃) rfl rfl
    fun _ s₄ stored same₄ => ?_
  rw [stamped] at stored
  -- the object might as well be stored before its time is written
  let antes : Rastro := ⟨s₂.mundo.conversa c (·.guarda r), s.tentadas⟩
  have changed : antes.mundo.conversas c = (s₂.mundo.conversas c).guarda r :=
    Mundo.conversas_conversa ..
  have h₁ : Rastreando c tasks antes := by
    apply h.estreia empty (sessaoDoDia agora) novos
    · rw [changed, pushed]
    · rfl
  have later : s₄.mundo.conversas c = (antes.mundo.conversas c).atribui r [.lastUpdated agora] := by
    rw [stored, changed]
    rfl
  apply acerta_fim
  · apply h₁.igual
    · rw [later]
      exact igual_atribui rfl
    · rw [same₄, same₃, same₂, same₁]
      exact List.Subset.refl _
  · rw [later, changed, pushed]
    exact Nat.le_succ_of_le le

theorem receber_eq (m : Mensagem) : (Pedida.receber m).programa c =
    faz .dateNow >>= fun agora => faz (.get c) >>= fun x =>
      (match x with
        | some r => pure r
        | none => faz (.novo c (sessaoDoDia agora))) >>= fun r =>
      faz (.atribuir c r (m.messageId.toList.map Campo.pushMessageId)) >>= fun _ =>
        sessaoDeHoje c agora r >>= fun r => faz (.ler c r) >>= fecharRecebimento c agora r := by
  simp only [Pedida.programa, receber, obter, bind_assoc]
  rfl

theorem acerta_receber (h : Rastreando c tasks s) (le : n ≤ (s.mundo.conversas c).proximo)
    (m : Mensagem) : Acerta c tasks n ((Pedida.receber m).programa c) s := by
  rw [receber_eq]
  refine acerta_sync (o := .dateNow) rfl fun _ => ?_
  refine acerta_sync (o := .get c) rfl fun _ => ?_
  simp only [Ato.sem, answered_ok]
  cases stored : (s.mundo.conversas c).sessao with
  | none => exact acerta_primeira h le stored s.mundo.db.agora m.messageId.toList
  | some r =>
    let campos := m.messageId.toList.map Campo.pushMessageId
    refine acerta_muda (o := .atribuir c r campos) (f := (·.atribui r campos)) (s := s) rfl rfl
      fun law s₁ pushed same₁ => ?_
    have h₁ : Rastreando c tasks s₁ := by
      cases named : m.messageId with
      | none =>
        apply h.igual
        · rw [pushed, show campos = [] by simp [campos, named]]
          exact igual_atribui rfl
        · rw [same₁]
          exact List.Subset.refl _
      | some id =>
        have free := law rfl (by simp [campos, named, Campo.anexa])
        exact h.anexa m.messageId.toList stored free pushed same₁
    have le₁ : n ≤ (s₁.mundo.conversas c).proximo := by
      rw [pushed]
      exact le
    refine acerta_sync (o := .ler c r) (s := s₁) rfl fun _ => ?_
    change Acerta c tasks n ((if ((s₁.mundo.conversas c).objetos r).data ≠
      some (dia s.mundo.db.agora) then faz (.novo c (sessaoDoDia s.mundo.db.agora)) else pure r) >>=
        _) s₁
    split
    · refine acerta_muda (o := .novo c _) (f := (·.cria _)) (s := s₁) rfl rfl
        fun _ s₂ created same₂ => ?_
      refine acerta_sync (o := .ler c _) (s := s₂) rfl fun _ => ?_
      apply acerta_fechar (s := s₂)
      · apply h₁.igual
        · rw [created]
          exact igual_cria _
        · rw [same₂]
          exact List.Subset.refl _
      · rw [created]
        exact Nat.le_succ_of_le le₁
    · refine acerta_sync (o := .ler c r) (s := s₁) rfl fun _ => ?_
      exact acerta_fechar h₁ le₁ _ _

theorem acerta_permissao (h : Rastreando c tasks s) (le : n ≤ (s.mundo.conversas c).proximo)
    (inside : r < (s.mundo.conversas c).proximo) : Acerta c tasks n (permissao c r) s := by
  have waiting : Waiting (rastreio c) (permissao c r) :=
    show Ato.sync (.getChatMember c) = false from rfl
  apply acerta_espera waiting
  refine ⟨h, .permissao r inside, le, fun r' target => ?_⟩
  cases target

/-- It starts with the stored session, or with an object of its own. -/
theorem acerta_limpar (h : Rastreando c tasks s) (le : n ≤ (s.mundo.conversas c).proximo) :
    Acerta c tasks n (limparMensagensChat c) s := by
  refine acerta_sync (o := .get c) rfl fun _ => ?_
  simp only [Ato.sem]
  cases stored : (s.mundo.conversas c).sessao with
  | some r => exact acerta_permissao h le (h.sessao r stored)
  | none =>
    refine acerta_muda (o := .novo c {}) (f := (·.cria {})) (s := s) rfl rfl
      fun _ s₁ created same => ?_
    have h₁ : Rastreando c tasks s₁ := by
      apply h.igual
      · rw [created]
        exact igual_cria {}
      · rw [same]
        exact List.Subset.refl _
    apply acerta_permissao h₁
    · rw [created]
      exact Nat.le_succ_of_le le
    · rw [created]
      exact Nat.lt_succ_self _

theorem acerta_enviar (h : Rastreando c tasks s) (le : n ≤ (s.mundo.conversas c).proximo)
    (texto : String) : Acerta c tasks n (enviarMensagem c texto) s := by
  have waiting : Waiting (rastreio c) (enviarMensagem c texto) :=
    show Ato.sync (.sendMessage c texto []) = false from rfl
  apply acerta_espera waiting
  refine ⟨h, .enviar texto, le, fun r' target => ?_⟩
  cases target

theorem alvo_alheia (outra : Alheia) (yields : outra.ato.sync = false) :
    alvo c outra.programa = none := by
  obtain ⟨o, poupa⟩ := outra
  cases o with
  | atribuir => cases yields
  | _ => rfl

theorem devidas_alheia (outra : Alheia) : devidas c outra.programa = outra.ato.tenta c := by
  obtain ⟨o, poupa⟩ := outra
  cases o with
  | deleteMessage c' id => simp [Alheia.programa, devidas, Ato.tenta]
  | _ => rfl

theorem acerta_alheia (h : Rastreando c tasks s) (le : n ≤ (s.mundo.conversas c).proximo)
    (outra : Alheia) : Acerta c tasks n outra.programa s := by
  cases sync : outra.ato.sync with
  | false =>
    have waiting : Waiting (rastreio c) outra.programa := sync
    apply acerta_espera waiting
    refine ⟨h, .alheia outra sync, le, fun r' target => ?_⟩
    rw [alvo_alheia outra sync] at target
    cases target
  | true =>
    refine acerta_sync sync fun law => ?_
    obtain ⟨o, poupa⟩ := outra
    have ended : ((answered (o.sem s.mundo).1 : Fluxo o.Res) >>=
        fun _ => (pure () : Fluxo Unit)).Ended := by
      cases (o.sem s.mundo).1 with
      | ok a => trivial
      | error e => trivial
    have finish (h' : Rastreando c tasks ⟨(o.sem s.mundo).2, s.tentadas⟩)
        (le' : n ≤ ((o.sem s.mundo).2.conversas c).proximo) :
        Acerta c tasks n ((answered (o.sem s.mundo).1 : Fluxo o.Res) >>= fun _ => pure ())
          ⟨(o.sem s.mundo).2, s.tentadas⟩ := by
      apply settles_waiting _ (acertada_fim ended h' le')
      cases (o.sem s.mundo).1 with
      | ok a => rfl
      | error e => rfl
    by_cases stores : ∃ r, o = .set c r
    · obtain ⟨r, rfl⟩ := stores
      obtain ⟨inside, settled⟩ := law rfl
      have changed := Mundo.conversas_conversa (c := c) (·.guarda r) s.mundo
      apply finish (h.guarda inside settled changed rfl)
      exact le.trans (Nat.le_of_eq (congrArg Conversa.proximo changed).symm)
    by_cases deletes : ∃ saida, o = .delete c saida
    · obtain ⟨saida, rfl⟩ := deletes
      have changed := Mundo.conversas_conversa (c := c) (·.apaga saida) s.mundo
      apply finish (h.apaga saida (law rfl) changed rfl)
      exact le.trans (Nat.le_of_eq (congrArg Conversa.proximo changed).symm)
    have same : (s.mundo.conversas c).Igual ((o.sem s.mundo).2.conversas c) :=
      igual_sem poupa (fun r stored => stores ⟨r, stored⟩)
        fun saida deleted => deletes ⟨saida, deleted⟩
    exact finish (h.igual same (List.Subset.refl _)) (le.trans same.proximo)

end Steps

section Runs

variable {c : Chat} {tasks : List (Fluxo Unit)} {n i : Nat} {s s' : Rastro} {p p' : Fluxo Unit}

/-- Every identifier is accounted for, and every task is in one of the forms. -/
structure EmOrdem (c : Chat) (cfg : Config String Ato.Res Unit Rastro) : Prop where
  rastreando : Rastreando c cfg.tasks cfg.state
  formas : ∀ p ∈ cfg.tasks, EmForma c (cfg.state.mundo.conversas c).proximo p

theorem ordem_set (h : Acertada c tasks n p' s') (forms : ∀ p ∈ tasks, EmForma c n p)
    (here : tasks[i]? = some p) (due : ∀ id ∈ devidas c p, id ∈ devidas c p' ∨ id ∈ s'.tentadas) :
    EmOrdem c ⟨s', tasks.set i p'⟩ := by
  obtain ⟨bound, same⟩ := List.getElem?_eq_some_iff.mp here
  have mine : p' ∈ tasks.set i p' := List.mem_set bound p'
  have dealt (id : Nat) (dealt : Tentada c tasks s' id) : Tentada c (tasks.set i p') s' id := by
    rcases dealt with tried | ⟨q, member, owed⟩
    · exact .inl tried
    · obtain ⟨j, inside, rfl⟩ := List.mem_iff_getElem.mp member
      by_cases at_i : j = i
      · subst at_i
        rw [same] at owed
        rcases due id owed with later | tried
        · exact .inr ⟨p', mine, later⟩
        · exact .inl tried
      · refine .inr ⟨tasks[j], ?_, owed⟩
        rw [← List.getElem_set_ne (Ne.symm at_i) (by simpa using inside) (a := p')]
        exact List.getElem_mem _
  constructor
  · refine ⟨fun id appended => ?_, h.rastreando.sessao, fun q member r target => ?_⟩
    · exact (h.rastreando.rastreada id appended).imp_right (dealt id)
    · rcases List.mem_or_eq_of_mem_set member with old | rfl
      · exact h.rastreando.limpando q old r target
      · exact h.limpando r target
  · intro q member
    rcases List.mem_or_eq_of_mem_set member with old | rfl
    · exact (forms q old).mono h.proximo
    · exact h.forma

theorem ordem_append (h : Acertada c tasks n p' s') (forms : ∀ p ∈ tasks, EmForma c n p) :
    EmOrdem c ⟨s', tasks ++ [p']⟩ := by
  constructor
  · refine ⟨fun id appended => ?_, h.rastreando.sessao, fun q member r target => ?_⟩
    · apply (h.rastreando.rastreada id appended).imp_right
      rintro (tried | ⟨q, member, owed⟩)
      · exact .inl tried
      · exact .inr ⟨q, List.mem_append_left _ member, owed⟩
    · rcases List.mem_append.mp member with old | new
      · exact h.rastreando.limpando q old r target
      · obtain rfl := List.mem_singleton.mp new
        exact h.limpando r target
  · intro q member
    rcases List.mem_append.mp member with old | new
    · exact (forms q old).mono h.proximo
    · obtain rfl := List.mem_singleton.mp new
      exact h.forma

theorem acerta_pedida (pedida : Pedida) (h : Rastreando c tasks s)
    (le : n ≤ (s.mundo.conversas c).proximo) : Acerta c tasks n (pedida.programa c) s := by
  cases pedida with
  | limpar => exact acerta_limpar h le
  | enviar texto => exact acerta_enviar h le texto
  | receber m => exact acerta_receber h le m
  | alheia outra => exact acerta_alheia h le outra

theorem Rastreando.exec (h : Rastreando c tasks s) {o : Ato} (yields : o.sync = false) :
    Rastreando c tasks ((rastreio c).exec o s).2 ∧
      (s.mundo.conversas c).proximo ≤ (((rastreio c).exec o s).2.mundo.conversas c).proximo := by
  have same := igual_exec (c := c) (m := s.mundo) yields
  exact ⟨h.igual same (List.subset_append_right _ _), same.proximo⟩

theorem ordem_call {cfg : Config String Ato.Res Unit Rastro} {task : Nat} {o : Ato}
    {next : Except String o.Res → Fluxo Unit} (h : EmOrdem c cfg)
    (here : cfg.tasks[task]? = some (.call o next)) (law : Cuidadosa c cfg (.step task))
    (goes : Acerta c cfg.tasks (cfg.state.mundo.conversas c).proximo
      (next ((rastreio c).exec o cfg.state).1) ((rastreio c).exec o cfg.state).2)
    (due : ∀ id ∈ devidas c (.call o next),
      let settled := (rastreio c).settle (next ((rastreio c).exec o cfg.state).1)
        ((rastreio c).exec o cfg.state).2
      id ∈ devidas c settled.1 ∨ id ∈ settled.2.tentadas) :
    EmOrdem c ((rastreio c).advance (.step task) cfg) := by
  have lawful (x : Ato × Rastro) (made : x ∈ (rastreio c).settling
      (next ((rastreio c).exec o cfg.state).1) ((rastreio c).exec o cfg.state).2) :
      Cuida c cfg.tasks x.2 x.1 := by
    apply law x
    simp only [calls, here]
    exact List.mem_cons_of_mem _ made
  have reached := goes lawful
  rw [advance, resume_call here]
  exact ordem_set reached h.formas here due

theorem ordem_step {cfg : Config String Ato.Res Unit Rastro} {task : Nat} (h : EmOrdem c cfg)
    (law : Cuidadosa c cfg (.step task)) : EmOrdem c ((rastreio c).advance (.step task) cfg) := by
  cases here : cfg.tasks[task]? with
  | none =>
    rw [advance, resume_none here]
    exact h
  | some p =>
    have form := h.formas p (List.mem_of_getElem? here)
    cases form with
    | acabada ended =>
      rw [advance, resume_ended ended here]
      exact h
    | enviar texto =>
      obtain ⟨h₁, le₁⟩ := h.rastreando.exec (o := .sendMessage c texto []) rfl
      refine ordem_call h here law ?_ fun id owed => by cases owed
      cases ((rastreio c).exec (.sendMessage c texto []) cfg.state).1 with
      | ok id => exact acerta_guardarId h₁ le₁ id
      | error e => exact acerta_fim h₁ le₁
    | alheia outra espera =>
      obtain ⟨h₁, le₁⟩ := h.rastreando.exec espera
      have ended : ((answered ((rastreio c).exec outra.ato cfg.state).1 : Fluxo outra.ato.Res) >>=
          fun _ => (pure () : Fluxo Unit)).Ended := by
        cases ((rastreio c).exec outra.ato cfg.state).1 with
        | ok a => trivial
        | error e => trivial
      have settled := settle_waiting (M := rastreio c) (s := ((rastreio c).exec outra.ato cfg.state).2)
        (waiting_ended ended)
      refine ordem_call h here law (settles_waiting settled (acertada_fim ended h₁ le₁)) ?_
      intro id owed
      have tried : id ∈ outra.ato.tenta c := by
        rw [← devidas_alheia]
        exact owed
      right
      have final := congrArg (fun x => x.2.tentadas) settled
      exact final ▸ List.mem_append_left _ tried
    | permissao r inside =>
      obtain ⟨h₁, le₁⟩ := h.rastreando.exec (o := .getChatMember c) rfl
      refine ordem_call h here law ?_ fun id owed => by cases owed
      cases ((rastreio c).exec (.getChatMember c) cfg.state).1 with
      | ok _ => exact acerta_ler h₁ le₁ (Nat.lt_of_lt_of_le inside le₁)
      | error e => exact acerta_ler h₁ le₁ (Nat.lt_of_lt_of_le inside le₁)
    | resta r id ids =>
      obtain ⟨h₁, le₁⟩ := h.rastreando.exec (o := .deleteMessage c id) rfl
      obtain ⟨inside, tried⟩ := h.rastreando.limpando _ (List.mem_of_getElem? here) r (alvo_resta _)
      have same := igual_exec (c := c) (m := cfg.state.mundo) (o := .deleteMessage c id) rfl
      have attempted : ((rastreio c).exec (.deleteMessage c id) cfg.state).2.tentadas =
          id :: cfg.state.tentadas := by
        simp [rastreio, Rastro.exec, Ato.tenta]
      have waiting : Waiting (rastreio c) (pausa c r ids) := by
        rw [pausa_eq]
        exact (rfl : Ato.sync (.setTimeout 30) = false)
      rw [resta_cons] at here
      refine ordem_call h here law (acerta_espera waiting ⟨h₁, .pausa r ids, le₁, ?_⟩) ?_
      · intro r' target
        rw [alvo_pausa, Option.some.injEq] at target
        subst target
        refine ⟨Nat.lt_of_lt_of_le inside le₁, fun other listed => ?_⟩
        rw [attempted, devidas_pausa, List.mem_cons]
        have before := tried other (by rw [← same.ids r inside]; exact listed)
        rw [devidas_resta, List.mem_cons] at before
        rcases before with old | rfl | later
        · exact .inl (.inr old)
        · exact .inl (.inl rfl)
        · exact .inr later
      · intro other owed
        rw [← resta_cons, devidas_resta, List.mem_cons] at owed
        simp only [settle_waiting waiting, devidas_pausa, attempted, List.mem_cons]
        rcases owed with rfl | later
        · exact .inr (.inl rfl)
        · exact .inl later
    | pausa r ids =>
      obtain ⟨h₁, le₁⟩ := h.rastreando.exec (o := .setTimeout 30) rfl
      obtain ⟨inside, tried⟩ := h.rastreando.limpando _ (List.mem_of_getElem? here) r (alvo_pausa _)
      have same := igual_exec (c := c) (m := cfg.state.mundo) (o := .setTimeout 30) rfl
      rw [devidas_pausa] at tried
      rw [pausa_eq] at here
      refine ordem_call h here law ?_ ?_
      · apply acerta_resta h₁ le₁ (Nat.lt_of_lt_of_le inside le₁)
        intro id listed
        exact tried id (by rw [← same.ids r inside]; exact listed)
      · intro id owed
        rw [← pausa_eq, devidas_pausa] at owed
        cases ids with
        | nil => simp at owed
        | cons first rest =>
          have waiting : Waiting (rastreio c) (resta c r (first :: rest)) := by
            rw [resta_cons]
            exact (rfl : Ato.sync (.deleteMessage c first) = false)
          left
          change id ∈ devidas c ((rastreio c).settle (resta c r (first :: rest)) _).1
          rw [settle_waiting waiting, devidas_resta]
          exact owed

theorem ordem_advance {cfg : Config String Ato.Res Unit Rastro} {a : Action Pedida Deriva}
    (h : EmOrdem c cfg) (law : Cuidadosa c cfg a) : EmOrdem c ((rastreio c).advance a cfg) := by
  cases a with
  | drift d => exact ⟨h.rastreando.igual igual_refl (List.Subset.refl _), h.formas⟩
  | arrive pedida =>
    have lawful (x : Ato × Rastro) (made : x ∈ (rastreio c).settling (pedida.programa c) cfg.state) :
        Cuida c cfg.tasks x.2 x.1 := by
      apply law x
      simpa [calls, entering, rastreio] using made
    exact ordem_append (acerta_pedida pedida h.rastreando (Nat.le_refl _) lawful) h.formas
  | step task => exact ordem_step h law

/-- From the start of the bot, in every run whose steps take care, no identifier that was ever
appended is lost: it is in the list of the stored session, its deletion was attempted, or a
cleanup under way is going to attempt it. -/
theorem rastreada_de_cuidadosa (c : Chat) (m : Mundo) (inicio : m.conversas c = {})
    (acoes : List (Action Pedida Deriva))
    (cuidado : (rastreio c).Runs (Cuidadosa c) acoes ⟨⟨m, []⟩, []⟩) :
    let fim := (rastreio c).execute acoes ⟨⟨m, []⟩, []⟩
    Rastreada c fim.tasks fim.state := by
  have start : EmOrdem c ⟨⟨m, []⟩, []⟩ := by
    refine ⟨⟨fun id appended => ?_, fun r stored => ?_, by simp⟩, by simp⟩
    · simp [Rastro.anexadas, inicio] at appended
    · simp [inicio] at stored
  exact (runs_invariant (I := EmOrdem c) (fun _ _ h law => ordem_advance h law) start
    cuidado).rastreando.rastreada

/-- A message is received, and then cleaned up. -/
theorem rastreada_limpeza :
    let fim := (rastreio 1).execute [.arrive (.receber ⟨some 5, [], false⟩), .arrive .limpar,
      .step 1, .step 1, .step 1] ⟨⟨{}, []⟩, []⟩
    Rastreada 1 fim.tasks fim.state :=
  rastreada_de_cuidadosa 1 {} rfl _ ⟨by decide +kernel, by decide +kernel, by decide +kernel,
    by decide +kernel, by decide +kernel, trivial⟩

/-- Identifiers are never lost, whatever the order of the steps. -/
def SempreRastreada (c : Chat) (m : Mundo) : Prop :=
  ∀ acoes : List (Action Pedida Deriva),
    let fim := (rastreio c).execute acoes ⟨⟨m, []⟩, []⟩
    Rastreada c fim.tasks fim.state

def enviadaNaLimpeza : List (Action Pedida Deriva) :=
  [.arrive (.receber ⟨some 5, [], false⟩), .arrive .limpar, .arrive (.enviar "oi"), .step 1,
    .drift ⟨{}, [⟨6, []⟩], []⟩, .step 2, .step 1, .step 1]

theorem not_sempreRastreada : ¬ SempreRastreada 1 {} := by
  intro tracked
  have lost : ¬ Rastreada 1 ((rastreio 1).execute enviadaNaLimpeza ⟨⟨{}, []⟩, []⟩).tasks
      ((rastreio 1).execute enviadaNaLimpeza ⟨⟨{}, []⟩, []⟩).state := by
    decide +kernel
  exact lost (tracked enviadaNaLimpeza)

end Runs

end IceClube
