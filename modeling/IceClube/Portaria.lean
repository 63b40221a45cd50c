import IceClube.DuasSenhas

/-! The walk through `chatbot.js`: every listener keeps the contract of the door, whatever the
state of the session, the data of a button and the text of a message. -/
namespace IceClube

open Coop Prog

variable {R : Regra} {c : Chat} {n r : Nat} {v : Visao} {α β : Type}

/-- The program keeps the contract when it starts in the view `v`. -/
def PassaEm (R : Regra) (c : Chat) (n : Nat) (v : Visao) (f : Fluxo α) : Prop :=
  Meets (porta R c n) f (fun _ _ => True) v

def Passa (R : Regra) (c : Chat) (n : Nat) (f : Fluxo α) : Prop := ∀ v, PassaEm R c n v f

section Regras

theorem passa_pure (a : α) : Passa R c n (pure a : Fluxo α) := fun _ => trivial

theorem passa_fail (e : String) : Passa R c n (fail e : Fluxo α) := fun _ => trivial

theorem passaEm_bind {f : Fluxo α} {g : α → Fluxo β} (first : PassaEm R c n v f)
    (rest : ∀ a, Passa R c n (g a)) : PassaEm R c n v (f >>= g) := by
  rw [PassaEm, meets_bind]
  refine meets_mono first fun answer v' _ => ?_
  cases answer with
  | ok a => exact rest a v'
  | error e => trivial

theorem passa_bind {f : Fluxo α} {g : α → Fluxo β} (first : Passa R c n f)
    (rest : ∀ a, Passa R c n (g a)) : Passa R c n (f >>= g) :=
  fun v => passaEm_bind (first v) rest

theorem passaEm_handle {f : Fluxo α} {h : String → Fluxo α} (body : PassaEm R c n v f)
    (handler : ∀ e, Passa R c n (h e)) : PassaEm R c n v (f.handle h) := by
  rw [PassaEm, meets_handle]
  refine meets_mono body fun answer v' _ => ?_
  cases answer with
  | ok a => trivial
  | error e => exact handler e v'

theorem passa_handle {f : Fluxo α} {h : String → Fluxo α} (body : Passa R c n f)
    (handler : ∀ e, Passa R c n (h e)) : Passa R c n (f.handle h) :=
  fun v => passaEm_handle (body v) handler

theorem passaEm_ite {b : Prop} [Decidable b] {f g : Fluxo α} (sim : b → PassaEm R c n v f)
    (nao : ¬ b → PassaEm R c n v g) : PassaEm R c n v (if b then f else g) := by
  split
  · exact sim ‹_›
  · exact nao ‹_›

theorem passa_ite {b : Prop} [Decidable b] {f g : Fluxo α} (sim : b → Passa R c n f)
    (nao : ¬ b → Passa R c n g) : Passa R c n (if b then f else g) :=
  fun v => passaEm_ite (fun h => sim h v) fun h => nao h v

theorem passa_each {f : β → Fluxo Unit} {xs : List β} (turn : ∀ x, Passa R c n (f x)) :
    Passa R c n (each f xs) := by
  induction xs with
  | nil => exact passa_pure ()
  | cons x xs ih => exact passa_bind (turn x) fun _ => ih

theorem passaEm_certo {o : Ato} {g : o.Res → Fluxo β} {a : o.Res} {v' : Visao}
    (pre : (porta R c n).pre o v)
    (exato : ∀ answer w, (porta R c n).post o v answer w → w = v' ∧ answer = .ok a)
    (rest : PassaEm R c n v' (g a)) : PassaEm R c n v (faz o >>= g) := by
  rw [PassaEm, meets_bind]
  refine (meets_ask ..).mpr ⟨pre, fun answer w post => ?_⟩
  obtain ⟨rfl, rfl⟩ := exato answer w post
  exact rest

theorem minha {o : Ato} (chat : o.chat = some c) :
    o.livre = false → ∀ c', o.chat = some c' → c' = c :=
  fun _ _ here => Option.some.inj (here.symm.trans chat)

theorem naoMexe {q : SqlBot} {P : Prop} (parada : q.mexe = false) : q.mexe = true → P := by
  rw [parada]
  intro wrong
  cases wrong

theorem alheia {o : Ato} (livre : o.livre = true) :
    o.livre = false → ∀ c', o.chat = some c' → c' = c := by
  rw [livre]
  intro wrong
  cases wrong

theorem passaEm_get {g : Option Nat → Fluxo β}
    (rest : (∀ r, v.k.sessao = some r → r < n) → PassaEm R c n v (g v.k.sessao)) :
    PassaEm R c n v (faz (.get c) >>= g) := by
  rw [PassaEm, meets_bind]
  refine (meets_ask ..).mpr ⟨⟨minha rfl, trivial⟩, fun answer w post => ?_⟩
  obtain ⟨rfl, rfl, inside⟩ := post
  exact rest inside

theorem passaEm_novo {inicio : Inicio} {g : Nat → Fluxo β} (pontual : inicio.Pontual v.agora)
    (rest : v.k.proximo < n → PassaEm R c n (v.com (·.cria inicio)) (g v.k.proximo)) :
    PassaEm R c n v (faz (.novo c inicio) >>= g) := by
  rw [PassaEm, meets_bind]
  refine (meets_ask ..).mpr ⟨⟨minha rfl, pontual⟩, fun answer w post => ?_⟩
  obtain ⟨rfl, rfl, inside⟩ := post
  exact rest inside

theorem passaEm_set {g : Unit → Fluxo β} (inside : r < n)
    (rest : PassaEm R c n (v.com (·.guarda r)) (g ())) : PassaEm R c n v (faz (.set c r) >>= g) :=
  passaEm_certo ⟨minha rfl, inside⟩ (fun _ _ post => post) rest

theorem passaEm_delete {saida : Saida} {g : Unit → Fluxo β}
    (rest : PassaEm R c n (v.com (·.apaga saida)) (g ())) :
    PassaEm R c n v (faz (.delete c saida) >>= g) :=
  passaEm_certo ⟨minha rfl, trivial⟩ (fun _ _ post => post) rest

theorem passaEm_ler {g : Sessao → Fluxo β} (rest : PassaEm R c n v (g (v.k.objetos r))) :
    PassaEm R c n v (faz (.ler c r) >>= g) :=
  passaEm_certo ⟨minha rfl, trivial⟩ (fun _ _ post => post) rest

theorem passaEm_atribuir {campos : List Campo} {g : Unit → Fluxo β}
    (licenca : Licenca v.k r campos) (chat : campos.all Campo.doChat = true)
    (pontual : campos.all (Campo.pontual v.agora) = true)
    (rest : PassaEm R c n (v.com (·.atribui r campos)) (g ())) :
    PassaEm R c n v (faz (.atribuir c r campos) >>= g) :=
  passaEm_certo ⟨minha rfl, licenca, .inl chat, pontual⟩ (fun _ _ post => post) rest

theorem passaEm_dateNow {g : Nat → Fluxo β} (rest : PassaEm R c n v (g v.agora)) :
    PassaEm R c n v (faz .dateNow >>= g) :=
  passaEm_certo ⟨alheia rfl, trivial⟩ (fun _ _ post => post) rest

theorem passaEm_botao {data : Texto} {g : Unit → Fluxo β}
    (rest : PassaEm R c n (v.anota (.botao data)) (g ())) :
    PassaEm R c n v (faz (.botao c data) >>= g) :=
  passaEm_certo ⟨minha rfl, trivial⟩ (fun _ _ post => post) rest

theorem passaEm_chama {setor : Setor} {g : Unit → Fluxo β}
    (escolhido : (v.k.objetos r).setor = some setor) (aberta : (v.k.objetos r).autenticado = true)
    (rest : PassaEm R c n (v.anota (.chamou r setor)) (g ())) :
    PassaEm R c n v (faz (.chama c r setor) >>= g) :=
  passaEm_certo ⟨minha rfl, escolhido, aberta⟩ (fun _ _ post => post) rest

theorem passa_chamada {o : Ato} {g : o.Res → Fluxo β} (pre : ∀ v, (porta R c n).pre o v)
    (rest : ∀ a, Passa R c n (g a)) : Passa R c n (faz o >>= g) := by
  intro v
  rw [PassaEm, meets_bind]
  refine (meets_ask ..).mpr ⟨pre v, fun answer w _ => ?_⟩
  cases answer with
  | ok a => exact rest a w
  | error e => trivial

theorem passa_livre {o : Ato} {g : o.Res → Fluxo β} (livre : o.livre = true)
    (rest : ∀ a, Passa R c n (g a)) : Passa R c n (faz o >>= g) := by
  refine passa_chamada (fun v => ⟨alheia livre, ?_⟩) rest
  cases o with
  | set | novo | atribuir | chama | query | commitVenda => simp [Ato.livre] at livre
  | _ => trivial

theorem passa_get {g : Option Nat → Fluxo β}
    (rest : ∀ x, (∀ r, x = some r → r < n) → Passa R c n (g x)) :
    Passa R c n (faz (.get c) >>= g) := fun v => passaEm_get fun inside => rest _ inside v

theorem passaEm_obter {inicio : Inicio} {g : Nat → Fluxo β} (pontual : inicio.Pontual v.agora)
    (rest : ∀ r, r < n → Passa R c n (g r)) : PassaEm R c n v (obter c inicio >>= g) := by
  rw [obter, bind_assoc]
  refine passaEm_get fun inside => ?_
  cases found : v.k.sessao with
  | some r => exact rest r (inside r found) v
  | none => exact passaEm_novo pontual fun inside => rest _ inside _

theorem passa_obter {inicio : Inicio} {g : Nat → Fluxo β} (semData : inicio.data = none)
    (rest : ∀ r, r < n → Passa R c n (g r)) : Passa R c n (obter c inicio >>= g) :=
  fun _ => passaEm_obter (Inicio.pontual_semData semData) rest

theorem passa_ler {g : Sessao → Fluxo β} (rest : ∀ s, Passa R c n (g s)) :
    Passa R c n (faz (.ler c r) >>= g) := fun v => passaEm_ler (rest _ v)

theorem passa_guardado {campos : List Campo} (inside : r < n)
    (todos : campos.all (fun campo => !campo.abre) = true)
    (chat : campos.all Campo.doChat = true)
    (pontual : ∀ agora, campos.all (Campo.pontual agora) = true) :
    Passa R c n (faz (.atribuir c r campos) >>= fun _ => faz (.set c r)) :=
  fun _ => passaEm_atribuir (licenca_fechada todos) chat (pontual _)
    ((meets_ask ..).mpr ⟨⟨minha rfl, inside⟩, fun _ _ _ => trivial⟩)

theorem passaEm_guardar {campos : List Campo} {g : Unit → Fluxo β} (inside : r < n)
    (todos : campos.all (fun campo => !campo.abre) = true)
    (chat : campos.all Campo.doChat = true)
    (pontual : campos.all (Campo.pontual v.agora) = true) (rest : Passa R c n (g ())) :
    PassaEm R c n v (faz (.atribuir c r campos) >>= fun _ => faz (.set c r) >>= g) :=
  passaEm_atribuir (licenca_fechada todos) chat pontual (passaEm_set inside (rest _))

end Regras

section Setores

/-- The courier's panel. Until the session is deleted the map holds the object it began with,
which opens what it opened; afterwards nothing is written. -/
def painelDe (R : Regra) (n : Nat) : Uso (Option (Nat × Sessao.Acesso)) where
  bom
    | some p, r => r = p.1
    | none, r => r < n
  vazia p := p = none
  viu p s := ∀ x, p = some x → s.acesso = x.2
  grava p q := match p with
    | some x => R.escreve (some x.2) q
    | none => ∀ a, R.escreve a q

/-- What a panel of the view `u` knows of the conversation. -/
def Acompanha (n : Nat) (u : Option (Nat × Sessao.Acesso) × Option Sessao) (v : Visao) : Prop :=
  (∀ x, u.1 = some x → x.1 < n ∧ v.k.sessao = some x.1 ∧ (v.k.objetos x.1).acesso = x.2) ∧
    ∀ s, u.2 = some s → ∃ x, u.1 = some x ∧ v.k.objetos x.1 = s

theorem abre_doPainel {campo : Campo} (doPainel : campo.doPainel = true) : campo.abre = false := by
  cases campo <;> first | rfl | cases doPainel

theorem inocuo_doPainel {campo : Campo} (doPainel : campo.doPainel = true) :
    campo.inocuo = true := by
  cases campo <;> first | rfl | cases doPainel

theorem mexe_neutra {q : SqlBot} (neutra : q.neutra = true) : q.mexe = false := by
  cases q <;> first | rfl | cases neutra

theorem post_query {q : SqlBot} {v v' : Visao} {answer : Except String q.Res}
    (post : (porta R c n).post (.query c q) v answer v') :
    v'.agora = v.agora ∧ (v'.k = v.k ∨ ∃ fato, v'.k = v.k.anota [fato]) := by
  cases q with
  | selectSetor | selectUsuario => exact post.1 ▸ ⟨rfl, .inl rfl⟩
  | insertUsuario =>
    obtain ⟨usuario, rfl⟩ := post
    exact ⟨rfl, .inl rfl⟩
  | selectLogin | updateSenha =>
    rcases post with ⟨rfl, -⟩ | rfl
    · exact ⟨rfl, .inl rfl⟩
    · exact ⟨rfl, .inr ⟨_, rfl⟩⟩
  | _ => exact post ▸ ⟨rfl, .inl rfl⟩

theorem post_neutra {q : SqlBot} {v v' : Visao} {answer : Except String q.Res}
    (neutra : q.neutra = true) (post : (porta R c n).post (.query c q) v answer v') :
    v'.k = v.k ∧ v'.agora = v.agora := by
  cases q with
  | selectSetor | selectUsuario => exact post.1 ▸ ⟨rfl, rfl⟩
  | insertUsuario =>
    obtain ⟨usuario, rfl⟩ := post
    exact ⟨rfl, rfl⟩
  | selectLogin | updateSenha => cases neutra
  | _ => exact post ▸ ⟨rfl, rfl⟩

namespace Acompanha

variable {u : Option (Nat × Sessao.Acesso) × Option Sessao} {w : Visao}

theorem esquecida (w : Visao) : Acompanha n (none, none) w :=
  ⟨fun x known => (by cases known), fun s known => by cases known⟩

theorem igual (h : Acompanha n u v) (sessao : w.k.sessao = v.k.sessao)
    (objetos : w.k.objetos = v.k.objetos) : Acompanha n u w := by
  obtain ⟨mapa, lida⟩ := h
  refine ⟨fun x known => ?_, fun s known => ?_⟩
  · rw [sessao, objetos]
    exact mapa x known
  · rw [objetos]
    exact lida s known

theorem guarda (h : Acompanha n u v) (bom : (painelDe R n).bom u.1 r) :
    Acompanha n u (v.com (·.guarda r)) := by
  refine ⟨fun x known => ?_, h.2⟩
  rw [known] at bom
  obtain ⟨inside, -, acesso⟩ := h.1 x known
  exact ⟨inside, congrArg some bom, acesso⟩

theorem atribui {campos : List Campo} (h : Acompanha n u v)
    (todos : ∀ campo ∈ campos, campo.doPainel = true) :
    Acompanha n (u.1, none) (v.com (·.atribui r campos)) := by
  refine ⟨fun x known => ?_, fun s known => by cases known⟩
  obtain ⟨inside, stored, acesso⟩ := h.1 x known
  refine ⟨inside, stored, ?_⟩
  have inocuos : campos.all Campo.inocuo = true :=
    List.all_eq_true.mpr fun campo member => inocuo_doPainel (todos campo member)
  rw [← acesso, Visao.k_com]
  by_cases same : x.1 = r
  · rw [same, Conversa.objetos_atribui, acesso_atribuirTodos inocuos]
  · rw [Conversa.objetos_atribui_ne _ _ _ same]

theorem dentro (h : Acompanha n u v) (bom : (painelDe R n).bom u.1 r) : r < n := by
  cases known : u.1 with
  | none =>
    rw [known] at bom
    exact bom
  | some x =>
    rw [known] at bom
    exact bom ▸ (h.1 x known).1

theorem escreve (h : Acompanha n u v) {q : SqlBot}
    (pre : q.neutra = true ∨ (painelDe R n).grava u.1 q) (mexe : q.mexe = true) :
    R.escreve (v.k.atual.map Sessao.acesso) q := by
  rcases pre with neutra | grava
  · rw [mexe_neutra neutra] at mexe
    cases mexe
  cases known : u.1 with
  | none =>
    rw [known] at grava
    exact grava _
  | some x =>
    rw [known] at grava
    obtain ⟨-, stored, acesso⟩ := h.1 x known
    rw [Conversa.atual, stored, Option.map_some, Option.map_some, acesso]
    exact grava

end Acompanha

theorem passa_entrega {u : Option (Nat × Sessao.Acesso) × Option Sessao} {f : Fluxo α}
    (acompanha : Acompanha n u v) (respeita : Respeita (painelDe R n) c u f) :
    PassaEm R c n v f := by
  have follows (o : Ato) (u : Option (Nat × Sessao.Acesso) × Option Sessao) (v : Visao)
      (h : Acompanha n u v) (pre : ((painelDe R n).contrato c).pre o u) :
      (porta R c n).pre o v ∧ ∀ answer v', (porta R c n).post o v answer v' →
        ∃ u', ((painelDe R n).contrato c).post o u answer u' ∧ Acompanha n u' v' := by
    cases o with
    | get c' =>
      obtain rfl := pre
      refine ⟨⟨minha rfl, trivial⟩, fun answer v' post => ⟨u, ⟨rfl, ?_⟩, post.1 ▸ h⟩⟩
      obtain ⟨rfl, rfl, inside⟩ := post
      cases found : v'.k.sessao with
      | none =>
        refine Option.eq_none_iff_forall_ne_some.mpr fun x known => ?_
        rw [(h.1 x known).2.1] at found
        cases found
      | some r =>
        cases known : u.1 with
        | none => exact inside r found
        | some x => exact Option.some.inj (found.symm.trans (h.1 x known).2.1)
    | set c' r =>
      obtain ⟨rfl, bom⟩ := pre
      refine ⟨⟨minha rfl, h.dentro bom⟩, fun _ v' post => ⟨u, rfl, ?_⟩⟩
      obtain ⟨rfl, -⟩ := post
      exact h.guarda bom
    | delete c' saida =>
      obtain ⟨rfl, -⟩ := pre
      exact ⟨⟨minha rfl, trivial⟩, fun _ v' _ => ⟨_, trivial, Acompanha.esquecida v'⟩⟩
    | novo c' inicio =>
      obtain ⟨rfl, vazia, semData⟩ := pre
      refine ⟨⟨minha rfl, Inicio.pontual_semData semData⟩, fun answer v' post =>
        ⟨(none, none), ⟨by rw [vazia], fun r made => ?_⟩, Acompanha.esquecida v'⟩⟩
      obtain ⟨rfl, rfl, inside⟩ := post
      rw [vazia]
      exact Except.ok.inj made ▸ inside
    | ler c' r =>
      obtain ⟨rfl, bom⟩ := pre
      refine ⟨⟨minha rfl, trivial⟩, fun answer v' post => ⟨u, ⟨rfl, fun s read => ?_⟩, post.1 ▸ h⟩⟩
      obtain ⟨rfl, rfl⟩ := post
      cases Except.ok.inj read
      refine ⟨fun x known => ?_, fun s' known => ?_⟩
      · rw [known] at bom
        exact bom ▸ (h.1 x known).2.2
      · obtain ⟨x, here, same⟩ := h.2 s' known
        rw [here] at bom
        exact bom ▸ same
    | atribuir c' r campos =>
      obtain ⟨rfl, -, todos⟩ := pre
      have fechados : campos.all (fun campo => !campo.abre) = true :=
        List.all_eq_true.mpr fun campo member => by simp [abre_doPainel (todos campo member)]
      have pontuais : campos.all (Campo.pontual v.agora) = true :=
        List.all_eq_true.mpr fun campo member => pontual_doPainel (todos campo member)
      have painel : R.Atribui (v.k.objetos r) campos := .inr (.inl (List.all_eq_true.mpr todos))
      refine ⟨⟨minha rfl, licenca_fechada fechados, painel, pontuais⟩,
        fun _ v' post => ⟨(u.1, none), rfl, ?_⟩⟩
      obtain ⟨rfl, -⟩ := post
      exact h.atribui todos
    | query c' q =>
      obtain ⟨rfl, allowed⟩ := pre
      refine ⟨⟨minha rfl, h.escreve allowed⟩, fun _ v' post => ⟨u, rfl, ?_⟩⟩
      rcases (post_query post).2 with same | ⟨fato, same⟩
      · exact h.igual (by rw [same]) (by rw [same])
      · exact h.igual (by rw [same, Conversa.sessao_anota]) (by rw [same, Conversa.objetos_anota])
    | dateNow => exact ⟨⟨alheia rfl, trivial⟩, fun _ v' post => ⟨u, rfl, post.1 ▸ h⟩⟩
    | botao | chama | compare | getConnection | beginTransaction | call | selectVendasRecentes
    | updateComprovante | commitVenda | rollbackVenda => cases pre
    | _ => exact ⟨⟨alheia rfl, trivial⟩, fun _ v' same => ⟨u, rfl, same ▸ h⟩⟩
  exact meets_mono (meets_simulate follows respeita acompanha) fun _ _ _ => trivial

structure Atende (r agora : Nat) (u : Sessao × List Fato) (w : Visao) : Prop where
  sessao : u.1 = w.k.objetos r
  agora : w.agora = agora
  feitas : Fizeram u.2 w.k.historia

theorem fizeram_nada {historia : List Fato} (topo : ∀ fato ∈ historia.head?, fato.registro = false) :
    Fizeram [] historia :=
  ⟨by simp, historia, rfl, topo⟩

theorem Fizeram.mais {feitas historia : List Fato} (h : Fizeram feitas historia) {fato : Fato}
    (registro : fato.registro = true) : Fizeram (fato :: feitas) ([fato] ++ historia) := by
  obtain ⟨todas, antes, rfl, topo⟩ := h
  exact ⟨List.forall_mem_cons.mpr ⟨registro, todas⟩, antes, rfl, topo⟩

theorem passa_vendas {u : Sessao × List Fato} {f : Fluxo α} (atende : Atende r v.agora u v)
    (vende : VendeEm R.toBalcao c r v.agora u f) : PassaEm R c n v f := by
  have follows (o : Ato) (u : Sessao × List Fato) (w : Visao) (h : Atende r v.agora u w)
      (pre : (R.toBalcao.contrato c r v.agora).pre o u) : (porta R c n).pre o w ∧
        ∀ answer w', (porta R c n).post o w answer w' →
          ∃ u', (R.toBalcao.contrato c r v.agora).post o u answer u' ∧ Atende r v.agora u' w' := by
    cases o with
    | ler c' r' =>
      obtain ⟨rfl, rfl⟩ := pre
      refine ⟨⟨minha rfl, trivial⟩, fun answer w' post => ?_⟩
      obtain ⟨rfl, rfl⟩ := post
      exact ⟨u, ⟨rfl, fun s seen => (Except.ok.inj seen).symm.trans h.sessao.symm⟩, h⟩
    | atribuir c' r' campos =>
      obtain ⟨rfl, rfl, algum, pontual, admite⟩ := pre
      have regra : R.Atribui (w.k.objetos r') campos := .inr (.inr (h.sessao ▸ admite))
      have pontual' : campos.all (Campo.pontual w.agora) = true := h.agora ▸ pontual
      refine ⟨⟨minha rfl, licenca_fechada (R.fechada _ _ admite), regra, pontual'⟩,
        fun answer w' post => ?_⟩
      obtain ⟨rfl, -⟩ := post
      refine ⟨_, rfl, ?_, h.agora, fizeram_nada fun fato newest => ?_⟩
      · rw [Visao.k_com, Conversa.objetos_atribui, h.sessao]
      · obtain ⟨campo, last⟩ := List.getLast?_isSome.mpr algum |> Option.isSome_iff_exists.mp
        simp [Conversa.atribui, List.head?_append, last] at newest
        rw [← newest]
        rfl
    | dateNow =>
      refine ⟨⟨alheia rfl, trivial⟩, fun answer w' post => ?_⟩
      obtain ⟨rfl, rfl⟩ := post
      exact ⟨u, ⟨rfl, fun t seen => (Except.ok.inj seen).symm.trans h.agora⟩, h⟩
    | query c' q =>
      obtain ⟨rfl, neutra⟩ := pre
      refine ⟨⟨minha rfl, naoMexe (mexe_neutra neutra)⟩, fun answer w' post => ⟨u, rfl, ?_⟩⟩
      have same := post_neutra neutra post
      exact ⟨same.1 ▸ h.sessao, same.2.trans h.agora, same.1 ▸ h.feitas⟩
    | call c' chamada =>
      obtain rfl := pre
      refine ⟨⟨minha rfl, trivial⟩, fun _ w' post => ?_⟩
      rcases post with rfl | rfl
      · exact ⟨u, .inl rfl, h⟩
      · exact ⟨_, .inr rfl, h.sessao, h.agora, h.feitas.mais rfl⟩
    | updateComprovante c' imagem id =>
      obtain rfl := pre
      refine ⟨⟨minha rfl, trivial⟩, fun _ w' post => ?_⟩
      rcases post with rfl | rfl
      · exact ⟨u, .inl rfl, h⟩
      · exact ⟨_, .inr rfl, h.sessao, h.agora, h.feitas.mais rfl⟩
    | commitVenda c' r' =>
      obtain ⟨rfl, rfl, confirma⟩ := pre
      refine ⟨⟨minha rfl, u.2, h.feitas, h.sessao ▸ confirma⟩, fun _ w' post => ?_⟩
      rcases post with rfl | rfl
      · exact ⟨u, rfl, h⟩
      · exact ⟨(u.1, []), rfl, h.sessao, h.agora, fizeram_nada fun fato newest => by
          cases newest
          rfl⟩
    | getConnection | beginTransaction | selectVendasRecentes | rollbackVenda =>
      refine ⟨⟨fun _ c' here => (by cases here), trivial⟩, fun answer w' post => ?_⟩
      obtain rfl := post
      exact ⟨u, rfl, h⟩
    | get | set | delete | novo | botao | chama | compare => cases pre
    | _ =>
      refine ⟨⟨alheia rfl, trivial⟩, fun answer w' post => ?_⟩
      obtain rfl := post
      exact ⟨u, rfl, h⟩
  exact meets_mono (meets_simulate follows vende atende) fun _ _ _ => trivial

end Setores

theorem passa_consulta {q : SqlBot} {g : q.Res → Fluxo β} (parada : q.mexe = false)
    (rest : ∀ a, Passa R c n (g a)) : Passa R c n (consulta c q >>= g) :=
  passa_chamada (o := .query c q) (fun _ => ⟨minha rfl, naoMexe parada⟩) rest

section Mensagens

theorem passa_enviarMensagem (mensagem : String) : Passa R c n (enviarMensagem c mensagem) :=
  passa_handle (passa_livre rfl fun _ => passa_obter rfl fun _ inside =>
    passa_guardado inside rfl rfl fun _ => rfl) fun _ => passa_pure ()

/-- With a session in the map, a message is remembered there or nothing happens. -/
theorem enviarMensagem_exata (stored : v.k.sessao = some r) (mensagem : String) :
    Meets (porta R c n) (enviarMensagem c mensagem) (fun _ v' => v' = v ∨
      ∃ id, v' = (v.com (·.atribui r [.pushMessageId id])).com (·.guarda r)) v := by
  rw [enviarMensagem, meets_handle, meets_bind]
  refine (meets_ask ..).mpr ⟨⟨alheia rfl, trivial⟩, fun answer w same => ?_⟩
  cases same
  cases answer with
  | error e => exact .inl rfl
  | ok id =>
    rw [then_ok, obter, bind_assoc, meets_bind]
    refine (meets_ask ..).mpr ⟨⟨minha rfl, trivial⟩, fun answer w post => ?_⟩
    obtain ⟨rfl, rfl, inside⟩ := post
    rw [then_ok, stored]
    have lembra : (porta R c n).pre (.atribuir c r [.pushMessageId id]) w :=
      ⟨minha rfl, licenca_fechada rfl, .inl rfl, rfl⟩
    change Meets (porta R c n) (faz (.atribuir c r [.pushMessageId id]) >>= fun _ => faz (.set c r))
      _ w
    rw [meets_bind]
    refine (meets_ask ..).mpr ⟨lembra, fun answer w post => ?_⟩
    obtain ⟨rfl, rfl⟩ := post
    refine (meets_ask ..).mpr ⟨⟨minha rfl, inside r stored⟩, fun answer w post => ?_⟩
    obtain ⟨rfl, rfl⟩ := post
    exact .inr ⟨id, rfl⟩

theorem passa_enviarMenuSetores (cargo : Option Cargo) :
    Passa R c n (enviarMenuSetores c cargo) := by
  unfold enviarMenuSetores
  split
  · exact passa_enviarMensagem _
  · exact passa_enviarMensagem _
  · exact passa_enviarMensagem _
  · exact passa_enviarMensagem _
  · exact passa_pure ()

theorem passa_solicitarNumero : Passa R c n (solicitarNumeroTelefone c) :=
  passa_handle (passa_livre rfl fun _ => passa_pure ()) fun _ => passa_enviarMensagem _

theorem passa_limparChat : Passa R c n (limparChat c) := by
  have apagar (id : Nat) : Passa R c n (apagarMensagem c id) :=
    passa_bind (passa_handle
      (fun _ => (meets_ask ..).mpr ⟨⟨alheia rfl, trivial⟩, fun _ _ _ => trivial⟩)
      fun _ => passa_pure ()) fun _ _ =>
        (meets_ask ..).mpr ⟨⟨alheia rfl, trivial⟩, fun _ _ _ => trivial⟩
  have permissoes : Passa R c n (verificarPermissoes c) :=
    passa_handle (fun _ => (meets_ask ..).mpr ⟨⟨alheia rfl, trivial⟩, fun _ _ _ => trivial⟩)
      fun _ => passa_pure false
  refine passa_get fun x _ => ?_
  cases x with
  | none => exact passa_pure ()
  | some r =>
    refine passa_ler fun _ => passa_ite (fun _ => passa_pure ()) fun _ =>
      passa_handle (passa_obter rfl fun r inside => ?_) fun _ => passa_pure ()
    exact passa_bind permissoes fun _ => passa_ler fun _ => passa_bind (passa_each apagar) fun _ =>
      passa_guardado inside rfl rfl fun _ => rfl

theorem passa_contato (phoneNumber : String) : Passa R c n (contato c phoneNumber) := by
  refine passa_ite (fun _ => passa_enviarMensagem _) fun _ v => passaEm_dateNow <|
    passaEm_obter (fun _ => rfl) fun r inside =>
      passa_handle (passa_consulta rfl fun usuario => ?_) fun _ => passa_enviarMensagem _
  cases usuario with
  | none => exact passa_enviarMensagem _
  | some usuario =>
    exact passa_ite (fun _ => passa_enviarMensagem _) fun _ => passa_consulta rfl fun _ v =>
      passaEm_dateNow (passaEm_guardar inside rfl rfl (by simp [Campo.pontual])
        (passa_enviarMensagem _))

theorem passa_novoUsuario (inside : r < n) (m : Mensagem) : Passa R c n (novoUsuario c r m) := by
  refine passa_ite (fun _ => passa_enviarMensagem _) fun _ =>
    passa_handle (passa_consulta rfl fun usuario => ?_) fun _ =>
      passa_ite (fun _ => passa_enviarMensagem _) fun _ => passa_enviarMensagem _
  cases usuario with
  | some usuario => exact fun v => passaEm_guardar inside rfl rfl rfl passa_solicitarNumero
  | none =>
    exact passa_consulta rfl fun _ => passa_bind (fun v => passaEm_dateNow
      (passaEm_guardar inside rfl rfl (by simp [Campo.pontual]) passa_solicitarNumero))
        fun _ => passa_enviarMensagem _

end Mensagens

def Sessao.Acesso.Entrou (a : Sessao.Acesso) (agora : Nat) : Prop :=
  a.setor = some .entrega ∧ a.autenticado = true ∧ a.data = some (dia agora)

structure Recebe (R : Regra) (m : Mensagem) (agora : Nat) (usuario : Option Nat) (s : Sessao) :
    Prop where
  painel : s.setor = some .entrega → ∀ a : Sessao.Acesso, a.Entrou agora → a.usuarioId = usuario →
    ∀ q, SqlBot.DoUsuario usuario q → R.escreve (some a) q
  editar : s.setor = some .entrega → s.etapa = some .editarEnderecoTexto → m.text ≠ [] →
    ∀ a : Sessao.Acesso, a.Entrou agora → a.usuarioId = usuario →
      ∀ q, SqlBot.DaEntrega s.pedidoId q → R.escreve (some a) q
  sair : s.setor = some .vendas → Texto.toLowerCase m.text = "sair".toList →
    ∀ s', s'.trabalho = s.trabalho → R.admite s' (deixarSetor ++ [.lastUpdated agora])

structure Aperta (R : Regra) (data : Texto) (agora : Nat) (s : Sessao) : Prop where
  painel : s.acesso.Entrou agora → ∀ q, SqlBot.DoUsuario s.usuarioId q →
    R.escreve (some s.acesso) q
  motivo : s.acesso.Entrou agora →
    gravaSessao { texto := Texto.trim data, data := some data } s = true →
      ∀ q, SqlBot.DaEntrega s.pedidoId q → R.escreve (some s.acesso) q
  venda : s.setor = some .vendas → s.autenticado = true → R.toBalcao.Aceita s data agora

section Entrada

theorem passaEm_callbackEntrega {data : Option Texto} (limite : ∀ r, v.k.sessao = some r → r < n)
    (alvo : ∀ t, data = some t → ∀ id, AlvoDoBotao t id → ∀ q, SqlBot.DaEntrega id q →
      ∀ a, (∀ s, v.k.atual = some s → a = some s.acesso) → R.escreve a q) :
    PassaEm R c n v (callbackEntrega c data) := by
  cases stored : v.k.sessao with
  | none =>
    have ausente : v.k.atual = none := by rw [Conversa.atual, stored, Option.map_none]
    refine passa_entrega (Acompanha.esquecida v)
      (usa_callbackEntrega (fun t botao id mira q da a => ?_) none).respeita
    refine alvo t botao id mira q da a fun s found => ?_
    rw [ausente] at found
    cases found
  | some r =>
    have achada : v.k.atual = some (v.k.objetos r) := by rw [Conversa.atual, stored, Option.map_some]
    have acompanha : Acompanha n (some (r, (v.k.objetos r).acesso), none) v := by
      refine ⟨fun x known => ?_, fun s known => by cases known⟩
      cases known
      exact ⟨limite r stored, stored, rfl⟩
    refine passa_entrega acompanha (usa_callbackEntrega (fun t botao id mira q da => ?_) none).respeita
    refine alvo t botao id mira q da _ fun s found => ?_
    rw [← Option.some.inj (achada.symm.trans found)]

theorem passaEm_tratarEntrega {e : Entrada} (inside : r < n) (stored : v.k.sessao = some r)
    (usuario : ∀ q, SqlBot.DoUsuario (v.k.objetos r).usuarioId q →
      R.escreve (some (v.k.objetos r).acesso) q)
    (alvo : gravaSessao e (v.k.objetos r) = true → ∀ q,
      SqlBot.DaEntrega (v.k.objetos r).pedidoId q → R.escreve (some (v.k.objetos r).acesso) q) :
    PassaEm R c n v (tratarEntrega c (enviarMensagem c) r e) := by
  have acompanha :
      Acompanha n (some (r, (v.k.objetos r).acesso), some (v.k.objetos r)) v := by
    refine ⟨fun x known => ?_, fun s known => ?_⟩
    · cases known
      exact ⟨inside, stored, rfl⟩
    · cases known
      exact ⟨_, rfl, rfl⟩
  refine passa_entrega acompanha (respeita_tratarEntrega (fun _ _ => usa_enviarMensagem _) rfl
    (fun s viu q doUsuario => ?_) fun s viu same grava q da => ?_)
  · have same : s.usuarioId = (v.k.objetos r).usuarioId :=
      congrArg Sessao.Acesso.usuarioId (viu _ rfl)
    exact usuario q (same ▸ doUsuario)
  · cases same _ rfl
    exact alvo grava q da

variable (topo : ∀ fato ∈ v.k.historia.head?, fato.registro = false)
include topo

theorem passaEm_handleSales {texto : Texto} (foto : Bool)
    (atualizada : (v.k.objetos r).lastUpdated = some v.agora)
    (sair : Texto.toLowerCase texto = "sair".toList →
      R.admite (v.k.objetos r) (deixarSetor ++ [.lastUpdated v.agora])) :
    PassaEm R c n v (handleSales c r texto foto) := by
  refine passa_vendas ⟨rfl, rfl, fizeram_nada topo⟩
    (vendeEm_handleSales R.livre (fun expirada => ?_) sair)
  simp [vendaExpirada, atualizada] at expirada

theorem passaEm_handleCallbacks {data : Texto}
    (aceita : R.toBalcao.Aceita (v.k.objetos r) data v.agora) :
    PassaEm R c n v (handleCallbacks c r data) :=
  passa_vendas ⟨rfl, rfl, fizeram_nada topo⟩ (vendeEm_handleCallbacks R.livre aceita)

end Entrada

structure NoDia (R : Regra) (m : Mensagem) (v : Visao) (r : Nat) : Prop where
  guardada : v.k.sessao = some r
  data : (v.k.objetos r).data = some (dia v.agora)
  atualizada : (v.k.objetos r).lastUpdated = some v.agora
  recebe : Recebe R m v.agora v.usuario (v.k.objetos r)

theorem Recebe.igual {m : Mensagem} {agora : Nat} {usuario : Option Nat} {s s' : Sessao}
    (h : Recebe R m agora usuario s) (setor : s'.setor = s.setor)
    (trabalho : s'.trabalho = s.trabalho) : Recebe R m agora usuario s' := by
  have mesmo {α : Type} (campo : Sessao → α) : campo s'.trabalho = campo s.trabalho :=
    congrArg campo trabalho
  have etapa : s'.etapa = s.etapa := mesmo Sessao.etapa
  have pedidoId : s'.pedidoId = s.pedidoId := mesmo Sessao.pedidoId
  refine ⟨fun here => ?_, fun here => ?_, fun here comando x same => ?_⟩
  · exact h.painel (setor ▸ here)
  · rw [etapa, pedidoId]
    exact h.editar (setor ▸ here)
  · exact h.sair (setor ▸ here) comando x (same.trans trabalho)

namespace NoDia

variable {m : Mensagem}

theorem atribui {campos : List Campo} (h : NoDia R m v r) (chat : campos.all Campo.doChat = true)
    (setor : ((v.k.objetos r).atribuirTodos campos).setor = (v.k.objetos r).setor)
    (tempo : ((v.k.objetos r).atribuirTodos campos).lastUpdated = some v.agora) :
    NoDia R m (v.com (·.atribui r campos)) r := by
  have depois : ((v.com (·.atribui r campos)).k.objetos r) =
      (v.k.objetos r).atribuirTodos campos := Conversa.objetos_atribui ..
  refine ⟨h.guardada, ?_, ?_, ?_⟩ <;> rw [depois]
  · exact (data_atribuirTodos ..).trans h.data
  · exact tempo
  · exact h.recebe.igual setor (trabalho_atribuirTodos chat _)

theorem guarda (h : NoDia R m v r) : NoDia R m (v.com (·.guarda r)) r :=
  ⟨rfl, h.data, h.atualizada, h.recebe⟩

theorem anota (h : NoDia R m v r) (fato : Fato) : NoDia R m (v.anota fato) r :=
  ⟨h.guardada, h.data, h.atualizada, h.recebe⟩

end NoDia

section Login

variable (inside : r < n) (m : Mensagem)
include inside

omit inside in
theorem enviarMensagem_aberta (noDia : NoDia R m v r) (mensagem : String) :
    Meets (porta R c n) (enviarMensagem c mensagem) (fun _ v' => NoDia R m v' r ∧
      (v'.k.objetos r).acesso = (v.k.objetos r).acesso ∧ v'.usuario = v.usuario) v := by
  refine meets_mono (enviarMensagem_exata noDia.guardada mensagem) fun answer v' sent => ?_
  rcases sent with rfl | ⟨id, rfl⟩
  · exact ⟨noDia, rfl, rfl⟩
  · have lembrada : NoDia R m (v.com (·.atribui r [.pushMessageId id])) r :=
      noDia.atribui rfl rfl noDia.atualizada
    refine ⟨lembrada.guarda, ?_, rfl⟩
    rw [Visao.k_com, Conversa.objetos_guarda, Visao.k_com, Conversa.objetos_atribui]
    rfl

omit inside in
theorem gravaSessao_texto {texto : Texto} {s : Sessao}
    (grava : gravaSessao (entradaDeTexto texto m) s = true) :
    s.etapa = some .editarEnderecoTexto ∧ m.text ≠ [] := by
  unfold gravaSessao at grava
  split at grava
  next => cases grava
  next etapa => exact ⟨etapa, by simpa [entradaDeTexto] using grava⟩
  next => cases grava

theorem passaEm_painelDeTexto (noDia : NoDia R m v r) (texto : Texto)
    (usuario : (v.k.objetos r).usuarioId = v.usuario)
    (escolhido : (v.k.objetos r).setor = some .entrega)
    (aberta : (v.k.objetos r).autenticado = true) :
    PassaEm R c n v (tratarEntrega c (enviarMensagem c) r (entradaDeTexto texto m)) := by
  have entrou : (v.k.objetos r).acesso.Entrou v.agora := ⟨escolhido, aberta, noDia.data⟩
  refine passaEm_tratarEntrega inside noDia.guardada (fun q doUsuario => ?_) fun grava q da => ?_
  · exact noDia.recebe.painel escolhido _ entrou usuario q (usuario ▸ doUsuario)
  · obtain ⟨etapa, algum⟩ := gravaSessao_texto m grava
    exact noDia.recebe.editar escolhido etapa algum _ entrou usuario q da

theorem passaEm_definirSenha (stored : v.k.sessao = some r)
    (awaited : (v.k.objetos r).cadastroEstado = some .aguardandoSenha) :
    PassaEm R c n v (definirSenha c r m) := by
  refine passaEm_ite (fun _ => passa_enviarMensagem _ v) fun _ =>
    passaEm_handle ?_ fun _ => passa_enviarMensagem _
  rw [PassaEm, meets_bind]
  refine (meets_ask ..).mpr ⟨⟨minha rfl, naoMexe rfl⟩, fun answer w post => ?_⟩
  cases answer with
  | error e => trivial
  | ok _ =>
    obtain rfl := post.resolve_left fun h => h.2 rfl
    have estado : v.k.atual.bind (·.cadastroEstado) = some .aguardandoSenha := by
      rw [Conversa.atual, stored]
      exact awaited
    refine passaEm_dateNow (passaEm_atribuir (.comum fun campo member => ?_) rfl
      (by simp [Campo.pontual]) (passaEm_set inside (passa_ler (fun _ => passa_enviarMenuSetores _) _)))
    rcases List.mem_cons.mp member with rfl | member
    · refine .inr ?_
      rw [estado]
      rfl
    · exact permite_fechados rfl member

theorem passaEm_verificarSenha (criada : .criou r ∈ v.k.historia) :
    PassaEm R c n v (verificarSenha c r m) := by
  refine passaEm_ite (fun _ => passa_enviarMensagem _ v) fun _ =>
    passaEm_handle ?_ fun _ => passa_enviarMensagem _
  rw [PassaEm, meets_bind]
  refine (meets_ask ..).mpr ⟨⟨minha rfl, naoMexe rfl⟩, fun answer w post => ?_⟩
  cases answer with
  | error e => trivial
  | ok usuario =>
    cases usuario with
    | none => exact passa_enviarMensagem _ w
    | some usuario =>
      obtain rfl := post.resolve_left fun h => h.2 usuario rfl
      refine passaEm_dateNow (passaEm_atribuir (.comum fun campo member => ?_) rfl
        (by simp [Campo.pontual]) (passaEm_set inside (passa_enviarMensagem _ _)))
      rcases List.mem_cons.mp member with rfl | member
      · exact .inl rfl
      rcases List.mem_cons.mp member with rfl | member
      · exact List.mem_cons_of_mem _ criada
      · exact permite_fechados rfl member

theorem passaEm_abrirSetor {setor : Setor} (noDia : NoDia R m v r)
    (usuario : (v.k.objetos r).usuarioId = v.usuario)
    (logado : (v.k.objetos r).logado = true) (escolhido : (v.k.objetos r).setor = some setor)
    (senha : v.k.historia.head? = some (.senhaSetor setor)) :
    PassaEm R c n v (abrirSetor c r m) := by
  have licenca : Licenca v.k r [.autenticado true, .lastUpdated v.agora] := by
    refine .comum fun campo member => ?_
    rcases List.mem_cons.mp member with rfl | member
    · exact ⟨logado, setor, escolhido, senha⟩
    · exact permite_fechados rfl member
  refine passaEm_dateNow (passaEm_atribuir licenca rfl (by simp [Campo.pontual])
    (passaEm_set inside (passaEm_ler ?_)))
  -- the object of the map is open for the sector, and stays so while the message is sent
  let w := (v.com (·.atribui r [.autenticado true, .lastUpdated v.agora])).com (·.guarda r)
  have aberto : w.k.objetos r =
      (v.k.objetos r).atribuirTodos [.autenticado true, .lastUpdated v.agora] :=
    Conversa.objetos_atribui ..
  have noDia' : NoDia R m w r := (noDia.atribui rfl rfl rfl).guarda
  change PassaEm R c n w _
  split
  next => exact passa_fail _ w
  next => exact passa_enviarMensagem _ w
  next entrega =>
    refine (meets_bind ..).mpr (meets_mono (enviarMensagem_aberta m noDia' _)
      fun answer w' sent => ?_)
    obtain ⟨noDia', acesso, mesmo⟩ := sent
    have escolhido' : (w'.k.objetos r).setor = some .entrega :=
      (congrArg Sessao.Acesso.setor acesso).trans entrega
    have aberta : (w'.k.objetos r).autenticado = true :=
      (congrArg Sessao.Acesso.autenticado acesso).trans (by rw [aberto]; rfl)
    have usuario' : (w'.k.objetos r).usuarioId = w'.usuario := by
      rw [mesmo]
      exact (congrArg Sessao.Acesso.usuarioId acesso).trans (by rw [aberto]; exact usuario)
    cases answer with
    | error e => trivial
    | ok _ =>
      exact passaEm_chama escolhido' aberta
        (passaEm_painelDeTexto inside m (noDia'.anota _) _ usuario' escolhido' aberta)

theorem passaEm_autenticarSetor {setor : Setor} (noDia : NoDia R m v r)
    (usuario : (v.k.objetos r).usuarioId = v.usuario)
    (logado : (v.k.objetos r).logado = true) (escolhido : (v.k.objetos r).setor = some setor) :
    PassaEm R c n v (autenticarSetor c r setor m) := by
  refine passaEm_ite (fun _ => passa_enviarMensagem _ v) fun _ =>
    passaEm_handle ?_ fun _ => passa_enviarMensagem _
  rw [PassaEm, meets_bind]
  refine (meets_ask ..).mpr ⟨⟨minha rfl, naoMexe rfl⟩, fun answer w post => ?_⟩
  obtain ⟨rfl, known⟩ := post
  cases answer with
  | error e => trivial
  | ok senha =>
    cases senha with
    | none => exact passa_enviarMensagem _ _
    | some hash =>
      have known := known (some hash) rfl
      refine (meets_bind ..).mpr ((meets_ask ..).mpr
        ⟨⟨minha rfl, trivial⟩, fun answer w' post => ?_⟩)
      cases answer with
      | error e => trivial
      | ok aceita =>
        refine passaEm_ite (fun _ => passa_enviarMensagem _ _) fun accepted => ?_
        have accepted : aceita = true := by simpa using accepted
        subst accepted
        obtain rfl := post.resolve_left fun h => h.2 rfl known.symm
        exact passaEm_abrirSetor inside m (noDia.anota _) usuario logado escolhido rfl

theorem passaEm_executarSetor {setor : Setor} (noDia : NoDia R m v r)
    (usuario : (v.k.objetos r).usuarioId = v.usuario)
    (escolhido : (v.k.objetos r).setor = some setor)
    (aberta : (v.k.objetos r).autenticado = true) :
    PassaEm R c n v (executarSetor c r setor m) := by
  refine passaEm_handle (passaEm_chama escolhido aberta ?_) fun _ => passa_enviarMensagem _
  cases setor with
  | vendas =>
    refine passaEm_handleSales (fun fato newest => ?_) _ noDia.atualizada
      fun comando => noDia.recebe.sair escolhido comando _ rfl
    cases newest
    rfl
  | entrega => exact passaEm_painelDeTexto inside m (noDia.anota _) _ usuario escolhido aberta

theorem passaEm_usuarioLogado (noDia : NoDia R m v r)
    (usuario : (v.k.objetos r).usuarioId = v.usuario)
    (logado : (v.k.objetos r).logado = true) : PassaEm R c n v (usuarioLogado c r m) := by
  refine passaEm_ler ?_
  split
  next => exact passa_enviarMenuSetores _ v
  next setor escolhido =>
    exact passaEm_ite (fun aberta => passaEm_executarSetor inside m noDia usuario escolhido aberta)
      fun _ => passaEm_autenticarSetor inside m noDia usuario logado escolhido

theorem passaEm_usuarioCadastrado (criada : .criou r ∈ v.k.historia) (noDia : NoDia R m v r)
    (id : Nat) (usuario : Usuario) (registrado : some id = v.usuario) :
    PassaEm R c n v (usuarioCadastrado c r m id usuario) := by
  have licenca : Licenca v.k r [.usuarioId (some id), .cargo usuario.cargo, .nome usuario.nome] := by
    refine .comum fun campo member => ?_
    rcases List.mem_cons.mp member with rfl | member
    · trivial
    rcases List.mem_cons.mp member with rfl | member
    · exact criada
    · exact permite_fechados rfl member
  refine passaEm_atribuir licenca rfl rfl (passaEm_set inside (passaEm_ler ?_))
  refine passaEm_ite (fun both => ?_) fun _ => passaEm_ite (fun _ => ?_) fun _ =>
    passaEm_ite (fun _ => ?_) fun logado => ?_
  · exact passaEm_definirSenha inside m rfl both.2
  · exact passa_bind passa_solicitarNumero (fun _ => passa_enviarMensagem _) _
  · exact passaEm_verificarSenha inside m (List.mem_append_right _ criada)
  · have reconhecida : NoDia R m (v.com (·.atribui r
        [.usuarioId (some id), .cargo usuario.cargo, .nome usuario.nome])) r :=
      noDia.atribui rfl rfl noDia.atualizada
    refine passaEm_usuarioLogado inside m reconhecida.guarda ?_ (by simpa using logado)
    rw [Visao.k_com, Conversa.objetos_guarda, Visao.k_com, Conversa.objetos_atribui]
    exact registrado

theorem passaEm_mensagemNaSessao (criada : .criou r ∈ v.k.historia)
    (hoje : (v.k.objetos r).data = some (dia v.agora))
    (recebe : Recebe R m v.agora v.usuario (v.k.objetos r)) :
    PassaEm R c n v (mensagemNaSessao c r v.agora m) := by
  refine passaEm_ler (passaEm_ite (fun _ => passaEm_delete (passa_enviarMensagem _ _)) fun _ => ?_)
  refine passaEm_atribuir (licenca_fechada rfl) rfl (by simp [Campo.pontual])
    (passaEm_set inside ?_)
  have noDia : NoDia R m
      ((v.com (·.atribui r [.lastUpdated v.agora])).com (·.guarda r)) r := by
    have depois : (v.k.atribui r [.lastUpdated v.agora]).objetos r =
        (v.k.objetos r).atribuirTodos [.lastUpdated v.agora] := Conversa.objetos_atribui ..
    refine ⟨rfl, ?_, ?_, ?_⟩ <;> rw [Visao.k_com, Conversa.objetos_guarda, Visao.k_com, depois]
    · exact hoje
    · rfl
    · exact recebe.igual rfl rfl
  rw [PassaEm, meets_bind, consultarUsuario, meets_handle, meets_bind]
  refine (meets_ask ..).mpr ⟨⟨minha rfl, naoMexe rfl⟩, fun answer w post => ?_⟩
  obtain ⟨rfl, known⟩ := post
  cases answer with
  | error e =>
    exact (meets_bind ..).mpr (meets_mono (passa_enviarMensagem _ _) fun answer w _ => by
      cases answer <;> trivial)
  | ok usuario =>
    cases usuario with
    | none => exact passa_novoUsuario inside m _
    | some usuario =>
      exact passaEm_usuarioCadastrado inside m (List.mem_append_right _ criada) noDia usuario.1
        usuario.2 (known rfl _ rfl)

end Login

theorem recebe_novo (m : Mensagem) (agora : Nat) (usuario : Option Nat) (inicio : Inicio) :
    Recebe R m agora usuario inicio.sessao :=
  ⟨fun here => (by cases here), fun here => (by cases here), fun here => by cases here⟩

theorem passaEm_mensagem (boa : ∀ r, v.k.sessao = some r → .criou r ∈ v.k.historia)
    (m : Mensagem) (recebe : ∀ s, v.k.atual = some s → Recebe R m v.agora v.usuario s) :
    PassaEm R c n v (mensagem c m) := by
  have resto {w : Visao} {r : Nat} (inside : r < n) (criada : .criou r ∈ w.k.historia)
      (recebe : Recebe R m w.agora w.usuario (w.k.objetos r)) :
      PassaEm R c n w (do
        faz (.atribuir c r (m.messageId.toList.map Campo.pushMessageId))
        let r ← sessaoDeHoje c w.agora r
        mensagemNaSessao c r w.agora m) := by
    have ids : (m.messageId.toList.map Campo.pushMessageId).all (fun campo => !campo.abre) = true := by
      cases m.messageId <;> rfl
    have chat : (m.messageId.toList.map Campo.pushMessageId).all Campo.doChat = true := by
      cases m.messageId <;> rfl
    have pontual : (m.messageId.toList.map Campo.pushMessageId).all (Campo.pontual w.agora) = true := by
      cases m.messageId <;> rfl
    refine passaEm_atribuir (licenca_fechada ids) chat pontual ?_
    rw [sessaoDeHoje, bind_assoc]
    refine passaEm_ler ?_
    split
    next =>
      refine passaEm_novo (fun _ => rfl) fun inside' =>
        passaEm_mensagemNaSessao inside' m List.mem_cons_self ?_ ?_
      · rw [Visao.k_com, Conversa.objetos_cria]
        rfl
      · rw [Visao.k_com, Conversa.objetos_cria]
        exact recebe_novo ..
    next hoje =>
      refine passaEm_mensagemNaSessao inside m (List.mem_append_right _ criada)
        (by simpa using hoje) ?_
      rw [Visao.k_com, Conversa.objetos_atribui]
      refine recebe.igual ?_ (trabalho_atribuirTodos chat _)
      cases m.messageId <;> rfl
  refine passaEm_dateNow ?_
  rw [obter, bind_assoc]
  refine passaEm_get fun inside => ?_
  cases found : v.k.sessao with
  | some r =>
    exact resto (inside r found) (boa r found) (recebe _ (by rw [Conversa.atual, found]; rfl))
  | none =>
    refine passaEm_novo (fun _ => rfl) fun inside' => resto inside' List.mem_cons_self ?_
    rw [Visao.k_com, Conversa.objetos_cria]
    exact recebe_novo ..

section Botoes

variable (inside : r < n) (data : Texto)
include inside

theorem passaEm_escolherSetor (setor : data.startsWith "setor_".toList = true)
    (botao : (v.k.objetos r).cargo = none ∨ v.k.historia.head? = some (.botao data)) :
    PassaEm R c n v (escolherSetor c r data) := by
  refine passaEm_ler (passaEm_ite (fun _ => passa_enviarMensagem _ v) fun fora => ?_)
  split
  next => exact passa_enviarMensagem _ v
  next x chosen =>
    refine passaEm_ite (fun _ => passa_enviarMensagem _ v) fun role => ?_
    have role : (v.k.objetos r).cargo = some x.cargo := by simpa using role
    have head := botao.resolve_left fun none => by
      rw [role] at none
      cases none
    exact passaEm_dateNow (passaEm_atribuir
      (.escolha (by simpa using fora) role head ⟨setor, chosen⟩ rfl) rfl
      (by simp [Campo.pontual]) (passaEm_set inside (passa_enviarMensagem _ _)))

theorem passaEm_callbackNaSessao
    (botao : (v.k.objetos r).cargo = none ∨ v.k.historia.head? = some (.botao data))
    (aberta : (v.k.objetos r).autenticado = true → v.k.sessao = some r ∧
      (v.k.objetos r).data = some (dia v.agora) ∧ Aperta R data v.agora (v.k.objetos r)) :
    PassaEm R c n v (callbackNaSessao c r data) := by
  refine passaEm_handle (passaEm_ler ?_) fun _ => passa_enviarMensagem _
  split
  next escolhido entrada =>
    obtain ⟨-, -, aperta⟩ := aberta entrada
    refine passaEm_chama escolhido entrada (passaEm_handleCallbacks (fun fato newest => ?_)
      (aperta.venda escolhido entrada))
    cases newest
    rfl
  next escolhido entrada =>
    obtain ⟨stored, hoje, aperta⟩ := aberta entrada
    have entrou : (v.k.objetos r).acesso.Entrou v.agora := ⟨escolhido, entrada, hoje⟩
    exact passaEm_chama escolhido entrada
      (passaEm_tratarEntrega inside stored (aperta.painel entrou) (aperta.motivo entrou))
  next =>
    refine passaEm_ler (passaEm_ite (fun setor => passaEm_escolherSetor inside data setor botao)
      fun _ => ?_)
    refine passaEm_ite (fun _ => passa_enviarMenuSetores _ v) fun _ => passaEm_ite (fun _ => ?_)
      fun _ => passa_enviarMensagem _ v
    exact passaEm_delete (passa_enviarMensagem _ _)

end Botoes

theorem passaEm_callbackChat (data : Option Texto)
    (aperta : ∀ s, v.k.atual = some s → Aperta R (data.getD []) v.agora s) :
    PassaEm R c n v (callbackChat c data) := by
  have nova {w : Visao} {r : Nat} {P : Prop} (fresh : w.k.objetos r = (sessaoDoDia w.agora).sessao)
      (aberta : (w.k.objetos r).autenticado = true) : P := by
    rw [fresh] at aberta
    cases aberta
  have resto {w : Visao} {r : Nat} (inside : r < n)
      (botao : (w.k.objetos r).cargo = none ∨
        w.k.historia.head? = some (.botao (data.getD [])))
      (aberta : (w.k.objetos r).autenticado = true →
        w.k.sessao = some r ∧ Aperta R (data.getD []) w.agora (w.k.objetos r)) :
      PassaEm R c n w (do
        let r ← sessaoDeHoje c w.agora r
        callbackNaSessao c r (data.getD [])) := by
    rw [sessaoDeHoje, bind_assoc]
    refine passaEm_ler ?_
    split
    next =>
      have fresh : (w.com (·.cria (sessaoDoDia w.agora))).k.objetos w.k.proximo =
          (sessaoDoDia w.agora).sessao := Conversa.objetos_cria ..
      exact passaEm_novo (fun _ => rfl) fun inside' =>
        passaEm_callbackNaSessao inside' _ (.inl (by rw [fresh]; rfl)) (nova fresh)
    next hoje =>
      exact passaEm_callbackNaSessao inside _ botao fun entrada =>
        ⟨(aberta entrada).1, by simpa using hoje, (aberta entrada).2⟩
  refine passaEm_ite (fun _ => passa_pure () v) fun _ => passaEm_botao (passaEm_dateNow ?_)
  rw [obter, bind_assoc]
  refine passaEm_get fun inside => ?_
  cases found : (v.anota (.botao (data.getD []))).k.sessao with
  | some r =>
    refine resto (w := v.anota _) (inside r found) (.inr rfl) fun _ => ⟨found, aperta _ ?_⟩
    rw [Conversa.atual, show v.k.sessao = some r from found]
    rfl
  | none =>
    let w := v.anota (.botao (data.getD []))
    have fresh : (w.com (·.cria (sessaoDoDia w.agora))).k.objetos w.k.proximo =
        (sessaoDoDia w.agora).sessao := Conversa.objetos_cria ..
    exact passaEm_novo (fun _ => rfl) fun inside' =>
      resto inside' (.inl (by rw [fresh]; rfl)) (nova fresh)

/-- What the rule asks of an event, in the state in which it arrives. -/
def Regra.Permite (R : Regra) (m : Mundo) : Evento → Prop
  | .mensagem c x => ∀ s, (m.conversas c).atual = some s →
      Recebe R x m.db.agora (m.db.usuarioDoChat c) s
  | .callbackEntrega c data => ∀ t, data = some t → ∀ id, AlvoDoBotao t id →
      ∀ q, SqlBot.DaEntrega id q → ∀ a, (∀ s, (m.conversas c).atual = some s → a = some s.acesso) →
        R.escreve a q
  | .callbackChat c data => ∀ s, (m.conversas c).atual = some s →
      Aperta R (data.getD []) m.db.agora s
  | _ => True

/-- The chat that an event comes from; the timer comes from none. -/
def Evento.chat : Evento → Option Chat
  | mensagem c _ | contato c _ | callbackEntrega c _ | callbackChat c _ => some c
  | limpeza _ => none

theorem passaEm_evento {evento : Evento} {m : Mundo} (chat : evento.chat = some c)
    (permite : R.Permite m evento) (boa : Boa (m.conversas c))
    (limite : ∀ r, (m.conversas c).sessao = some r → r < n) :
    PassaEm R c n (m.visao c) evento.tratar := by
  cases evento with
  | mensagem c' x =>
    cases chat
    refine passaEm_mensagem (fun r stored => ?_) x permite
    exact boa.guardada.criada r (boa.limite r stored)
  | contato c' phoneNumber =>
    cases chat
    exact passa_contato phoneNumber _
  | callbackEntrega c' data =>
    cases chat
    exact passaEm_callbackEntrega limite permite
  | callbackChat c' data =>
    cases chat
    exact passaEm_callbackChat data permite
  | limpeza => cases chat

/-- One event, handled to its end, keeps every door, and makes only calls that the rule allows. -/
theorem boa_evento {R : Regra} {I : Conversa → Prop} (mantem : Mantem R I) {evento : Evento}
    {m : Mundo} (permite : R.Permite m evento)
    (boa : ∀ c, Boa (m.conversas c) ∧ I (m.conversas c)) :
    (∀ c, Boa ((evento.tratar.run Ato.exec m).2.conversas c) ∧
      I ((evento.tratar.run Ato.exec m).2.conversas c)) ∧
        ∀ x ∈ evento.tratar.trace Ato.exec m, ∃ c n, (porta R c n).pre x.1 (x.2.visao c) := by
  have um {f : Fluxo Unit} {m : Mundo} (boa : ∀ c, Boa (m.conversas c) ∧ I (m.conversas c))
      (c : Chat) (passa : ∀ n, (∀ r, (m.conversas c).sessao = some r → r < n) →
        PassaEm R c n (m.visao c) f) :
      (∀ c, Boa ((f.run Ato.exec m).2.conversas c) ∧ I ((f.run Ato.exec m).2.conversas c)) ∧
        ∀ x ∈ f.trace Ato.exec m, ∃ c n, (porta R c n).pre x.1 (x.2.visao c) :=
    (boa_run mantem boa passa).imp id fun calls x member => ⟨c, calls x member⟩
  cases evento with
  | mensagem c | contato c | callbackEntrega c | callbackChat c =>
    exact um boa c fun _ limite => passaEm_evento rfl permite (boa c).1 limite
  | limpeza chats =>
    change (∀ c, Boa (((each limparChat chats).run Ato.exec m).2.conversas c) ∧
      I (((each limparChat chats).run Ato.exec m).2.conversas c)) ∧
        ∀ x ∈ (each limparChat chats).trace Ato.exec m, ∃ c n, (porta R c n).pre x.1 (x.2.visao c)
    induction chats generalizing m with
    | nil => exact ⟨boa, by simp [each, trace]⟩
    | cons c chats ih =>
      have first := um boa c fun _ _ => passa_limparChat (c := c) _
      rw [each, run_bind, trace_bind]
      revert first
      cases (limparChat c).run Ato.exec m with
      | mk answer m' =>
        intro first
        cases answer with
        | ok _ =>
          have later := ih first.1 trivial
          exact ⟨later.1, fun x member => (List.mem_append.mp member).elim (first.2 x) (later.2 x)⟩
        | error e => exact ⟨first.1, fun x member => first.2 x (by simpa using member)⟩

theorem boa_passos {R : Regra} {I : Conversa → Prop} (mantem : Mantem R I)
    {passos : List (Action Evento Deriva)} {d : Config String Ato.Res Unit Mundo}
    (ended : ∀ p ∈ d.tasks, p.Ended)
    (boa : ∀ c, Boa (d.state.conversas c) ∧ I (d.state.conversas c))
    (permite : ∀ antes evento depois, passos = antes ++ .arrive evento :: depois →
      R.Permite (botSequencial.execute antes d).state evento) :
    ∀ c, Boa ((botSequencial.execute passos d).state.conversas c) ∧
      I ((botSequencial.execute passos d).state.conversas c) := by
  induction passos generalizing d with
  | nil => exact boa
  | cons a rest ih =>
    obtain ⟨ended', state⟩ := System.advance_serial (M := botSequencial) (fun _ => rfl) ended a
    refine ih ended' ?_ fun antes evento depois split =>
      permite (a :: antes) evento depois (by rw [split]; rfl)
    rw [state]
    cases a with
    | arrive evento => exact (boa_evento mantem (permite [] evento rest rfl) boa).1
    | step task => exact boa
    | drift change => exact boa

theorem boa_vazia : Boa {} := by
  refine ⟨⟨fun r old => ?_, fun r shown => ?_, fun r shown => ?_, fun r x shown => ?_,
    fun r x shown => ?_, fun depois r x antes split => ?_⟩, fun r stored => ?_⟩
  · cases old
  · cases shown
  · cases shown
  · cases shown
  · cases shown
  · simp at split
  · cases stored

theorem semRegra_permite (m : Mundo) (evento : Evento) : semRegra.Permite m evento := by
  cases evento with
  | mensagem c x =>
    exact fun s _ => ⟨fun _ _ _ _ _ _ => trivial, fun _ _ _ _ _ _ _ _ => trivial,
      fun _ _ _ _ => rfl⟩
  | callbackEntrega c data => exact fun _ _ _ _ _ _ _ _ => trivial
  | callbackChat c data =>
    exact fun s _ => ⟨fun _ _ _ => trivial, fun _ _ _ _ => trivial, fun _ _ =>
      ⟨fun _ => rfl, fun _ => rfl, fun _ => rfl, fun _ _ _ _ _ => trivial⟩⟩
  | contato | limpeza => trivial

/-- Whatever events come, one at a time: a sector is only called for a chat that, since the
object of its session was created, was identified by the personal password, chose that sector
with the role for it, and then gave the sector's password. -/
theorem setorSoComDuasSenhas (m : Mundo) (passos : List (Action Evento Deriva)) (c : Chat)
    (depois antes : List Fato) (r : Nat) (setor : Setor)
    (chamada : ((botSequencial.execute passos
      ⟨{ m with conversas := fun _ => {} }, []⟩).state.conversas c).historia =
        depois ++ .chamou r setor :: antes) :
    Autorizada r setor antes := by
  have mantem : Mantem semRegra fun _ => True := fun _ _ _ _ _ _ _ _ _ _ => trivial
  have vazias : ∀ c, Boa (({ m with conversas := fun _ => {} } : Mundo).conversas c) ∧ True :=
    fun _ => ⟨boa_vazia, trivial⟩
  have boa := boa_passos mantem (d := ⟨{ m with conversas := fun _ => {} }, []⟩) (by simp)
    vazias (fun antes evento _ (_ : passos = _) => semRegra_permite _ evento) c
  exact boa.1.guardada.chamadas depois r setor antes chamada

/-- A courier sends the personal password, chooses the sector and sends its password. -/
def duasSenhasCertas : List (Action Evento Deriva) :=
  [.arrive (.mensagem 7 { text := "1234".toList }),
    .arrive (.callbackChat 7 (some "setor_entrega".toList)),
    .arrive (.mensagem 7 { text := "abcd".toList })]

def comEntregador : Mundo where
  db :=
    { usuarios := .ofList [{
        chatId := 7, numero := some "5511999990000", senha := some "1234",
        cargo := some .entregador }]
      setores := fun _ => some "abcd" }

theorem senhas_na_ordem :
    Autorizada 0 .entrega (((botSequencial.execute duasSenhasCertas
      ⟨{ comEntregador with conversas := fun _ => {} }, []⟩).state.conversas 7).historia.drop 6) :=
  setorSoComDuasSenhas comEntregador duasSenhasCertas 7
    (((botSequencial.execute duasSenhasCertas
      ⟨{ comEntregador with conversas := fun _ => {} }, []⟩).state.conversas 7).historia.take 5)
    _ 0 .entrega (by decide +kernel)

end IceClube
