import IceClube.EntregaBot

/-! What the courier's handlers may do to the session they hold: store it, assign the
fields of the panel, and send statements that are harmless or that `Uso` allows. The
handlers are walked through once; each property reads the walk through a view of its own. -/
namespace IceClube

open Coop Prog

def Etapa.doPainel : Etapa → Bool
  | criarVenda | adicionarItens | metodoPagamento | comprovante | valorDinheiro
  | numeroCliente | info => false
  | _ => true

def Campo.doPainel : Campo → Bool
  | pushMessageId _ | submenu _ | pedidoId _ | pontoInicial _ | rota _ | rotaAtiva _
  | entregadorRotaId _ => true
  | etapa valor => valor.all Etapa.doPainel
  | _ => false

def Campo.pontual (agora : Nat) : Campo → Bool
  | lastUpdated valor => valor = agora
  | _ => true

def Inicio.Pontual (agora : Nat) (inicio : Inicio) : Prop :=
  inicio.data.isSome = true → inicio.lastUpdated = some agora

theorem Inicio.pontual_semData {agora : Nat} {inicio : Inicio} (semData : inicio.data = none) :
    inicio.Pontual agora := by
  intro dated
  rw [semData] at dated
  cases dated

theorem pontual_doPainel {agora : Nat} {campo : Campo} (doPainel : campo.doPainel = true) :
    campo.pontual agora = true := by
  cases campo <;> first | rfl | cases doPainel

/-- The statement leaves deliveries, orders, sales and passwords alone. -/
def SqlBot.neutra : SqlBot → Bool
  | updateSenha .. | selectLogin .. | updateEndereco .. | iniciarEntregas _ | pedidosNaRua _
  | finalizarEntregas _ | finalizarPedidos _ | receberEntrega _ | receberPedido _
  | receberVenda _ | falharEntrega .. | falharPedido _ | receber .. | justificar .. => false
  | _ => true

/-- A statement that writes the deliveries of a courier or their orders. -/
def SqlBot.DoUsuario (usuarioId : Option Nat) : SqlBot → Prop
  | iniciarEntregas u | pedidosNaRua u | finalizarEntregas u | finalizarPedidos u => u = usuarioId
  | _ => False

def SqlBot.DaEntrega (id : IdSql) : SqlBot → Prop
  | updateEndereco i _ | receberEntrega i | receberPedido i | receberVenda i | falharEntrega _ i
  | falharPedido i | receber _ i | justificar _ _ i => i = id
  | _ => False

def Ato.livre : Ato → Bool
  | dateNow | sendMessage .. | answerCallbackQuery _ | deleteMessage .. | getChatMember _
  | getFile _ | screenshot _ | sendPhoto _ | geocode _ | distancematrix .. | setTimeout _ => true
  | _ => false

/-- The view `P` says which objects are the handler's, whether the map may be without an
entry, what its objects show, and what it may write. -/
structure Uso (P : Type) where
  bom : P → Nat → Prop
  vazia : P → Prop
  viu : P → Sessao → Prop
  grava : P → SqlBot → Prop

namespace Uso

variable {P : Type} (U : Uso P) (c : Chat)

/-- Beside `P` the view remembers the content of the handler's objects until the first
assignment. After a deletion nothing is known. -/
def contrato : Contract String Ato.Res (P × Option Sessao) where
  pre
    | .get c', _ => c' = c
    | .set c' r, v => c' = c ∧ U.bom v.1 r
    | .delete c' saida, _ => c' = c ∧ saida = .sair
    | .novo c' inicio, v => c' = c ∧ U.vazia v.1 ∧ inicio.data = none
    | .ler c' r, v => c' = c ∧ U.bom v.1 r
    | .atribuir c' r campos, v =>
      c' = c ∧ U.bom v.1 r ∧ ∀ campo ∈ campos, campo.doPainel = true
    | .query c' q, v => c' = c ∧ (q.neutra = true ∨ U.grava v.1 q)
    | o, _ => o.livre = true
  post
    | .get _, v, answer, v' => v' = v ∧
      match answer with
      | .ok none => U.vazia v.1
      | .ok (some r) => U.bom v.1 r
      | .error _ => False
    | .delete .., _, _, _ => True
    | .novo .., v, answer, v' => v' = (v.1, none) ∧ ∀ r, answer = .ok r → U.bom v.1 r
    | .ler .., v, answer, v' =>
      v' = v ∧ ∀ s, answer = .ok s → U.viu v.1 s ∧ ∀ s', v.2 = some s' → s = s'
    | .atribuir .., v, _, v' => v' = (v.1, none)
    | _, v, _, v' => v' = v

end Uso

variable {P α β : Type} {U : Uso P} {c : Chat} {p : P} {r : Nat}

/-- The program keeps the contract and stays in the view `p`. -/
def UsaEm (U : Uso P) (c : Chat) (p : P) (w : Option Sessao) (f : Fluxo α) : Prop :=
  Meets (U.contrato c) f (fun _ v => v.1 = p) (p, w)

def Usa (U : Uso P) (c : Chat) (p : P) (f : Fluxo α) : Prop := ∀ w, UsaEm U c p w f

/-- The program keeps the contract, and may end in any view. -/
def Respeita (U : Uso P) (c : Chat) (v : P × Option Sessao) (f : Fluxo α) : Prop :=
  Meets (U.contrato c) f (fun _ _ => True) v

theorem UsaEm.respeita {w : Option Sessao} {f : Fluxo α} (usa : UsaEm U c p w f) :
    Respeita U c (p, w) f :=
  meets_mono usa fun _ _ _ => trivial

section Regras

theorem usa_pure (a : α) : Usa U c p (pure a : Fluxo α) := fun _ => rfl

theorem usa_fail (e : String) : Usa U c p (fail e : Fluxo α) := fun _ => rfl

theorem usaEm_ler {w : Option Sessao} {g : Sessao → Fluxo β} (bom : U.bom p r)
    (rest : ∀ s, U.viu p s → (∀ s', w = some s' → s = s') → UsaEm U c p w (g s)) :
    UsaEm U c p w (faz (.ler c r) >>= g) := by
  rw [UsaEm, meets_bind]
  refine (meets_ask ..).mpr ⟨⟨rfl, bom⟩, fun answer v post => ?_⟩
  obtain ⟨rfl, seen⟩ := post
  cases answer with
  | ok s => exact rest s (seen s rfl).1 (seen s rfl).2
  | error e => rfl

theorem usaEm_consulta {w : Option Sessao} {q : SqlBot} {g : q.Res → Fluxo β}
    (neutra : q.neutra = true) (rest : ∀ a, UsaEm U c p w (g a)) :
    UsaEm U c p w (consulta c q >>= g) := by
  rw [UsaEm, meets_bind]
  refine (meets_ask ..).mpr ⟨⟨rfl, .inl neutra⟩, fun answer v post => ?_⟩
  cases post
  cases answer with
  | ok a => exact rest a
  | error e => rfl

theorem usaEm_bind {w : Option Sessao} {f : Fluxo α} {g : α → Fluxo β} (first : UsaEm U c p w f)
    (rest : ∀ a, Usa U c p (g a)) : UsaEm U c p w (f >>= g) := by
  rw [UsaEm, meets_bind]
  refine meets_mono first fun answer v same => ?_
  obtain ⟨_, w'⟩ := v
  cases same
  cases answer with
  | ok a => exact rest a w'
  | error e => rfl

theorem usaEm_get {w : Option Sessao} {g : Option Nat → Fluxo β}
    (vazia : U.vazia p → UsaEm U c p w (g none))
    (achada : ∀ r, U.bom p r → UsaEm U c p w (g (some r))) :
    UsaEm U c p w (faz (.get c) >>= g) := by
  rw [UsaEm, meets_bind]
  refine (meets_ask ..).mpr ⟨rfl, fun answer v post => ?_⟩
  obtain ⟨rfl, found⟩ := post
  cases answer with
  | error e => rfl
  | ok x =>
    cases x with
    | none => exact vazia found
    | some r => exact achada r found

theorem usa_bind {f : Fluxo α} {g : α → Fluxo β} (first : Usa U c p f)
    (rest : ∀ a, Usa U c p (g a)) : Usa U c p (f >>= g) := fun w => usaEm_bind (first w) rest

theorem usa_ler {g : Sessao → Fluxo β} (bom : U.bom p r)
    (rest : ∀ s, U.viu p s → Usa U c p (g s)) : Usa U c p (faz (.ler c r) >>= g) :=
  fun w => usaEm_ler bom fun s seen _ => rest s seen w

theorem usa_get {g : Option Nat → Fluxo β} (vazia : U.vazia p → Usa U c p (g none))
    (achada : ∀ r, U.bom p r → Usa U c p (g (some r))) : Usa U c p (faz (.get c) >>= g) :=
  fun w => usaEm_get (fun empty => vazia empty w) fun r found => achada r found w

theorem usa_handle {f : Fluxo α} {h : String → Fluxo α} (body : Usa U c p f)
    (handler : ∀ e, Usa U c p (h e)) : Usa U c p (f.handle h) := by
  intro w
  rw [UsaEm, meets_handle]
  refine meets_mono (body w) fun answer v same => ?_
  obtain ⟨_, w'⟩ := v
  cases same
  cases answer with
  | ok a => rfl
  | error e => exact handler e w'

theorem usa_livre {o : Ato} (livre : o.livre = true) : Usa U c p (faz o) := by
  intro w
  cases o with
  | get | set | delete | novo | ler | atribuir | botao | chama | compare | query | getConnection
  | beginTransaction | call | selectVendasRecentes | updateComprovante | commitVenda
  | rollbackVenda => simp [Ato.livre] at livre
  | _ => exact (meets_ask ..).mpr ⟨rfl, fun _ _ same => congrArg Prod.fst same⟩

theorem usa_set (bom : U.bom p r) : Usa U c p (faz (.set c r)) :=
  fun _ => (meets_ask ..).mpr ⟨⟨rfl, bom⟩, fun _ _ same => congrArg Prod.fst same⟩

theorem usa_atribuir {campos : List Campo} (bom : U.bom p r)
    (campo : campos.all Campo.doPainel = true) : Usa U c p (faz (.atribuir c r campos)) :=
  fun _ => (meets_ask ..).mpr
    ⟨⟨rfl, bom, List.all_eq_true.mp campo⟩, fun _ _ same => congrArg Prod.fst same⟩

theorem usa_neutra {q : SqlBot} (neutra : q.neutra = true) :
    Usa U c p (consulta c q) :=
  fun _ => (meets_ask ..).mpr ⟨⟨rfl, .inl neutra⟩, fun _ _ same => congrArg Prod.fst same⟩

theorem usa_grava {q : SqlBot} (grava : U.grava p q) : Usa U c p (consulta c q) :=
  fun _ => (meets_ask ..).mpr ⟨⟨rfl, .inr grava⟩, fun _ _ same => congrArg Prod.fst same⟩

theorem usa_novo {inicio : Inicio} {g : Nat → Fluxo β} (vazia : U.vazia p)
    (semData : inicio.data = none)
    (rest : ∀ r, U.bom p r → Usa U c p (g r)) : Usa U c p (faz (.novo c inicio) >>= g) := by
  intro w
  rw [UsaEm, meets_bind]
  refine (meets_ask ..).mpr ⟨⟨rfl, vazia, semData⟩, fun answer v post => ?_⟩
  obtain ⟨rfl, made⟩ := post
  cases answer with
  | error e => rfl
  | ok r => exact rest r (made r rfl) none

theorem usa_obter {inicio : Inicio} {g : Nat → Fluxo β} (semData : inicio.data = none)
    (rest : ∀ r, U.bom p r → Usa U c p (g r)) : Usa U c p (obter c inicio >>= g) := by
  rw [obter, bind_assoc]
  exact usa_get (fun vazia => usa_novo vazia semData rest) rest

/-- `sessao.… = …; sessoes.set(chatId, sessao)`. -/
theorem usa_guardar {campos : List Campo} {g : Unit → Fluxo β} (bom : U.bom p r)
    (campo : campos.all Campo.doPainel = true) (rest : ∀ a, Usa U c p (g a)) :
    Usa U c p (faz (.atribuir c r campos) >>= fun _ => faz (.set c r) >>= g) :=
  usa_bind (usa_atribuir bom campo) fun _ => usa_bind (usa_set bom) rest

theorem usa_guardado {campos : List Campo} (bom : U.bom p r)
    (campo : campos.all Campo.doPainel = true) :
    Usa U c p (faz (.atribuir c r campos) >>= fun _ => faz (.set c r)) :=
  usa_bind (usa_atribuir bom campo) fun _ => usa_set bom

theorem usa_consulta {q : SqlBot} {g : q.Res → Fluxo β} (neutra : q.neutra = true)
    (rest : ∀ a, Usa U c p (g a)) : Usa U c p (consulta c q >>= g) :=
  usa_bind (usa_neutra neutra) rest

theorem usa_escrita {q : SqlBot} {g : q.Res → Fluxo β} (grava : U.grava p q)
    (rest : ∀ a, Usa U c p (g a)) : Usa U c p (consulta c q >>= g) :=
  usa_bind (usa_grava grava) rest

theorem usa_segue {o : Ato} {g : o.Res → Fluxo β} (livre : o.livre = true)
    (rest : ∀ a, Usa U c p (g a)) : Usa U c p (faz o >>= g) :=
  usa_bind (usa_livre livre) rest

theorem usa_ite {b : Prop} [Decidable b] {f g : Fluxo α} (sim : b → Usa U c p f)
    (nao : ¬ b → Usa U c p g) : Usa U c p (if b then f else g) := by
  split
  · exact sim ‹_›
  · exact nao ‹_›

theorem respeita_ite {v : P × Option Sessao} {b : Prop} [Decidable b] {f g : Fluxo α}
    (sim : Respeita U c v f) (nao : Respeita U c v g) :
    Respeita U c v (if b then f else g) := by
  split
  · exact sim
  · exact nao

end Regras
end IceClube
