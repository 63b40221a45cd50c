import IceClube.Views
import IceClube.Execucao
import IceClube.Painel

/-! Presses of the button that confirms a sale, interleaved at their awaits. A press reads the
cart when its transaction begins and clears it only after its commit. -/
namespace IceClube

open Coop Prog

def botaoConfirmar : Texto := "confirmar_pedido".toList

/-- The bot of one chat that only confirms, as often as it likes. -/
def confirmacoes (c : Chat) : System Unit Deriva String Ato.Res Unit Mundo where
  exec := Ato.exec
  sync := Ato.sync
  listeners _ := [callbackEntrega c (some botaoConfirmar), callbackChat c (some botaoConfirmar)]
  drift := Mundo.derivar

abbrev Registro := Entry Ato Mundo

abbrev Registros := List Registro

namespace Registro

variable (c : Chat) (r : Nat) (e : Registro)

def chegou : Bool :=
  match e.state.falhas.headD .nenhuma with
  | .rejeitada _ => false
  | _ => true

def respondida : Bool := e.state.falhas.headD .nenhuma = .nenhuma

def leLinhas : Bool :=
  match e.op with
  | .beginTransaction =>
    e.respondida && ((e.state.conversas c).objetos r).carrinho.getD [] ≠ []
  | _ => false

def fecha : Bool :=
  match e.op with
  | .commitVenda .. | .rollbackVenda => true
  | _ => false

def confirma : Bool :=
  match e.op with
  | .commitVenda c' r' => c' = c && r' = r && e.chegou
  | _ => false

def chamada : Option Chamada :=
  match e.op with
  | .call _ chamada => if e.chegou then some chamada else none
  | _ => none

end Registro

section Confirmacoes

variable (c : Chat) (r : Nat)

def chamadasDe (i : Nat) (l : Registros) : List Chamada :=
  (l.filter (·.task = i)).filterMap Registro.chamada

/-- The lines of the cart of `r` that one press registered and committed. -/
def vendidas (i : Nat) (l : Registros) : List Chamada :=
  if l.any fun e => e.task = i && e.confirma c r then chamadasDe i l else []

def VendidoUmaVez (l : Registros) : Prop :=
  ∀ i j, vendidas c r i l ≠ [] → vendidas c r j l ≠ [] → i = j

/-- The press has read lines and is not done with them. -/
def Segura (l : Registros) (i : Nat) : Prop :=
  (∃ e ∈ l, e.task = i ∧ e.leLinhas c r = true) ∧ ∀ e ∈ l, e.task = i → e.fecha = false

/-- A press reads lines only while no other press holds lines, and no commit that took effect
stays without its answer. -/
def Sozinha (l : Registros) (e : Registro) : Prop :=
  (e.leLinhas c r = true → ∀ e' ∈ l, e'.task ≠ e.task → ¬ Segura c r l e'.task) ∧
    (e.confirma c r = true → e.respondida = true)

instance (l : Registros) (i : Nat) : Decidable (Segura c r l i) :=
  inferInstanceAs (Decidable (_ ∧ _))

instance (l : Registros) (e : Registro) : Decidable (Sozinha c r l e) :=
  inferInstanceAs (Decidable (_ ∧ _))

end Confirmacoes

/-- Where a press stands: it has not reached a sector, it confirms the cart of `r` but has
not begun, it has read no lines, it has read lines, it has committed and not cleared the cart
yet, it is done with the cart; or it does not confirm the cart of `r`. -/
inductive Fase where
  | inicio | fora | semLinhas | comLinhas | vendida | fim | alheia
  deriving DecidableEq, Repr

section Contrato

variable (c : Chat) (r : Nat)

/-- What a press may do to the cart of `r`. -/
def toque : Contract String Ato.Res Fase where
  pre
    | .chama c' _ _, v => c' = c ∧ v = .inicio
    | .atribuir c' r' campos, v =>
      c' = c ∧ if v = .vendida then r' = r ∧ ∃ agora, campos = limparVenda ++ [.lastUpdated agora]
        else r' = r → campos.all Campo.doPainel = true
    | .beginTransaction, v => v = .fora ∨ v = .alheia
    | .call .., v => v = .comLinhas ∨ v = .alheia
    | .commitVenda c' r', v =>
      c' = c ∧ (r' = r ∧ (v = .semLinhas ∨ v = .comLinhas) ∨ r' ≠ r ∧ v = .alheia)
    | .rollbackVenda, v => v = .semLinhas ∨ v = .comLinhas ∨ v = .fim ∨ v = .alheia
    | o, v => o.sync = true ∨ v ≠ .vendida
  post
    | .get _, v, answer, v' => v' = v ∧ ∃ x, answer = .ok x
    | .dateNow, v, answer, v' => v' = v ∧ ∃ x, answer = .ok x
    | .chama _ r' setor, _, _, v' => v' = if setor = .vendas ∧ r' = r then .fora else .alheia
    | .ler c' r', v, answer, v' =>
      v' = v ∧
        (v = .semLinhas → c' = c ∧ r' = r → ∀ s, answer = .ok s → s.carrinho.getD [] = [])
    | .atribuir .., v, _, v' => v' = if v = .vendida then .fim else v
    | .beginTransaction, v, answer, v' =>
      if v = .alheia then v' = v
      else match answer with
        | .ok _ => v' = .semLinhas ∨ v' = .comLinhas
        | .error _ => v' = .fim
    | .commitVenda .., v, answer, v' =>
      if v = .alheia then v' = v
      else match answer with
        | .ok _ => v' = .vendida
        | .error _ => v' = .fim
    | .rollbackVenda, v, _, v' => v' = if v = .alheia then v else .fim
    | _, v, _, v' => v' = v

def semRegras : Uso Unit where
  bom _ _ := True
  vazia _ := True
  viu _ _ := True
  grava _ _ := True

end Contrato

section Percurso

variable {α β : Type} {c : Chat} {r : Nat} {v : Fase}

/-- The handler knows of no session, and the press stands at `v`. -/
def Unseen (v : Fase) (x : Unit × Option Sessao) (v' : Fase) : Prop := x.2 = none ∧ v' = v

theorem toque_respeita {f : Fluxo α} (quiet : v ≠ .vendida)
    (uses : Respeita semRegras c ((), none) f) :
    Meets (toque c r) f (fun _ v' => v' = v) v := by
  have still : Unseen v ((), none) v := ⟨rfl, rfl⟩
  refine meets_mono (meets_simulate ?_ uses still) fun answer v' seen => ?_
  · rintro o x v' ⟨unseen, rfl⟩ pre
    cases o with
    | get c' =>
      refine ⟨.inl rfl, ?_⟩
      rintro answer w ⟨rfl, y, rfl⟩
      refine ⟨x, ⟨rfl, ?_⟩, unseen, rfl⟩
      cases y <;> trivial
    | novo =>
      refine ⟨.inr quiet, ?_⟩
      rintro answer w rfl
      exact ⟨((), none), ⟨rfl, fun _ _ => trivial⟩, rfl, rfl⟩
    | ler =>
      refine ⟨.inr quiet, ?_⟩
      rintro answer w ⟨rfl, -⟩
      refine ⟨x, ⟨rfl, fun s _ => ⟨trivial, fun s' found => ?_⟩⟩, unseen, rfl⟩
      rw [unseen] at found
      cases found
    | atribuir c' r' campos =>
      refine ⟨⟨pre.1, ?_⟩, ?_⟩
      · rw [if_neg quiet]
        exact fun _ => List.all_eq_true.mpr pre.2.2
      · rintro answer w rfl
        exact ⟨((), none), rfl, rfl, if_neg quiet⟩
    | delete =>
      refine ⟨.inr quiet, ?_⟩
      rintro answer w rfl
      exact ⟨x, trivial, unseen, rfl⟩
    | dateNow =>
      refine ⟨.inr quiet, ?_⟩
      rintro answer w ⟨rfl, -⟩
      exact ⟨x, rfl, unseen, rfl⟩
    | chama | botao | compare | call | beginTransaction | commitVenda | rollbackVenda
    | getConnection | selectVendasRecentes | updateComprovante => cases pre
    | _ =>
      refine ⟨.inr quiet, ?_⟩
      rintro answer w rfl
      exact ⟨x, rfl, unseen, rfl⟩
  · obtain ⟨_, _, _, rfl⟩ := seen
    rfl

def Ato.parada : Ato → Bool
  | .chama .. | .atribuir .. | .beginTransaction | .call .. | .commitVenda .. | .rollbackVenda =>
    false
  | _ => true

def Ato.DeOutra (c : Chat) (r : Nat) : Ato → Prop
  | .chama .. => False
  | .atribuir c' r' _ | .commitVenda c' r' => c' = c ∧ r' ≠ r
  | _ => True

theorem toque_parada {f : Fluxo α} (quiet : v ≠ .vendida)
    (calls : f.Calls fun o => o.parada = true) :
    Meets (toque c r) f (fun _ v' => v' = v) v := by
  refine calls_frame calls (fun o v' still same => ?_) rfl
  obtain rfl := same
  cases o with
  | chama | atribuir | beginTransaction | call | commitVenda | rollbackVenda => cases still
  | get | ler | dateNow => exact ⟨.inr quiet, fun _ _ post => post.1⟩
  | _ => exact ⟨.inr quiet, fun _ _ post => post⟩

theorem toque_deOutra {f : Fluxo α} (calls : f.Calls (Ato.DeOutra c r)) :
    Meets (toque c r) f (fun _ v' => v' = .alheia) .alheia := by
  refine calls_frame calls (fun o v' other same => ?_) rfl
  obtain rfl := same
  cases o with
  | chama => exact other.elim
  | atribuir =>
    exact ⟨⟨other.1, fun same => absurd same other.2⟩, fun _ _ post => post⟩
  | commitVenda => exact ⟨⟨other.1, .inr ⟨other.2, rfl⟩⟩, fun _ _ post => post⟩
  | beginTransaction | call => exact ⟨.inr rfl, fun _ _ post => post⟩
  | rollbackVenda => exact ⟨.inr (.inr (.inr rfl)), fun _ _ post => post⟩
  | get | ler | dateNow => exact ⟨.inr nofun, fun _ _ post => post.1⟩
  | _ => exact ⟨.inr nofun, fun _ _ post => post⟩

theorem deOutra_confirmarPedido {r' : Nat} (other : r' ≠ r) :
    (confirmarPedido c r').Calls (Ato.DeOutra c r) := by
  have aviso := calls_aviso (c := c) (P := Ato.DeOutra c r) (fun _ => trivial) trivial
  have item (item : ItemCarrinho) : (registrarItem c r' item).Calls (Ato.DeOutra c r) :=
    calls_bind ((calls_ask _).mpr trivial) fun _ => (calls_ask _).mpr trivial
  have menu : (showInitialMenu c r').Calls (Ato.DeOutra c r) :=
    calls_bind ((calls_ask _).mpr trivial) fun _ => calls_enviarVenda (fun _ => trivial) _
  have cart : (registrarCarrinho c r').Calls (Ato.DeOutra c r) := by
    refine calls_bind ((calls_ask _).mpr trivial) fun _ =>
      calls_bind ((calls_ask _).mpr trivial) fun sessao => ?_
    split
    · exact calls_fail _
    · refine calls_bind (calls_each item _) fun _ => calls_bind (calls_each item _) fun _ => ?_
      have saved := calls_salvarComprovante (P := Ato.DeOutra c r) (c := c) (r := r') trivial
        (fun _ _ => trivial) fun _ _ => trivial
      refine calls_bind (saved _) fun _ => calls_bind ((calls_ask _).mpr ⟨rfl, other⟩) fun _ => ?_
      refine calls_bind (calls_bind ((calls_ask _).mpr trivial) fun _ =>
        (calls_ask _).mpr ⟨rfl, other⟩) fun _ => calls_bind ((calls_ask _).mpr trivial) fun _ => ?_
      exact calls_bind (calls_enviarVenda (fun _ => trivial) _) fun _ => menu
  refine calls_bind ((calls_ask _).mpr trivial) fun sessao => ?_
  split
  · exact aviso _
  · exact calls_bind ((calls_ask _).mpr trivial) fun _ => calls_handle cart fun erro =>
      calls_bind ((calls_ask _).mpr trivial) fun _ => aviso _

/-- Only a press that read lines registers any. -/
theorem toque_itens {itens : List ItemCarrinho} (lines : v = .comLinhas ∨ itens = []) :
    Meets (toque c r) (each (registrarItem c r) itens) (fun _ v' => v' = v) v := by
  rcases lines with rfl | rfl
  · refine meets_each (J := fun v' => v' = Fase.comLinhas) (fun item _ v' here => ?_) _ rfl
    obtain rfl := here
    refine (meets_bind ..).mpr ((meets_ask ..).mpr ⟨.inl rfl, fun answer v' post => ?_⟩)
    obtain ⟨rfl, -⟩ := post
    cases answer with
    | error e => rfl
    | ok s => exact (meets_ask ..).mpr ⟨.inl rfl, fun _ _ post => post⟩
  · rfl

theorem toque_commit (here : v = .semLinhas ∨ v = .comLinhas) :
    Meets (toque c r) (do
      faz (.commitVenda c r)
      atualizar c r limparVenda
      faz (.answerCallbackQuery c)
      enviarVenda c "✅ *Venda finalizada com sucesso! Pedido registrado.*"
      showInitialMenu c r) (fun _ v' => v' = .fim) v := by
  have mine : v ≠ .alheia := by rcases here with rfl | rfl <;> exact nofun
  have pre : (toque c r).pre (.commitVenda c r) v := ⟨rfl, .inl ⟨rfl, here⟩⟩
  refine (meets_bind ..).mpr ((meets_ask ..).mpr ⟨pre, fun answer v' post => ?_⟩)
  simp only [toque, if_neg mine] at post
  cases answer with
  | error e => exact post
  | ok _ =>
    obtain rfl := post
    rw [then_ok, meets_bind, atualizar, meets_bind]
    refine (meets_ask ..).mpr ⟨.inl rfl, fun answer v' same => ?_⟩
    obtain ⟨rfl, agora, rfl⟩ := same
    rw [then_ok]
    refine (meets_ask ..).mpr ⟨⟨rfl, rfl, agora, rfl⟩, fun answer v' post => ?_⟩
    obtain rfl : v' = .fim := post
    cases answer with
    | error e => rfl
    | ok _ =>
      refine toque_parada (f := do
        faz (.answerCallbackQuery c)
        enviarVenda c "✅ *Venda finalizada com sucesso! Pedido registrado.*"
        showInitialMenu c r) nofun (calls_bind ((calls_ask _).mpr rfl) fun _ => ?_)
      exact calls_bind (calls_enviarVenda (fun _ => rfl) _) fun _ =>
        calls_bind ((calls_ask _).mpr rfl) fun _ => calls_enviarVenda (fun _ => rfl) _

theorem toque_registrarCarrinho :
    Meets (toque c r) (registrarCarrinho c r)
      (fun answer v' => v' = .fim ∨
        (v' = .semLinhas ∨ v' = .comLinhas) ∧ ∃ e, answer = .error e) .fora := by
  refine (meets_bind ..).mpr ((meets_ask ..).mpr ⟨.inl rfl, fun answer v begun => ?_⟩)
  cases answer with
  | error e => exact .inl begun
  | ok _ =>
    have unclosed : v = .semLinhas ∨ v = .comLinhas := begun
    refine (meets_bind ..).mpr ((meets_ask ..).mpr ⟨.inl rfl, fun answer v' post => ?_⟩)
    obtain ⟨rfl, read⟩ := post
    cases answer with
    | error e => exact .inr ⟨unclosed, e, rfl⟩
    | ok s =>
      rw [then_ok]
      cases cart : s.carrinho with
      | none => exact .inr ⟨unclosed, _, rfl⟩
      | some itens =>
        have lines (some : ItemCarrinho → Bool) : v' = .comLinhas ∨ itens.filter some = [] := by
          rcases unclosed with rfl | rfl
          · have empty := read rfl ⟨rfl, rfl⟩ s rfl
            rw [cart, Option.getD_some] at empty
            exact .inr (by rw [empty]; rfl)
          · exact .inl rfl
        have quiet : v' ≠ .vendida := by rcases unclosed with rfl | rfl <;> exact nofun
        rw [meets_bind]
        refine meets_mono (toque_itens (lines _)) fun answer v same => ?_
        obtain rfl := same
        cases answer with
        | error e => exact .inr ⟨unclosed, e, rfl⟩
        | ok _ =>
          rw [then_ok, meets_bind]
          refine meets_mono (toque_itens (lines _)) fun answer v same => ?_
          obtain rfl := same
          cases answer with
          | error e => exact .inr ⟨unclosed, e, rfl⟩
          | ok _ =>
            rw [then_ok, meets_bind]
            have saved := calls_salvarComprovante (c := c) (r := r) (P := fun o => o.parada = true)
              rfl (fun _ _ => rfl) (fun _ _ => rfl)
            refine meets_mono (toque_parada quiet (saved _)) fun answer v same => ?_
            obtain rfl := same
            cases answer with
            | error e => exact .inr ⟨unclosed, e, rfl⟩
            | ok _ => exact meets_mono (toque_commit unclosed) fun _ _ => .inl

theorem toque_confirmarPedido :
    Meets (toque c r) (confirmarPedido c r) (fun _ v' => v' ≠ .vendida) .fora := by
  refine (meets_bind ..).mpr ((meets_ask ..).mpr ⟨.inl rfl, fun answer v post => ?_⟩)
  obtain ⟨rfl, -⟩ := post
  have aviso (v : Fase) (quiet : v ≠ .vendida) (mensagem : String) :
      Meets (toque c r) (do
        faz (.answerCallbackQuery c)
        enviarVenda c mensagem) (fun _ v' => v' ≠ .vendida) v :=
    meets_mono (toque_parada quiet
      (calls_aviso (P := fun o => o.parada = true) (fun _ => rfl) rfl mensagem))
      fun _ _ same => same ▸ quiet
  cases answer with
  | error e => exact nofun
  | ok s =>
    rw [then_ok]
    split
    · exact aviso .fora nofun _
    refine (meets_bind ..).mpr ((meets_ask ..).mpr ⟨.inr nofun, fun answer v same => ?_⟩)
    obtain rfl := same
    cases answer with
    | error e => exact nofun
    | ok _ =>
      rw [then_ok, meets_handle]
      refine meets_mono toque_registrarCarrinho fun answer v ended => ?_
      cases answer with
      | ok _ =>
        rcases ended with rfl | ⟨-, e, failed⟩
        · exact nofun
        · cases failed
      | error e =>
        have undoes : v = .semLinhas ∨ v = .comLinhas ∨ v = .fim ∨ v = .alheia := by
          rcases ended with rfl | ⟨rfl | rfl, -⟩ <;> simp
        have mine : v ≠ .alheia := by
          rcases ended with rfl | ⟨rfl | rfl, -⟩ <;> exact nofun
        refine (meets_bind ..).mpr ((meets_ask ..).mpr ⟨undoes, fun answer v' post => ?_⟩)
        obtain rfl : v' = .fim := post.trans (if_neg mine)
        cases answer with
        | error e => exact nofun
        | ok _ => exact aviso .fim nofun _

theorem toque_enviarMensagem (quiet : v ≠ .vendida) (texto : String) :
    Meets (toque c r) (enviarMensagem c texto) (fun _ v' => v' = v) v :=
  toque_respeita quiet (usa_enviarMensagem texto none).respeita

theorem toque_callbackEntrega (data : Option Texto) :
    Meets (toque c r) (callbackEntrega c data) (fun _ v' => v' = .alheia) .alheia :=
  toque_respeita nofun (usa_callbackEntrega (fun _ _ _ _ _ _ => trivial) none).respeita

theorem ramoVendas_confirmar (r' : Nat) :
    ramoVendas c r' botaoConfirmar = confirmarPedido c r' := by
  rw [ramoVendas, if_neg (by decide), if_neg (by decide), if_neg (by decide), if_neg (by decide),
    if_neg (by decide), if_neg (by decide), if_neg (by decide)]
  exact if_pos rfl

theorem toque_handleCallbacks (r' : Nat) :
    Meets (toque c r) (handleCallbacks c r' botaoConfirmar) (fun _ v' => v' ≠ .vendida)
      (if r' = r then .fora else .alheia) := by
  rw [handleCallbacks, ramoVendas_confirmar, meets_handle]
  have body : Meets (toque c r) (confirmarPedido c r') (fun _ v' => v' ≠ .vendida)
      (if r' = r then .fora else .alheia) := by
    split
    next same => exact same ▸ toque_confirmarPedido
    next other =>
      exact meets_mono (toque_deOutra (deOutra_confirmarPedido other)) fun _ _ same =>
        same ▸ nofun
  refine meets_mono body fun answer v quiet => ?_
  cases answer with
  | ok _ => exact quiet
  | error e =>
    exact meets_mono (toque_parada quiet
      (calls_aviso (P := fun o => o.parada = true) (fun _ => rfl) rfl _)) fun _ _ same =>
        same ▸ quiet

theorem toque_semSetor (r' : Nat) :
    Meets (toque c r) (semSetor c r' botaoConfirmar) (fun _ v' => v' ≠ .vendida) .inicio := by
  refine (meets_bind ..).mpr ((meets_ask ..).mpr ⟨.inl rfl, fun answer v post => ?_⟩)
  obtain ⟨rfl, -⟩ := post
  cases answer with
  | error e => exact nofun
  | ok s =>
    rw [then_ok, if_neg (by decide), if_neg (by decide), if_neg (by decide)]
    have quiet : Fase.inicio ≠ .vendida := nofun
    exact meets_mono (toque_enviarMensagem quiet _) fun _ _ same => same ▸ quiet

theorem toque_callbackNaSessao (r' : Nat) :
    Meets (toque c r) (callbackNaSessao c r' botaoConfirmar) (fun _ v' => v' ≠ .vendida)
      .inicio := by
  rw [callbackNaSessao, meets_handle]
  refine meets_mono (Q := fun _ v' => v' ≠ .vendida) ?_ fun answer v quiet => ?_
  · refine (meets_bind ..).mpr ((meets_ask ..).mpr ⟨.inl rfl, fun answer v post => ?_⟩)
    obtain ⟨rfl, -⟩ := post
    cases answer with
    | error e =>
      rw [then_error]
      decide
    | ok s =>
      rw [then_ok]
      split
      · refine (meets_bind ..).mpr ((meets_ask ..).mpr ⟨⟨rfl, rfl⟩, fun answer v here => ?_⟩)
        obtain rfl : v = if r' = r then .fora else .alheia := here.trans (by simp)
        cases answer with
        | error e =>
          rw [then_error]
          split <;> decide
        | ok _ => exact toque_handleCallbacks r'
      · refine (meets_bind ..).mpr ((meets_ask ..).mpr ⟨⟨rfl, rfl⟩, fun answer v here => ?_⟩)
        obtain rfl : v = .alheia := here
        cases answer with
        | error e =>
          rw [then_error]
          decide
        | ok _ =>
          have painel : Respeita semRegras c ((), none) (tratarEntrega c (enviarMensagem c) r'
              { texto := Texto.trim botaoConfirmar, data := some botaoConfirmar }) :=
            respeita_tratarEntrega (fun _ _ => usa_enviarMensagem _) trivial
              (fun _ _ _ _ => trivial) (fun _ _ _ _ _ _ => trivial)
          refine meets_mono (toque_respeita (by decide) painel) fun _ w same => ?_
          rw [same]
          decide
      · exact toque_semSetor r'
  · cases answer with
    | ok _ => exact quiet
    | error e => exact meets_mono (toque_enviarMensagem quiet _) fun _ _ same => same ▸ quiet

theorem toque_callbackChat :
    Meets (toque c r) (callbackChat c (some botaoConfirmar)) (fun _ v' => v' ≠ .vendida)
      .inicio := by
  have quiet : Fase.inicio ≠ .vendida := nofun
  have segue {α : Type} {f : Fluxo α} {g : α → Fluxo Unit}
      (calls : f.Calls fun o => o.parada = true)
      (rest : ∀ a, Meets (toque c r) (g a) (fun _ v' => v' ≠ .vendida) .inicio) :
      Meets (toque c r) (f >>= g) (fun _ v' => v' ≠ .vendida) .inicio := by
    rw [meets_bind]
    refine meets_mono (toque_parada quiet calls) fun answer v same => ?_
    obtain rfl := same
    cases answer with
    | error e => exact quiet
    | ok a => exact rest a
  have novo (inicio : Inicio) : (faz (.novo c inicio)).Calls fun o => o.parada = true :=
    (calls_ask _).mpr rfl
  rw [callbackChat, if_neg (by decide)]
  refine segue ((calls_ask _).mpr rfl) fun _ => segue ((calls_ask _).mpr rfl) fun agora => ?_
  refine segue (calls_bind ((calls_ask _).mpr rfl) fun x => ?_) fun r' => ?_
  · cases x with
    | none => exact novo _
    | some r' => exact calls_done r'
  refine segue (calls_bind ((calls_ask _).mpr rfl) fun s => ?_) toque_callbackNaSessao
  split
  · exact novo _
  · exact calls_done r'

end Percurso

end IceClube
