import Mathlib.Tactic.Linarith
import Mathlib.Tactic.Positivity
import IceClube.Execucao

/-! The quantity of a cart line on its way through a text: written in front of the unit
when the line is added, read back when the sale is confirmed. -/
namespace IceClube

open Coop Prog

section Leitura

namespace Texto

theorem valor_append (a b : Texto) : valor (a ++ b) = 10 ^ b.length * valor a + valor b := by
  rw [valor, List.foldl_append]
  exact Nat.ofDigitChars_eq_ofDigitChars_zero

theorem valor_repr (n : Nat) : valor (toString n).toList = n := by
  rw [Nat.toString_eq_repr, Nat.toList_repr]
  exact Nat.ofDigitChars_toDigits (by decide) (by decide)

theorem valor_zeros {zeros : Texto} (digitos : ∀ c ∈ zeros, c.isDigit = true) :
    valor zeros = 0 ↔ ∀ c ∈ zeros, c = '0' := by
  induction zeros with
  | nil => simp [valor]
  | cons c resto ih =>
    rw [List.forall_mem_cons] at digitos
    have first : valor [c] = 0 ↔ c = '0' := by
      have digit := digitos.1
      simp only [Char.isDigit, Bool.and_eq_true, decide_eq_true_eq] at digit
      simp only [valor, List.foldl_cons, List.foldl_nil, Char.ext_iff, UInt32.le_iff_toNat_le,
        Char.toNat, ← UInt32.toNat_inj] at digit ⊢
      have : ('0' : Char).val.toNat = 48 := rfl
      omega
    rw [← List.singleton_append, valor_append, List.forall_mem_append, Nat.add_eq_zero_iff,
      ih digitos.2, List.forall_mem_singleton, ← first]
    simp

end Texto

/-- After a number, the unit adds no digit of its own but zeros behind one point. -/
def legivel (medida : String) : Bool :=
  match Texto.digitosEPontos medida.toList with
  | [] => true
  | c :: depois => c = '.' && (depois.takeWhile Char.isDigit).all (· = '0')

theorem digitos_repr (n : Nat) : ∀ c ∈ (toString n).toList, c.isDigit = true := by
  intro c member
  rw [Nat.toString_eq_repr, Nat.toList_repr] at member
  exact Nat.isDigit_of_mem_toDigits (by decide) (by decide) member

theorem digitosEPontos_repr (n : Nat) (medida : Texto) :
    Texto.digitosEPontos ((toString n).toList ++ medida) =
      (toString n).toList ++ Texto.digitosEPontos medida := by
  rw [Texto.digitosEPontos, List.filter_append, Texto.digitosEPontos, List.filter_eq_self.mpr]
  intro c member
  rw [digitos_repr n c member, Bool.true_or]

section ParseFloat

variable {D f : Texto} (digitos : ∀ c ∈ D, c.isDigit = true)
include digitos

theorem parseFloat_inteiro (some_digit : D ≠ []) (unit : f.head? = none ∨ f.head? = some '.') :
    Texto.parseFloat (D ++ f) =
      some (Texto.valor D + (Texto.valor (f.tail.takeWhile Char.isDigit) : ℚ) /
        10 ^ (f.tail.takeWhile Char.isDigit).length) := by
  have inteiro : (D ++ f).takeWhile Char.isDigit = D := by
    rw [List.takeWhile_append_of_pos digitos]
    rcases f with _ | ⟨c, resto⟩
    · simp
    · obtain rfl : c = '.' := by simpa using unit
      simp
  have depois : (D ++ f).dropWhile Char.isDigit = f := by
    rw [List.dropWhile_append_of_pos digitos]
    rcases f with _ | ⟨c, resto⟩
    · rfl
    · obtain rfl : c = '.' := by simpa using unit
      rfl
  rw [Texto.parseFloat, inteiro, depois]
  rcases f with _ | ⟨c, resto⟩
  · simp [some_digit]
  · obtain rfl : c = '.' := by simpa using unit
    simp [some_digit]

/-- A digit behind the number makes it at least ten times as large. -/
theorem parseFloat_maior {c : Char} (digit : c.isDigit = true) :
    ∃ x : ℚ, Texto.parseFloat (D ++ c :: f) = some x ∧ 10 * (Texto.valor D : ℚ) ≤ x := by
  have inteiro : (D ++ c :: f).takeWhile Char.isDigit = D ++ c :: f.takeWhile Char.isDigit := by
    rw [List.takeWhile_append_of_pos digitos, List.takeWhile_cons_of_pos digit]
  rw [Texto.parseFloat, inteiro, if_neg (by simp)]
  refine ⟨_, rfl, ?_⟩
  have larger : 10 * Texto.valor D ≤ Texto.valor (D ++ c :: f.takeWhile Char.isDigit) := by
    rw [Texto.valor_append, List.length_cons, Nat.pow_succ']
    calc 10 * Texto.valor D
        ≤ 10 * 10 ^ (f.takeWhile Char.isDigit).length * Texto.valor D := by
          rw [Nat.mul_assoc]
          exact Nat.mul_le_mul_left 10 (Nat.le_mul_of_pos_left _ (by positivity))
      _ ≤ _ := Nat.le_add_right _ _
  have larger : 10 * (Texto.valor D : ℚ) ≤ Texto.valor (D ++ c :: f.takeWhile Char.isDigit) := by
    exact_mod_cast larger
  exact larger.trans (le_add_of_nonneg_right (by positivity))

end ParseFloat

/-- Reading undoes writing for every number, or for none. -/
theorem parseFloat_iff {n : Nat} (positivo : 0 < n) (medida : String) :
    Texto.parseFloat (Texto.digitosEPontos ((toString n).toList ++ medida.toList)) = some (n : ℚ) ↔
      legivel medida = true := by
  have digitos := digitos_repr n
  have valor := Texto.valor_repr n
  have nonempty : (toString n).toList ≠ [] := by
    rintro empty
    rw [empty] at valor
    exact absurd valor.symm (by simpa [Texto.valor] using positivo.ne')
  rw [digitosEPontos_repr, legivel]
  generalize (toString n).toList = D at digitos valor nonempty
  cases unit : Texto.digitosEPontos medida.toList with
  | nil =>
    rw [parseFloat_inteiro digitos nonempty (.inl rfl), valor]
    simp [Texto.valor]
  | cons c depois =>
    have kept : c.isDigit || c = '.' := by
      have member : c ∈ Texto.digitosEPontos medida.toList := unit ▸ List.mem_cons_self
      exact (List.mem_filter.mp member).2
    by_cases point : c = '.'
    · subst point
      have zero := Texto.valor_zeros (List.all_eq_true.mp
        (List.all_takeWhile (p := Char.isDigit) (l := depois)))
      rw [parseFloat_inteiro digitos nonempty (.inr rfl)]
      simp [valor, ← zero]
    · have digit : c.isDigit = true := by simpa [point] using kept
      obtain ⟨x, read, larger⟩ := parseFloat_maior digitos (f := depois) digit
      rw [read]
      refine iff_of_false (fun same => ?_) (by simp [point])
      rw [valor, Option.some.inj same] at larger
      have : (0 : ℚ) < n := by exact_mod_cast positivo
      linarith

end Leitura

/-- A line as it is added to the cart; `none` is the combo. -/
structure LinhaCarrinho where
  produto : Option (Nat × Estoque)
  quantidade : Nat
  positiva : 0 < quantidade
  valorUnitario : ℚ

namespace LinhaCarrinho

def medida (l : LinhaCarrinho) : String :=
  match l.produto with
  | some (_, produto) => produto.medida
  | none => "un"

def nome (l : LinhaCarrinho) : String :=
  match l.produto with
  | some (_, produto) => produto.nome
  | none => "Combo Caneta + Refil"

def item (l : LinhaCarrinho) : ItemCarrinho where
  id := l.produto.map (·.1)
  nome := l.nome.toList
  quantidade := s!"{l.quantidade}{l.medida}".toList
  valorUnitario := l.valorUnitario
  valorTotal :=
    match l.produto with
    | some _ => l.quantidade * l.valorUnitario
    | none => l.valorUnitario * l.quantidade

theorem quantidadeDe_iff (l : LinhaCarrinho) :
    quantidadeDe l.item = l.quantidade ↔ legivel l.medida = true := by
  have text : l.item.quantidade = (toString l.quantidade).toList ++ l.medida.toList := by
    rw [item, String.toList_append]
    rfl
  rw [quantidadeDe, text, ← parseFloat_iff l.positiva]
  cases Texto.parseFloat _ with
  | some x => simp
  | none =>
    have positiva : (0 : ℚ) ≠ l.quantidade := by exact_mod_cast l.positiva.ne
    simpa using positiva

end LinhaCarrinho

section Confirmacao

def Fato.chamada : Fato → Option Chamada
  | .registrou chamada => some chamada
  | _ => none

/-- The calls of the stored procedures made for the chat, oldest first. -/
def Conversa.registradas (k : Conversa) : List Chamada := (k.historia.filterMap Fato.chamada).reverse

def Sessao.chamada (s : Sessao) (item : ItemCarrinho) : Chamada :=
  ⟨s.numeroCliente, s.metodoPagamento, s.usuarioId, item.id, quantidadeDe item⟩

/-- The items in the order of a confirmation: the products, then the combos. -/
def emOrdem (carrinho : List ItemCarrinho) : List ItemCarrinho :=
  (carrinho.filter fun item => !item.isCombo) ++ carrinho.filter ItemCarrinho.isCombo

/-- The view is the session, as long as nothing is assigned, and the calls made. With
`calmo` no call of the confirmation is rejected. -/
def caixa (c : Chat) (r : Nat) (calmo : Prop) :
    Contract String Ato.Res (Option Sessao × List Chamada) where
  pre
    | .ler c' r', _ => c' = c ∧ r' = r
    | .call c' _, _ => c' = c
    | .novo .., _ => False
    | _, _ => True
  post
    | .ler .., v, answer, v' => v' = v ∧ ∀ s, v.1 = some s → answer = .ok s
    | .atribuir .., v, _, v' => v' = (none, v.2)
    | .call _ chamada, v, answer, v' =>
      (v' = (v.1, v.2 ++ [chamada]) ∨ (v' = v ∧ answer ≠ .ok ())) ∧ (calmo → answer = .ok ())
    | .getConnection, v, answer, v' | .beginTransaction, v, answer, v' =>
      v' = v ∧ (calmo → answer = .ok ())
    | _, v, _, v' => v' = v

def Ato.Parado (c : Chat) (r : Nat) : Ato → Prop
  | .ler c' r' => c' = c ∧ r' = r
  | .call .. | .novo .. => False
  | _ => True

variable {c : Chat} {r : Nat} {calmo cheio : Prop} {s : Sessao} {feitas : List Chamada}

/-- The calls made since `feitas` are the first ones due, and all of them if `cheio`. -/
def Registrou (cheio : Prop) (feitas devidas : List Chamada) (v : Option Sessao × List Chamada) :
    Prop :=
  ∃ novas, v.2 = feitas ++ novas ∧ novas <+: devidas ∧ (cheio → novas = devidas)

theorem registrou_nada {devidas : List Chamada} (nunca : ¬ cheio) (w : Option Sessao) :
    Registrou cheio feitas devidas (w, feitas) :=
  ⟨[], (List.append_nil _).symm, List.nil_prefix, fun full => absurd full nunca⟩

theorem registrou_parado {α : Type} {p : Fluxo α} {devidas : List Chamada}
    {v : Option Sessao × List Chamada} (calls : Calls (Ato.Parado c r) p)
    (initial : Registrou cheio feitas devidas v) :
    Meets (caixa c r calmo) p (fun _ => Registrou cheio feitas devidas) v := by
  refine calls_frame calls (fun o v quiet kept => ?_) initial
  cases o with
  | call | novo => exact quiet.elim
  | ler => exact ⟨quiet, fun _ _ post => post.1 ▸ kept⟩
  | atribuir => exact ⟨trivial, fun _ _ post => post ▸ kept⟩
  | getConnection | beginTransaction => exact ⟨trivial, fun _ _ post => post.1 ▸ kept⟩
  | _ => exact ⟨trivial, fun _ _ post => post ▸ kept⟩

theorem registrou_itens (itens : List ItemCarrinho) (v : Option Sessao × List Chamada)
    (session : v.1 = some s) :
    Meets (caixa c r calmo) (each (registrarItem c r) itens) (fun answer v' =>
      v'.1 = some s ∧ ∃ novas, v'.2 = v.2 ++ novas ∧ novas <+: itens.map s.chamada ∧
        (answer = .ok () → novas = itens.map s.chamada) ∧ (calmo → answer = .ok ())) v := by
  induction itens generalizing v with
  | nil => exact ⟨session, [], by simp⟩
  | cons item itens ih =>
    rw [each, meets_bind, registrarItem, meets_bind]
    refine (meets_ask ..).mpr ⟨⟨rfl, rfl⟩, fun answer v' post => ?_⟩
    obtain ⟨rfl, seen⟩ := post
    rw [seen s session, then_ok]
    refine (meets_ask ..).mpr ⟨rfl, fun answer v'' post => ?_⟩
    obtain ⟨made, calm⟩ := post
    cases answer with
    | error e =>
      have rough : ¬ calmo := fun calmo => by cases calm calmo
      have failed (novas : List Chamada) : (.error e : Except String Unit) = .ok () →
          novas = (item :: itens).map s.chamada := fun done => by cases done
      rcases made with rfl | ⟨rfl, _⟩
      · refine ⟨session, [s.chamada item], rfl, ?_, failed _, fun calmo => absurd calmo rough⟩
        exact List.prefix_cons_inj _ |>.mpr List.nil_prefix
      · exact ⟨session, [], by simp, List.nil_prefix, failed _, fun calmo => absurd calmo rough⟩
    | ok _ =>
      obtain rfl := made.resolve_right fun refused => refused.2 rfl
      refine meets_mono (ih _ session) ?_
      rintro answer w ⟨same, novas, calls, first, whole, calm⟩
      refine ⟨same, s.chamada item :: novas, ?_, ?_, fun done => ?_, calm⟩
      · rw [calls, List.append_assoc]
        rfl
      · exact (List.prefix_cons_inj _).mpr first
      · rw [whole done, List.map_cons]

section Parado

theorem parado_menu : Calls (Ato.Parado c r) (showInitialMenu c r) :=
  calls_bind ((calls_ask _).mpr ⟨rfl, rfl⟩) fun _ => calls_enviarVenda (fun _ => trivial) _

theorem parado_comprovante (linhas : Nat) :
    Calls (Ato.Parado c r) (salvarComprovante c r linhas) :=
  calls_salvarComprovante ⟨rfl, rfl⟩ (fun _ _ => trivial) (fun _ _ => trivial) linhas

theorem parado_fim (linhas : Nat) : Calls (Ato.Parado c r) (do
    salvarComprovante c r linhas
    faz (.commitVenda c r)
    atualizar c r limparVenda
    faz (.answerCallbackQuery c)
    enviarVenda c "✅ *Venda finalizada com sucesso! Pedido registrado.*"
    showInitialMenu c r) := by
  refine calls_bind (parado_comprovante _) fun _ => calls_bind ((calls_ask _).mpr trivial)
    fun _ => calls_bind ?_ fun _ => calls_bind ((calls_ask _).mpr trivial) fun _ =>
      calls_bind (calls_enviarVenda (fun _ => trivial) _) fun _ => parado_menu
  exact calls_bind ((calls_ask _).mpr trivial) fun _ => (calls_ask _).mpr trivial

end Parado

variable {itens : List ItemCarrinho}

theorem registrou_carrinho (cart : s.carrinho = some itens) (calm : cheio → calmo) :
    Meets (caixa c r calmo) (registrarCarrinho c r)
      (fun _ => Registrou cheio feitas ((emOrdem itens).map s.chamada)) (some s, feitas) := by
  rw [registrarCarrinho, meets_bind]
  refine (meets_ask ..).mpr ⟨trivial, fun answer v post => ?_⟩
  obtain ⟨rfl, begun⟩ := post
  cases answer with
  | error e => exact registrou_nada (fun full => absurd (begun (calm full)) nofun) _
  | ok _ =>
    rw [then_ok, meets_bind]
    refine (meets_ask ..).mpr ⟨⟨rfl, rfl⟩, fun answer v post => ?_⟩
    obtain ⟨rfl, seen⟩ := post
    rw [seen s rfl, then_ok, cart, emOrdem, List.map_append]
    refine (meets_bind ..).mpr (meets_mono (registrou_itens _ _ rfl) ?_)
    rintro answer ⟨_, _⟩ ⟨rfl, normais, rfl, first, whole, calm'⟩
    cases answer with
    | error e =>
      exact ⟨normais, rfl, first.trans (List.prefix_append _ _), fun full =>
        absurd (calm' (calm full)) nofun⟩
    | ok _ =>
      rw [← whole rfl]
      refine (meets_bind ..).mpr (meets_mono (registrou_itens _ _ rfl) ?_)
      rintro answer ⟨_, _⟩ ⟨rfl, combos, rfl, second, whole, calm'⟩
      have made : Registrou cheio feitas
          (normais ++ (itens.filter ItemCarrinho.isCombo).map s.chamada)
          (some s, feitas ++ normais ++ combos) :=
        ⟨normais ++ combos, List.append_assoc .., (List.prefix_append_right_inj _).mpr second,
          fun full => by rw [whole (calm' (calm full))]⟩
      cases answer with
      | error e => exact made
      | ok _ => exact registrou_parado (parado_fim _) made

/-- Of a confirmation: the calls are those due for the cart, from the first on. -/
theorem registrou_confirmarPedido (cart : s.carrinho = some itens) :
    Meets (caixa c r calmo) (confirmarPedido c r)
      (fun _ => Registrou (calmo ∧ s.numeroCliente.getD [] ≠ []) feitas
        ((emOrdem itens).map s.chamada)) (some s, feitas) := by
  rw [confirmarPedido, meets_bind]
  refine (meets_ask ..).mpr ⟨⟨rfl, rfl⟩, fun answer v post => ?_⟩
  obtain ⟨rfl, seen⟩ := post
  rw [seen s rfl, then_ok]
  split
  next empty =>
    exact registrou_parado (calls_aviso (fun _ => trivial) trivial _)
      (registrou_nada (fun full => full.2 empty) _)
  next =>
    rw [meets_bind]
    refine (meets_ask ..).mpr ⟨trivial, fun answer v post => ?_⟩
    obtain ⟨rfl, connected⟩ := post
    cases answer with
    | error e => exact registrou_nada (fun full => absurd (connected full.1) nofun) _
    | ok _ =>
      rw [then_ok, meets_handle]
      have body : Meets (caixa c r calmo) (registrarCarrinho c r)
          (fun _ => Registrou (calmo ∧ s.numeroCliente.getD [] ≠ []) feitas
            ((emOrdem itens).map s.chamada)) (some s, feitas) :=
        registrou_carrinho cart And.left
      refine meets_mono body fun answer v made => ?_
      cases answer with
      | ok _ => exact made
      | error e =>
        apply registrou_parado _ made
        exact calls_bind ((calls_ask _).mpr trivial) fun _ =>
          calls_aviso (fun _ => trivial) trivial _

section Mundo

/-- The calls that one more call adds to those made for its chat. -/
def Ato.chamadas : Ato → List Chamada
  | .call _ chamada => [chamada]
  | _ => []

theorem registradas_anota {fatos : List Fato} (k : Conversa)
    (outros : ∀ fato ∈ fatos, fato.chamada = none) : (k.anota fatos).registradas = k.registradas := by
  rw [Conversa.registradas, Conversa.historia_anota, List.filterMap_append,
    List.filterMap_eq_nil_iff.mpr outros]
  rfl

theorem registradas_sem {o : Ato} (mine : o.chat = some c) (m : Mundo) :
    ((o.sem m).2.conversas c).registradas = (m.conversas c).registradas ++ o.chamadas := by
  have quiet {c' : Chat} {f : Conversa → Conversa} (mine : some c' = some c)
      (kept : ∀ k, (f k).registradas = k.registradas) :
      ((m.conversa c' f).conversas c).registradas = (m.conversas c).registradas ++ [] := by
    obtain rfl := Option.some.inj mine
    rw [Mundo.conversas_conversa, kept, List.append_nil]
  have noted {c' : Chat} {fatos : List Fato} (mine : some c' = some c)
      (outros : ∀ fato ∈ fatos, fato.chamada = none) :
      ((m.conversa c' (·.anota fatos)).conversas c).registradas =
        (m.conversas c).registradas ++ [] :=
    quiet mine fun k => registradas_anota k outros
  cases o with
  | get | ler | sendMessage | answerCallbackQuery | deleteMessage | getChatMember | getFile
  | screenshot | sendPhoto => exact (List.append_nil _).symm
  | set | delete | novo => exact quiet mine fun _ => rfl
  | atribuir c' r campos =>
    refine quiet mine fun k => registradas_anota _ fun fato member => ?_
    obtain ⟨campo, -, rfl⟩ := List.mem_map.mp (List.mem_reverse.mp member)
    rfl
  | botao | chama | commitVenda => exact noted mine (by simp [Fato.chamada])
  | updateComprovante => exact noted mine (by simp [Fato.chamada])
  | compare =>
    refine noted mine ?_
    split <;> simp [Fato.chamada]
  | query c' q =>
    rw [Ato.sem]
    split
    · exact (List.append_nil _).symm
    · refine noted mine ?_
      cases q with
      | selectLogin =>
        rw [SqlBot.fatos]
        split <;> simp [Fato.chamada]
      | updateSenha => simp [SqlBot.fatos, Fato.chamada]
      | _ => simp [SqlBot.fatos]
  | call c' chamada =>
    obtain rfl := Option.some.inj mine
    simp [Ato.sem, Ato.chamadas, Conversa.registradas, Fato.chamada]
  | _ => cases mine

structure NaCaixa (c : Chat) (r : Nat) (calmo : Prop) (m : Mundo)
    (v : Option Sessao × List Chamada) : Prop where
  registradas : (m.conversas c).registradas = v.2
  sessao : ∀ s, v.1 = some s → (m.conversas c).objetos r = s
  calmo : calmo → m.falhas = []

theorem naCaixa_sem {o : Ato} {m : Mundo} {v : Option Sessao × List Chamada}
    (seen : NaCaixa c r calmo m v) (pre : (caixa c r calmo).pre o v) :
    ∃ v', NaCaixa c r calmo (o.sem m).2 v' ∧ (caixa c r calmo).post o v (o.sem m).1 v' ∧
      (o.infalivel = false → ¬ calmo → ∀ e, (caixa c r calmo).post o v (.error e) v') := by
  have quiet (fixo : o.mudaObjeto = false) (mudo : o.chamadas = []) :
      NaCaixa c r calmo (o.sem m).2 v := by
    refine ⟨?_, fun s found => ?_, fun calm => (Ato.falhas_sem o m).trans (seen.calmo calm)⟩
    · by_cases mine : o.chat = some c
      · rw [registradas_sem mine, mudo, List.append_nil, seen.registradas]
      · rw [Ato.conversas_sem (mt Ato.chat_of_dono mine), seen.registradas]
    · rw [objetos_sem fixo, seen.sessao s found]
  cases o with
  | novo => exact pre.elim
  | ler c' r' =>
    obtain ⟨rfl, rfl⟩ := pre
    exact ⟨v, seen, ⟨rfl, fun s found => congrArg Except.ok (seen.sessao s found)⟩,
      fun fallible => nomatch fallible⟩
  | call c' chamada =>
    obtain rfl := pre
    refine ⟨(v.1, v.2 ++ [chamada]), ⟨?_, fun s found => ?_, seen.calmo⟩, ⟨.inl rfl, fun _ => rfl⟩,
      fun _ rough _ => ⟨.inl rfl, fun calm => absurd calm rough⟩⟩
    · rw [registradas_sem rfl, seen.registradas]
      rfl
    · exact (congrFun (objetos_sem rfl m) r).trans (seen.sessao s found)
  | atribuir c' r' campos =>
    refine ⟨(none, v.2), ⟨?_, by simp, seen.calmo⟩, rfl, fun fallible => nomatch fallible⟩
    by_cases mine : c' = c
    · subst mine
      rw [registradas_sem rfl, seen.registradas]
      exact List.append_nil _
    · have other : (Ato.atribuir c' r' campos).chat ≠ some c :=
        fun same => mine (Option.some.inj same)
      rw [Ato.conversas_sem (mt Ato.chat_of_dono other), seen.registradas]
  | getConnection | beginTransaction =>
    exact ⟨v, quiet rfl rfl, ⟨rfl, fun _ => rfl⟩,
      fun _ rough _ => ⟨rfl, fun calm => absurd calm rough⟩⟩
  | _ => exact ⟨v, quiet rfl rfl, rfl, fun _ _ _ => rfl⟩

theorem naCaixa_exec {o : Ato} {m : Mundo} {v : Option Sessao × List Chamada}
    (seen : NaCaixa c r calmo m v) (pre : (caixa c r calmo).pre o v) :
    ∃ v', (caixa c r calmo).post o v (o.exec m).1 v' ∧ NaCaixa c r calmo (o.exec m).2 v' := by
  by_cases calm : m.falhas = []
  · obtain ⟨v', seen', post, -⟩ := naCaixa_sem seen pre
    rw [Ato.exec_calmo o calm]
    exact ⟨v', post, seen'⟩
  have rough : ¬ calmo := mt seen.calmo calm
  have seen (falhas : List Falha) : NaCaixa c r calmo (m.comFalhas falhas) v :=
    ⟨seen.registradas, seen.sessao, fun calm => absurd calm rough⟩
  refine Ato.exec_regra (R := fun answer m' => ∃ v', (caixa c r calmo).post o v answer v' ∧
    NaCaixa c r calmo m' v') (fun falhas => ?_) (fun fixed falhas erro => ?_)
    fun fixed falhas erro => ?_
  · obtain ⟨v', seen', post, -⟩ := naCaixa_sem (seen falhas) pre
    exact ⟨v', post, seen'⟩
  · refine ⟨v, ?_, seen falhas⟩
    cases o with
    | ler | atribuir => cases fixed
    | call => exact ⟨.inr ⟨rfl, nofun⟩, fun calm => absurd calm rough⟩
    | getConnection | beginTransaction => exact ⟨rfl, fun calm => absurd calm rough⟩
    | novo => exact pre.elim
    | _ => rfl
  · obtain ⟨v', seen', -, lost⟩ := naCaixa_sem (seen falhas) pre
    exact ⟨v', lost fixed rough erro, seen'⟩

end Mundo

def LinhaCarrinho.emOrdem (linhas : List LinhaCarrinho) : List LinhaCarrinho :=
  (linhas.filter fun l => !l.item.isCombo) ++ linhas.filter (·.item.isCombo)

/-- What a confirmation of this cart tells the procedures: the quantities as they were
added, from the first line on, whatever fails on the way. -/
def RegistraFiel (linhas : List LinhaCarrinho) : Prop :=
  ∀ (m : Mundo) (c : Chat) (r : Nat),
    ((m.conversas c).objetos r).carrinho = some (linhas.map (·.item)) →
      ∃ novas : List Chamada,
        (((confirmarPedido c r).run Ato.exec m).2.conversas c).registradas =
          (m.conversas c).registradas ++ novas ∧
        novas.map (fun chamada => (chamada.produtoId, chamada.quantidade)) <+:
          (LinhaCarrinho.emOrdem linhas).map fun l =>
            (l.produto.map (·.1), (l.quantidade : ℚ))

theorem emOrdem_item (linhas : List LinhaCarrinho) :
    emOrdem (linhas.map (·.item)) = (LinhaCarrinho.emOrdem linhas).map (·.item) := by
  simp [emOrdem, LinhaCarrinho.emOrdem, List.filter_map, Function.comp_def]

theorem registradas_confirmarPedido (calmo : Prop) {m : Mundo} {itens : List ItemCarrinho}
    (cart : ((m.conversas c).objetos r).carrinho = some itens) (calm : calmo → m.falhas = []) :
    Registrou (calmo ∧ ((m.conversas c).objetos r).numeroCliente.getD [] ≠ [])
      (m.conversas c).registradas ((emOrdem itens).map ((m.conversas c).objetos r).chamada)
      (none, (((confirmarPedido c r).run Ato.exec m).2.conversas c).registradas) := by
  have start : NaCaixa c r calmo m (some ((m.conversas c).objetos r), (m.conversas c).registradas) :=
    ⟨rfl, fun s found => Option.some.inj found, calm⟩
  obtain ⟨v, ⟨novas, made, first, whole⟩, seen⟩ :=
    meets_run _ (fun _ _ _ => naCaixa_exec) (registrou_confirmarPedido cart) start
  exact ⟨novas, seen.registradas.trans made, first, whole⟩

theorem registraFiel_iff (linhas : List LinhaCarrinho) :
    RegistraFiel linhas ↔ ∀ l ∈ linhas, legivel l.medida = true := by
  have ordered (l : LinhaCarrinho) : l ∈ LinhaCarrinho.emOrdem linhas ↔ l ∈ linhas := by
    cases combo : l.item.isCombo <;> simp [LinhaCarrinho.emOrdem, combo]
  constructor
  · intro fiel l member
    let s : Sessao := { carrinho := some (linhas.map (·.item)), numeroCliente := some ['5'] }
    let m : Mundo := { conversas := fun _ => { objetos := fun _ => s } }
    obtain ⟨novas, calls, -, whole⟩ :=
      registradas_confirmarPedido (c := 0) (r := 0) (m := m) True rfl fun _ => rfl
    obtain ⟨novas', calls', first⟩ := fiel m 0 0 rfl
    obtain rfl : novas' = novas := List.append_cancel_left (calls'.symm.trans calls)
    rw [whole ⟨trivial, by simp [m, s]⟩, emOrdem_item, List.map_map, List.map_map] at first
    have same := List.map_inj_left.mp (first.eq_of_length (by simp)) l ((ordered l).mpr member)
    exact l.quantidadeDe_iff.mp (Prod.mk.inj same).2
  · intro legiveis m c r cart
    obtain ⟨novas, calls, first, -⟩ :=
      registradas_confirmarPedido False cart fun false => false.elim
    refine ⟨novas, calls, ?_⟩
    rw [emOrdem_item, List.map_map] at first
    have added : (LinhaCarrinho.emOrdem linhas).map
          (fun l => (l.produto.map (·.1), (l.quantidade : ℚ))) =
        ((LinhaCarrinho.emOrdem linhas).map
          (((m.conversas c).objetos r).chamada ∘ LinhaCarrinho.item)).map
            fun chamada => (chamada.produtoId, chamada.quantidade) := by
      rw [List.map_map]
      refine List.map_congr_left fun l member => Prod.ext rfl ?_
      exact (l.quantidadeDe_iff.mpr (legiveis l ((ordered l).mp member))).symm
    rw [added]
    exact first.map _

def capulho : LinhaCarrinho where
  produto := some (1, { nome := "Capulho", quantidade := 100, medida := "25g", valorUnitario := 5 })
  quantidade := 2
  positiva := by decide
  valorUnitario := 5

/-- Two units of 25g are registered as 225. -/
theorem duas_unidades_de_25g : ¬ RegistraFiel [capulho] := by
  intro fiel
  let s : Sessao := { carrinho := some [capulho.item], numeroCliente := some "5511999990000".toList }
  obtain ⟨novas, calls, first⟩ := fiel { conversas := fun _ => { objetos := fun _ => s } } 7 0 rfl
  have registered : novas = [⟨some "5511999990000".toList, none, none, some 1, 225⟩] :=
    calls.symm.trans (by decide +kernel)
  rw [registered] at first
  revert first
  decide +kernel

end Confirmacao
end IceClube
