import IceClube.Uso
import IceClube.Vendas

/-! What the handlers of a sale may do: the assignments of `PassoVenda`, those of the buttons
that begin or end a sale, and the calls of a confirmation. The handlers are walked through
once, with the content of the session known exactly. -/
namespace IceClube

open Coop Prog

def Etapa.deResposta : Etapa → Bool
  | criarVenda | comprovante | valorDinheiro | numeroCliente => true
  | _ => false

inductive PassoVenda (s : Sessao) : List Campo → Prop
  | nada : PassoVenda s []
  | seguido {campos : List Campo} (agora : Nat) (passo : PassoVenda s campos) :
    PassoVenda s (campos ++ [.lastUpdated agora])
  | etapa {valor : Option Etapa} (livre : valor.any Etapa.deResposta = false) :
    PassoVenda s [.etapa valor]
  | pix {metodo : Metodo} (outro : metodo ≠ .dinheiro) :
    PassoVenda s [.metodoPagamento (some metodo), .etapa (some .comprovante)]
  | dinheiro : PassoVenda s [.metodoPagamento (some .dinheiro),
      .comprovantePagamento (some .semComprovante), .etapa (some .numeroCliente)]
  | comprovante (valor : Comprovante) (pedido : s.etapa = some .comprovante) :
    PassoVenda s [.comprovantePagamento (some valor),
      .etapa (some (depoisDoComprovante s.metodoPagamento))]
  | valor (valor : ℚ) (pedido : s.etapa = some .valorDinheiro) :
    PassoVenda s [.valorDinheiro (some valor), .etapa (some .numeroCliente)]
  | numero {digitos : Texto} (valido : numeroValido digitos = true)
    (soDigitos : digitos.all Char.isDigit = true) :
    PassoVenda s [.numeroCliente (some (escaparTexto digitos))]
  | item (item : ItemCarrinho) (aberto : s.carrinho.isSome = true) : PassoVenda s [.pushItem item]
  | remover (index : Nat) : PassoVenda s [.removeItem index]
  | vendida (aberto : s.carrinho.isSome = true) : PassoVenda s limparVenda

def Combina (s : Sessao) : Fato → Prop
  | .registrou chamada =>
    chamada.numeroCliente = s.numeroCliente ∧ chamada.metodoPagamento = s.metodoPagamento ∧
      ∃ item ∈ s.carrinho.getD [],
        chamada.produtoId = item.id ∧ chamada.quantidade = quantidadeDe item
  | .comprovou imagem => s.comprovantePagamento = some (.imagem imagem)
  | _ => False

/-- Which assignments a session admits, and with which calls made it may be confirmed. -/
structure Balcao where
  admite : Sessao → List Campo → Prop
  confirma : Sessao → List Fato → Prop

namespace Balcao

/-- The view is the content of the session and the calls made since it last changed. -/
def contrato (B : Balcao) (c : Chat) (r agora : Nat) :
    Contract String Ato.Res (Sessao × List Fato) where
  pre
    | .ler c' r', _ => c' = c ∧ r' = r
    | .atribuir c' r' campos, v => c' = c ∧ r' = r ∧ campos ≠ [] ∧
      campos.all (Campo.pontual agora) = true ∧ B.admite v.1 campos
    | .query c' q, _ => c' = c ∧ q.neutra = true
    | .call c' _, _ => c' = c
    | .updateComprovante c' _ _, _ => c' = c
    | .commitVenda c' r', v => c' = c ∧ r' = r ∧ B.confirma v.1 v.2
    | .getConnection, _ | .beginTransaction, _ | .selectVendasRecentes .., _
    | .rollbackVenda, _ => True
    | o, _ => o.livre = true
  post
    | .ler .., v, answer, v' => v' = v ∧ ∀ s, answer = .ok s → s = v.1
    | .atribuir _ _ campos, v, _, v' => v' = (v.1.atribuirTodos campos, [])
    | .dateNow, v, answer, v' => v' = v ∧ ∀ t, answer = .ok t → t = agora
    | .call _ chamada, v, _, v' => v' = v ∨ v' = (v.1, .registrou chamada :: v.2)
    | .updateComprovante _ imagem _, v, _, v' => v' = v ∨ v' = (v.1, .comprovou imagem :: v.2)
    | .commitVenda .., v, _, v' => v'.1 = v.1
    | _, v, _, v' => v' = v

end Balcao

variable {B : Balcao} {c : Chat} {r agora : Nat} {α β : Type}

/-- The program keeps the contract when it starts in the view `v`. -/
def VendeEm (B : Balcao) (c : Chat) (r agora : Nat) (v : Sessao × List Fato) (f : Fluxo α) :
    Prop :=
  Meets (B.contrato c r agora) f (fun _ _ => True) v

def Vende (B : Balcao) (c : Chat) (r agora : Nat) (f : Fluxo α) : Prop :=
  ∀ v, VendeEm B c r agora v f

section Regras

variable {v : Sessao × List Fato}

theorem vende_pure (a : α) : Vende B c r agora (pure a : Fluxo α) := fun _ => trivial

theorem vende_fail (e : String) : Vende B c r agora (fail e : Fluxo α) := fun _ => trivial

theorem vendeEm_bind {f : Fluxo α} {g : α → Fluxo β} (first : VendeEm B c r agora v f)
    (rest : ∀ a, Vende B c r agora (g a)) : VendeEm B c r agora v (f >>= g) := by
  rw [VendeEm, meets_bind]
  refine meets_mono first fun answer v' _ => ?_
  cases answer with
  | ok a => exact rest a v'
  | error e => trivial

theorem vende_bind {f : Fluxo α} {g : α → Fluxo β} (first : Vende B c r agora f)
    (rest : ∀ a, Vende B c r agora (g a)) : Vende B c r agora (f >>= g) :=
  fun v => vendeEm_bind (first v) rest

theorem vendeEm_handle {f : Fluxo α} {h : String → Fluxo α} (body : VendeEm B c r agora v f)
    (handler : ∀ e, Vende B c r agora (h e)) : VendeEm B c r agora v (f.handle h) := by
  rw [VendeEm, meets_handle]
  refine meets_mono body fun answer v' _ => ?_
  cases answer with
  | ok a => trivial
  | error e => exact handler e v'

theorem vende_handle {f : Fluxo α} {h : String → Fluxo α} (body : Vende B c r agora f)
    (handler : ∀ e, Vende B c r agora (h e)) : Vende B c r agora (f.handle h) :=
  fun v => vendeEm_handle (body v) handler

theorem vende_ite {b : Prop} [Decidable b] {f g : Fluxo α} (sim : b → Vende B c r agora f)
    (nao : ¬ b → Vende B c r agora g) : Vende B c r agora (if b then f else g) := by
  split
  · exact sim ‹_›
  · exact nao ‹_›

theorem vendeEm_ite {b : Prop} [Decidable b] {f g : Fluxo α}
    (sim : b → VendeEm B c r agora v f) (nao : ¬ b → VendeEm B c r agora v g) :
    VendeEm B c r agora v (if b then f else g) := by
  split
  · exact sim ‹_›
  · exact nao ‹_›

theorem vende_each {f : β → Fluxo Unit} {xs : List β} (turn : ∀ x, Vende B c r agora (f x)) :
    Vende B c r agora (each f xs) := by
  induction xs with
  | nil => exact vende_pure ()
  | cons x xs ih => exact vende_bind (turn x) fun _ => ih

theorem vendeEm_livre {o : Ato} {g : o.Res → Fluxo β} (livre : o.livre = true)
    (rest : ∀ a, VendeEm B c r agora v (g a)) : VendeEm B c r agora v (faz o >>= g) := by
  rw [VendeEm, meets_bind]
  have stays : ∀ answer, Then (B.contrato c r agora) g (fun _ _ => True) answer v := by
    intro answer
    cases answer with
    | ok a => exact rest a
    | error e => trivial
  cases o with
  | dateNow =>
    exact (meets_ask ..).mpr ⟨rfl, fun answer v' post => post.1 ▸ stays answer⟩
  | get | set | delete | novo | ler | atribuir | botao | chama | compare | query | getConnection
  | beginTransaction | call | selectVendasRecentes | updateComprovante | commitVenda
  | rollbackVenda => simp [Ato.livre] at livre
  | _ => exact (meets_ask ..).mpr ⟨rfl, fun answer v' same => same ▸ stays answer⟩

theorem vendeEm_consulta {q : SqlBot} {g : q.Res → Fluxo β} (neutra : q.neutra = true)
    (rest : ∀ a, VendeEm B c r agora v (g a)) : VendeEm B c r agora v (consulta c q >>= g) := by
  rw [VendeEm, meets_bind]
  refine (meets_ask ..).mpr ⟨⟨rfl, neutra⟩, fun answer v' same => ?_⟩
  cases same
  cases answer with
  | ok a => exact rest a
  | error e => trivial

theorem vendeEm_ler {g : Sessao → Fluxo β} (rest : VendeEm B c r agora v (g v.1)) :
    VendeEm B c r agora v (faz (.ler c r) >>= g) := by
  rw [VendeEm, meets_bind]
  refine (meets_ask ..).mpr ⟨⟨rfl, rfl⟩, fun answer v' post => ?_⟩
  obtain ⟨rfl, seen⟩ := post
  cases answer with
  | ok s => exact seen s rfl ▸ rest
  | error e => trivial

theorem vendeEm_dateNow {g : Nat → Fluxo β} (rest : VendeEm B c r agora v (g agora)) :
    VendeEm B c r agora v (faz .dateNow >>= g) := by
  rw [VendeEm, meets_bind]
  refine (meets_ask ..).mpr ⟨rfl, fun answer v' post => ?_⟩
  obtain ⟨rfl, now⟩ := post
  cases answer with
  | ok t => exact now t rfl ▸ rest
  | error e => trivial

theorem vendeEm_atribuir {campos : List Campo} {g : Unit → Fluxo β} (algum : campos ≠ [])
    (pontual : campos.all (Campo.pontual agora) = true) (admite : B.admite v.1 campos)
    (rest : VendeEm B c r agora (v.1.atribuirTodos campos, []) (g ())) :
    VendeEm B c r agora v (faz (.atribuir c r campos) >>= g) := by
  rw [VendeEm, meets_bind]
  refine (meets_ask ..).mpr ⟨⟨rfl, rfl, algum, pontual, admite⟩, fun answer v' post => ?_⟩
  cases post
  cases answer with
  | ok _ => exact rest
  | error e => trivial

theorem vende_livre {o : Ato} {g : o.Res → Fluxo β} (livre : o.livre = true)
    (rest : ∀ a, Vende B c r agora (g a)) : Vende B c r agora (faz o >>= g) :=
  fun v => vendeEm_livre livre fun a => rest a v

theorem vende_consulta {q : SqlBot} {g : q.Res → Fluxo β} (neutra : q.neutra = true)
    (rest : ∀ a, Vende B c r agora (g a)) : Vende B c r agora (consulta c q >>= g) :=
  fun v => vendeEm_consulta neutra fun a => rest a v

theorem vende_ler {g : Sessao → Fluxo β} (rest : ∀ s, Vende B c r agora (g s)) :
    Vende B c r agora (faz (.ler c r) >>= g) :=
  fun v => vendeEm_ler (rest v.1 v)

theorem vendeEm_atualizar {campos : List Campo}
    (pontual : campos.all (Campo.pontual agora) = true)
    (admite : B.admite v.1 (campos ++ [.lastUpdated agora])) :
    VendeEm B c r agora v (atualizar c r campos) := by
  have marca : (campos ++ [Campo.lastUpdated agora]).all (Campo.pontual agora) = true := by
    simp [pontual, Campo.pontual]
  refine vendeEm_dateNow ((meets_ask ..).mpr ⟨⟨rfl, rfl, by simp, marca, admite⟩, ?_⟩)
  exact fun _ _ _ => trivial

end Regras

section Percurso

variable (livre : ∀ s campos, PassoVenda s campos → B.admite s campos)

theorem vende_enviar (mensagem : String) : Vende B c r agora (enviarVenda c mensagem) :=
  vende_handle (vende_livre rfl fun _ => vende_pure ()) fun _ => vende_pure ()

theorem vende_menu : Vende B c r agora (showInitialMenu c r) :=
  vende_ler fun _ => vende_enviar _

theorem vende_acaoInvalida : Vende B c r agora (acaoInvalida c) :=
  vende_livre rfl fun _ => vende_enviar _

include livre

theorem vende_atualizar {campos : List Campo} (pontual : campos.all (Campo.pontual agora) = true)
    (passo : ∀ s, PassoVenda s campos) :
    Vende B c r agora (atualizar c r campos) :=
  fun v => vendeEm_atualizar pontual (livre _ _ ((passo v.1).seguido agora))

theorem vende_etapa {valor : Option Etapa} (fora : valor.any Etapa.deResposta = false) :
    Vende B c r agora (atualizar c r [.etapa valor]) :=
  vende_atualizar livre rfl fun _ => .etapa fora

theorem vende_tempo : Vende B c r agora (atualizar c r []) :=
  vende_atualizar livre rfl fun _ => .nada

theorem vende_fim : Vende B c r agora (do
    faz (.atribuir c r [.etapa none])
    showInitialMenu c r) :=
  fun v => vendeEm_atribuir (by simp) rfl (livre _ _ (.etapa rfl)) (vende_menu _)

section Botoes

theorem vende_adicionarItens : Vende B c r agora (adicionarItens c r) :=
  vende_bind (vende_etapa livre rfl) fun _ => vende_livre rfl fun _ => vende_enviar _

theorem vende_finalizar : Vende B c r agora (finalizar c r) :=
  vende_ler fun _ => vende_ite (fun _ => vende_livre rfl fun _ => vende_enviar _)
    fun _ => vende_bind (vende_etapa livre rfl) fun _ => vende_livre rfl fun _ => vende_enviar _

theorem vende_pagarComPix {metodo : Metodo} (outro : metodo ≠ .dinheiro) :
    Vende B c r agora (pagarComPix c r metodo) :=
  vende_bind (vende_atualizar livre rfl fun _ => .pix outro) fun _ => vende_consulta rfl fun _ =>
    vende_livre rfl fun _ => vende_enviar _

theorem vende_pagarComDinheiro : Vende B c r agora (pagarComDinheiro c r) :=
  vende_bind (vende_atualizar livre rfl fun _ => .dinheiro) fun _ =>
    vende_livre rfl fun _ => vende_enviar _

omit livre in
theorem vende_nomeDoProduto (id : Nat) : Vende B c r agora (nomeDoProduto c id) := by
  refine vende_bind (fun _ => (meets_ask ..).mpr ⟨⟨rfl, rfl⟩, fun _ _ _ => trivial⟩) fun nome => ?_
  cases nome with
  | none => exact vende_fail _
  | some nome => exact vende_pure ()

omit livre in
theorem vende_gerarListaImagem : Vende B c r agora (gerarListaImagem c) := by
  refine vende_handle ?_ fun _ => vende_livre rfl fun _ => vende_pure false
  refine vende_consulta rfl fun _ => vende_consulta rfl fun _ =>
    vende_bind (vende_each fun _ => vende_consulta rfl fun _ => vende_pure ()) fun _ => ?_
  refine vende_bind (vende_each fun _ => vende_bind (vende_nomeDoProduto _) fun _ =>
    vende_nomeDoProduto _) fun _ => ?_
  exact vende_livre rfl fun _ => vende_livre rfl fun _ => vende_pure true

theorem vende_listaDeVendas : Vende B c r agora (listaDeVendas c r) :=
  vende_livre rfl fun _ => vende_bind vende_gerarListaImagem fun _ =>
    vende_ite (fun _ => vende_fim livre) fun _ => vende_acaoInvalida

omit livre in
theorem vende_mostrarQrCode (pix qrcode : String) :
    Vende B c r agora (mostrarQrCode c pix qrcode) := by
  refine vende_handle ?_ fun _ => vende_enviar _
  split
  · exact vende_fail _
  · exact vende_fail _
  · exact fun _ => (meets_ask ..).mpr ⟨rfl, fun _ _ _ => trivial⟩

theorem vende_mostrarLaranja : Vende B c r agora (mostrarLaranja c r) := by
  refine vende_consulta rfl fun laranja => ?_
  cases laranja with
  | none => exact vende_livre rfl fun _ => vende_enviar _
  | some laranja =>
    refine vende_livre rfl fun _ => vende_bind ?_ fun _ => vende_fim livre
    cases laranja.qrcode with
    | none => exact vende_enviar _
    | some qrcode => exact vende_ite (fun _ => vende_enviar _) fun _ => vende_mostrarQrCode _ _

theorem vende_pedirInfo : Vende B c r agora (pedirInfo c r) :=
  vende_bind (vende_etapa livre rfl) fun _ => vende_livre rfl fun _ => vende_enviar _

end Botoes

section Confirmacao

omit livre

/-- The session is still `s` and the calls made so far come from it. -/
def Combinada (s : Sessao) (v : Sessao × List Fato) : Prop :=
  v.1 = s ∧ ∀ fato ∈ v.2, Combina s fato

variable {s : Sessao} {v : Sessao × List Fato} (combinada : Combinada s v)

theorem confirmacao_bind {f : Fluxo α} {g : α → Fluxo β}
    (first : Meets (B.contrato c r agora) f (fun _ => Combinada s) v)
    (rest : ∀ a v', Combinada s v' → VendeEm B c r agora v' (g a)) :
    VendeEm B c r agora v (f >>= g) := by
  rw [VendeEm, meets_bind]
  refine meets_mono first fun answer v' kept => ?_
  cases answer with
  | ok a => exact rest a v' kept
  | error e => trivial

include combinada

theorem confirmacao_registrar {item : ItemCarrinho} (member : item ∈ s.carrinho.getD []) :
    Meets (B.contrato c r agora) (registrarItem c r item) (fun _ => Combinada s) v := by
  obtain ⟨rfl, all⟩ := combinada
  rw [registrarItem, meets_bind]
  refine (meets_ask ..).mpr ⟨⟨rfl, rfl⟩, fun answer v' post => ?_⟩
  obtain ⟨rfl, seen⟩ := post
  cases answer with
  | error e => exact ⟨rfl, all⟩
  | ok s' =>
    cases seen s' rfl
    refine (meets_ask ..).mpr ⟨rfl, fun answer v'' made => ?_⟩
    rcases made with rfl | rfl
    · exact ⟨rfl, all⟩
    · exact ⟨rfl, List.forall_mem_cons.mpr ⟨⟨rfl, rfl, item, member, rfl, rfl⟩, all⟩⟩

theorem confirmacao_itens {itens : List ItemCarrinho}
    (members : ∀ item ∈ itens, item ∈ s.carrinho.getD []) :
    Meets (B.contrato c r agora) (each (registrarItem c r) itens) (fun _ => Combinada s) v :=
  meets_each (J := Combinada s) (fun item member _ kept =>
    confirmacao_registrar kept (members item member)) v combinada

theorem confirmacao_comprovante (linhas : Nat) :
    Meets (B.contrato c r agora) (salvarComprovante c r linhas) (fun _ => Combinada s) v := by
  obtain ⟨rfl, all⟩ := combinada
  rw [salvarComprovante, meets_bind]
  refine (meets_ask ..).mpr ⟨⟨rfl, rfl⟩, fun answer v' post => ?_⟩
  obtain ⟨rfl, seen⟩ := post
  cases answer with
  | error e => exact ⟨rfl, all⟩
  | ok s' =>
    cases seen s' rfl
    rw [then_ok]
    split
    next imagem found =>
      split
      · exact ⟨rfl, all⟩
      rw [meets_bind]
      refine (meets_ask ..).mpr ⟨trivial, fun answer v'' same => ?_⟩
      cases same
      cases answer with
      | error e => exact ⟨rfl, all⟩
      | ok vendas =>
        refine meets_each (J := Combinada v'.1) (fun venda _ w kept => ?_) _ ⟨rfl, all⟩
        refine (meets_ask ..).mpr ⟨rfl, fun answer w' made => ?_⟩
        rcases made with rfl | rfl
        · exact kept
        · exact ⟨kept.1, List.forall_mem_cons.mpr ⟨found, kept.2⟩⟩
    next => exact ⟨rfl, all⟩

include livre

theorem vendeEm_registrarCarrinho
    (confirma : s.carrinho.isSome = true → ∀ feitas, (∀ fato ∈ feitas, Combina s fato) →
      B.confirma s feitas) : VendeEm B c r agora v (registrarCarrinho c r) := by
  rw [VendeEm, registrarCarrinho, meets_bind]
  refine (meets_ask ..).mpr ⟨trivial, fun answer v same => ?_⟩
  cases same
  cases answer with
  | error e => trivial
  | ok _ =>
    refine vendeEm_ler ?_
    obtain ⟨rfl, all⟩ := combinada
    cases found : v.1.carrinho with
    | none => exact vende_fail _ _
    | some carrinho =>
      have aberto : v.1.carrinho.isSome = true := by rw [found]; rfl
      have doCarrinho (b : ItemCarrinho → Bool) :
          ∀ item ∈ carrinho.filter b, item ∈ v.1.carrinho.getD [] := by
        intro item member
        rw [found]
        exact (List.mem_filter.mp member).1
      refine confirmacao_bind
        (confirmacao_itens ⟨rfl, all⟩ (doCarrinho _)) fun _ w kept => ?_
      refine confirmacao_bind (confirmacao_itens kept (doCarrinho _)) fun _ w kept => ?_
      refine confirmacao_bind (confirmacao_comprovante kept _) fun _ w kept => ?_
      rw [VendeEm, meets_bind]
      refine (meets_ask ..).mpr
        ⟨⟨rfl, rfl, kept.1 ▸ confirma aberto w.2 kept.2⟩, fun answer w' same => ?_⟩
      cases answer with
      | error e => trivial
      | ok _ =>
        refine vendeEm_bind (vendeEm_atualizar rfl (livre _ _ (.seguido agora (.vendida ?_))))
          fun _ => vende_livre rfl fun _ => vende_bind (vende_enviar _) fun _ => vende_menu
        rw [same, kept.1]
        exact aberto

end Confirmacao

section Callbacks

variable {s : Sessao}

/-- What the buttons that begin, end or confirm a sale need from the session. -/
structure Balcao.Aceita (B : Balcao) (s : Sessao) (data : Texto) (agora : Nat) : Prop where
  criar : data = "criar_venda".toList →
    B.admite s [.carrinho [], .etapa (some .criarVenda), .lastUpdated agora]
  cancelar : data = "cancelar".toList → B.admite s (abandonarVenda ++ [.lastUpdated agora])
  sair : data = "sair".toList → B.admite s (deixarSetor ++ [.lastUpdated agora])
  confirmar : data = "confirmar_pedido".toList → s.numeroCliente.getD [] ≠ [] →
    s.carrinho.isSome = true → ∀ feitas, (∀ fato ∈ feitas, Combina s fato) →
      B.confirma s feitas

theorem vendeEm_confirmarPedido
    (confirma : s.numeroCliente.getD [] ≠ [] → s.carrinho.isSome = true → ∀ feitas,
      (∀ fato ∈ feitas, Combina s fato) → B.confirma s feitas) :
    VendeEm B c r agora (s, []) (confirmarPedido c r) := by
  refine vendeEm_ler (vendeEm_ite (fun _ => ?_) fun numero => ?_)
  · exact vendeEm_livre rfl fun _ => vende_enviar _ _
  rw [VendeEm, meets_bind]
  refine (meets_ask ..).mpr ⟨trivial, fun answer v same => ?_⟩
  cases same
  cases answer with
  | error e => trivial
  | ok _ =>
    refine vendeEm_handle (vendeEm_registrarCarrinho livre ⟨rfl, by simp⟩ (confirma numero))
      fun _ v => ?_
    rw [VendeEm, meets_bind]
    refine (meets_ask ..).mpr ⟨trivial, fun answer v same => ?_⟩
    cases answer with
    | error e => trivial
    | ok _ => exact vende_livre rfl (fun _ => vende_enviar _) _

/-- Every button of the sector. -/
theorem vendeEm_handleCallbacks {data : Texto} (aceita : B.Aceita s data agora) :
    VendeEm B c r agora (s, []) (handleCallbacks c r data) := by
  refine vendeEm_handle ?_ fun _ => vende_livre rfl fun _ => vende_enviar _
  refine vendeEm_ite (fun botao => ?_) fun _ => ?_
  · exact vendeEm_bind (vendeEm_atualizar rfl (aceita.criar botao)) fun _ =>
      vende_livre rfl fun _ => vende_ler fun _ => vende_enviar _
  refine vendeEm_ite (fun _ => vende_adicionarItens livre _) fun _ => ?_
  refine vendeEm_ite (fun _ => vende_finalizar livre _) fun _ => ?_
  refine vendeEm_ite (fun botao => ?_) fun _ => ?_
  · exact vendeEm_bind (vendeEm_atualizar rfl (aceita.cancelar botao)) fun _ =>
      vende_livre rfl fun _ => vende_menu
  refine vendeEm_ite (fun _ => vende_pagarComPix livre (by decide) _) fun _ => ?_
  refine vendeEm_ite (fun _ => vende_pagarComDinheiro livre _) fun _ => ?_
  refine vendeEm_ite (fun _ => vende_pagarComPix livre (by decide) _) fun _ => ?_
  refine vendeEm_ite (fun botao => vendeEm_confirmarPedido livre (aceita.confirmar botao))
    fun _ => ?_
  refine vendeEm_ite (fun _ => vende_listaDeVendas livre _) fun _ => ?_
  refine vendeEm_ite (fun _ => vende_mostrarLaranja livre _) fun _ => ?_
  refine vendeEm_ite (fun _ => vende_pedirInfo livre _) fun _ => ?_
  refine vendeEm_ite (fun botao => ?_) fun _ => vende_acaoInvalida _
  exact vendeEm_bind (vendeEm_atualizar rfl (aceita.sair botao)) fun _ => vende_livre rfl fun _ =>
    vende_bind (vende_enviar _) fun _ => vende_acaoInvalida

end Callbacks

section Textos

omit livre in
theorem vende_secoes (categorias : List Categoria) : Vende B c r agora (secoes c categorias) := by
  induction categorias with
  | nil => exact vende_pure ""
  | cons categoria categorias ih =>
    exact vende_consulta rfl fun _ => vende_bind ih fun _ => vende_pure _

theorem vende_recomecar : Vende B c r agora (recomecar c r) :=
  vende_bind (vende_etapa livre rfl) fun _ => vende_menu

theorem vende_produto : Vende B c r agora (produto c r) :=
  vende_consulta rfl fun _ => vende_bind (vende_secoes _) fun _ =>
    vende_bind (vende_enviar _) fun _ => vende_recomecar livre

theorem vende_verCarrinho : Vende B c r agora (verCarrinho c r) :=
  vende_ler fun _ => vende_ite
    (fun _ => vende_bind (vende_enviar _) fun _ => vende_recomecar livre)
    fun _ => vende_bind (vende_enviar _) fun _ => vende_tempo livre

theorem vende_removerItem (texto : Texto) : Vende B c r agora (removerItem c r texto) := by
  refine vende_ler fun s => ?_
  split
  · exact vende_fail _
  split
  · exact vende_bind (vende_enviar _) fun _ => vende_recomecar livre
  · exact vende_bind (vende_atualizar livre rfl fun _ => .remover _) fun _ =>
      vende_bind (vende_enviar _) fun _ => vende_fim livre

theorem vende_guardarItem (item : ItemCarrinho) : Vende B c r agora (guardarItem c r item) := by
  refine fun v => vendeEm_ler (vendeEm_ite (fun _ => vende_fail _ v) fun aberto => ?_)
  refine (meets_ask ..).mpr ⟨⟨rfl, rfl, by simp, rfl, livre _ _ (.item item ?_)⟩, fun _ _ _ => trivial⟩
  exact Option.ne_none_iff_isSome.mp (by simpa using aberto)

theorem vende_adicionarCombo (texto : Texto) : Vende B c r agora (adicionarCombo c r texto) := by
  unfold adicionarCombo
  split
  · exact vende_bind (vende_enviar _) fun _ => vende_tempo livre
  · exact vende_enviar _
  · exact vende_consulta rfl fun _ => vende_ite (fun _ => vende_enviar _) fun _ =>
      vende_consulta rfl fun _ => vende_bind (vende_guardarItem livre _) fun _ =>
        vende_bind (vende_enviar _) fun _ => vende_tempo livre

theorem vende_adicionarProduto (id : Nat) (produto : Estoque) (quantidade : Nat)
    (nome : String) : Vende B c r agora (adicionarProduto c r id produto quantidade nome) := by
  refine vende_consulta rfl fun preco => ?_
  cases preco with
  | none => exact vende_enviar _
  | some valor =>
    exact vende_bind (vende_guardarItem livre _) fun _ =>
      vende_bind (vende_enviar _) fun _ => vende_tempo livre

theorem vende_adicionarItem (texto : Texto) : Vende B c r agora (adicionarItem c r texto) := by
  unfold adicionarItem
  split
  · exact vende_bind (vende_enviar _) fun _ => vende_tempo livre
  refine vende_ite (fun _ => vende_bind (vende_enviar _) fun _ => vende_tempo livre) fun _ =>
    vende_consulta rfl fun found => ?_
  cases found with
  | none => exact vende_consulta rfl fun _ => vende_enviar _
  | some produto =>
    exact vende_ite (fun _ => vende_enviar _) fun _ => vende_adicionarProduto livre _ _ _ _

theorem vende_textoDeItens (texto : Texto) : Vende B c r agora (textoDeItens c r texto) :=
  vende_ite (fun _ => vende_verCarrinho livre) fun _ =>
    vende_ite (fun _ => vende_removerItem livre texto) fun _ =>
      vende_ite (fun _ => vende_adicionarCombo livre texto) fun _ =>
        vende_adicionarItem livre texto

variable {v : Sessao × List Fato}

theorem vendeEm_receberComprovante (pedido : v.1.etapa = some .comprovante)
    (comprovante : Comprovante) :
    VendeEm B c r agora v (receberComprovante c r comprovante) :=
  vendeEm_ler (vendeEm_bind
    (vendeEm_atualizar rfl (livre _ _ (.seguido agora (.comprovante comprovante pedido))))
    fun _ => vende_enviar _)

theorem vendeEm_textoDeComprovante (pedido : v.1.etapa = some .comprovante) (texto : Texto)
    (foto : Bool) : VendeEm B c r agora v (textoDeComprovante c r texto foto) := by
  refine vendeEm_ite (fun _ => vendeEm_receberComprovante livre pedido _) fun _ =>
    vendeEm_ite (fun _ => ?_) fun _ =>
      vende_bind (vende_enviar _) (fun _ => vende_tempo livre) v
  refine vendeEm_handle ?_ fun _ => vende_bind (vende_enviar _) fun _ => vende_tempo livre
  exact vendeEm_livre rfl fun _ => vendeEm_ite (fun _ => vende_fail _ v) fun _ =>
    vendeEm_receberComprovante livre pedido _

theorem vendeEm_textoDeValor (pedido : v.1.etapa = some .valorDinheiro) (texto : Texto) :
    VendeEm B c r agora v (textoDeValor c r texto) := by
  unfold textoDeValor
  split
  · exact vende_bind (vende_enviar _) (fun _ => vende_tempo livre) v
  · exact vendeEm_bind (vendeEm_atualizar rfl (livre _ _ (.seguido agora (.valor _ pedido))))
      fun _ => vende_enviar _

omit livre in
theorem vende_resumo : Vende B c r agora (resumo c r) := by
  refine vende_ler fun s => ?_
  cases s.carrinho with
  | none => exact vende_fail _
  | some carrinho =>
    refine vende_bind ?_ fun _ => vende_enviar _
    cases linhaDeDinheiro s with
    | ok dinheiro => exact vende_pure dinheiro
    | error e => exact vende_fail e

theorem vende_textoDeNumero (texto : Texto) : Vende B c r agora (textoDeNumero c r texto) := by
  refine vende_ite (fun _ => vende_bind (vende_enviar _) fun _ => vende_tempo livre)
    fun valido => vende_bind (vende_atualizar livre rfl fun _ => .numero ?_ ?_) fun _ => vende_resumo
  · simpa using valido
  · simp [Texto.digitos]

theorem vende_textoDeInfo (texto : Texto) : Vende B c r agora (textoDeInfo c r texto) := by
  refine vende_consulta rfl fun found => ?_
  cases found <;> exact vende_bind (vende_enviar _) fun _ => vende_recomecar livre

theorem vendeEm_textoDaEtapa (texto : Texto) (foto : Bool) :
    VendeEm B c r agora v (textoDaEtapa c r v.1.etapa texto foto) := by
  unfold textoDaEtapa
  split
  · exact vende_textoDeItens livre texto v
  next pedido => exact vendeEm_textoDeComprovante livre pedido texto foto
  next pedido => exact vendeEm_textoDeValor livre pedido texto
  · exact vende_textoDeNumero livre texto v
  · exact vende_textoDeInfo livre texto v
  · exact vende_recomecar livre v

/-- Every text and photo of the sector. A session that was just updated has not expired. -/
theorem vendeEm_handleSales {s : Sessao} {texto : Texto} {foto : Bool}
    (expirada : vendaExpirada s agora = true →
      B.admite s (abandonarVenda ++ [.lastUpdated agora]))
    (sair : Texto.toLowerCase texto = "sair".toList →
      B.admite s (deixarSetor ++ [.lastUpdated agora])) :
    VendeEm B c r agora (s, []) (handleSales c r texto foto) := by
  refine vendeEm_ler (vendeEm_dateNow (vendeEm_ite (fun velha => ?_) fun _ =>
    vendeEm_ite (fun comando => ?_) fun _ => vendeEm_ite (fun _ => vende_produto livre _) fun _ =>
      vendeEm_textoDaEtapa livre texto foto))
  · exact vendeEm_bind (vendeEm_atualizar rfl (expirada velha)) fun _ =>
      vende_bind (vende_enviar _) fun _ => vende_menu
  · exact vendeEm_bind (vendeEm_atualizar rfl (sair comando)) fun _ =>
      vende_bind (vende_enviar _) fun _ => vende_menu

end Textos
end Percurso
end IceClube
