import IceClube.Chatbot
import IceClube.Uso

/-! The walk through the courier's handlers: which statements each of them may send, and
that it stores and assigns to no object but the ones it was given or found. -/
namespace IceClube

open Coop Prog

variable {P : Type} {U : Uso P} {c : Chat} {p : P} {r : Nat} {enviar : String → Fluxo Unit}

section OrganizarRota

theorem usa_geocodeAddress (address : String) : Usa U c p (geocodeAddress address) :=
  usa_segue rfl fun _ => usa_handle (usa_livre rfl) fun _ => usa_pure false

variable (env : ∀ t, Usa U c p (enviar t))
include env

theorem usa_calculateDistance (origem destino : String) :
    Usa U c p (calculateDistance enviar origem destino) := by
  have tentar (restantes : Nat) : Usa U c p (tentarDistancia enviar origem destino restantes) := by
    induction restantes with
    | zero => exact usa_pure none
    | succ restantes ih =>
      refine usa_handle (usa_segue rfl fun resposta => ?_) fun _ => usa_ite ?_ ?_
      · cases resposta with
        | none => exact usa_fail _
        | some distancia => exact usa_pure _
      · exact fun _ => usa_bind (env _) fun _ => usa_pure none
      · exact fun _ => usa_segue rfl fun _ => ih
  exact usa_segue rfl fun _ => tentar 3

theorem usa_maisProxima (currentAddress : String) (locs : List (Parada × Nat))
    (nearest : Option (Nat × Parada × ℚ)) :
    Usa U c p (maisProxima enviar currentAddress locs nearest) := by
  induction locs generalizing nearest with
  | nil => exact usa_pure nearest
  | cons loc locs ih => exact usa_bind (usa_calculateDistance env _ _) fun _ => ih _

theorem usa_rotaOtimizada (voltas : Nat) (currentAddress : String) (unvisited : List Parada) :
    Usa U c p (rotaOtimizada enviar voltas currentAddress unvisited) := by
  induction voltas generalizing currentAddress unvisited with
  | zero => exact usa_pure []
  | succ voltas ih =>
    refine usa_bind (usa_maisProxima env _ _ _) fun nearest => ?_
    cases nearest with
    | none => exact usa_pure []
    | some found => exact usa_bind (ih _ _) fun _ => usa_pure _

variable (bom : U.bom p r)
include bom

theorem usa_semPedidos {campos : List Campo} (campo : campos.all Campo.doPainel = true) :
    Usa U c p (semPedidos c r enviar campos) :=
  usa_guardar bom campo fun _ => env _

theorem usa_organizarRota : Usa U c p (organizarRota c r enviar) := by
  refine usa_ler bom fun s _ => usa_consulta rfl fun _ => usa_consulta rfl fun _ => usa_ite ?_ ?_
  · exact fun _ => usa_bind (env _) fun _ => usa_guardado bom rfl
  · refine fun _ => usa_guardar bom rfl fun _ => usa_handle ?_ fun _ =>
      usa_guardar bom rfl fun _ => env _
    exact usa_ler bom fun s _ => usa_consulta rfl fun _ =>
      usa_ite (fun _ => usa_semPedidos env bom rfl) fun _ => env _

theorem usa_finalizarRotaSalva : Usa U c p (finalizarRotaSalva c r enviar) :=
  usa_segue rfl fun _ => usa_ler bom fun _ _ => usa_consulta rfl fun _ =>
    usa_guardar bom rfl fun _ => env _

theorem usa_cancelarRota : Usa U c p (cancelarRota c r enviar) := by
  refine usa_segue rfl fun _ => usa_handle ?_ fun _ => usa_consulta rfl fun _ => env _
  exact usa_consulta rfl fun _ => usa_ler bom fun _ _ => usa_consulta rfl fun _ =>
    usa_consulta rfl fun _ => usa_guardar bom rfl fun _ => env _

theorem usa_pontoInicial (text : Texto) : Usa U c p (pontoInicial c r enviar text) := by
  refine usa_handle (usa_ite (fun _ => ?_) fun _ => env _) fun _ => env _
  refine usa_bind (usa_geocodeAddress _) fun _ => usa_ite (fun _ => env _) fun _ => ?_
  exact usa_guardar bom rfl fun _ => usa_ler bom fun _ _ => usa_consulta rfl fun _ =>
    usa_ite (fun _ => usa_semPedidos env bom rfl) fun _ => env _

theorem usa_editarEnderecoTexto (text : Texto) {pedidoId : IdSql}
    (grava : ∀ q, SqlBot.DaEntrega pedidoId q → U.grava p q) :
    Usa U c p (editarEnderecoTexto c r enviar text pedidoId) := by
  refine usa_handle (usa_ite (fun _ => ?_) fun _ => env _) fun _ => env _
  refine usa_bind (usa_geocodeAddress _) fun _ => usa_ite
    (fun _ => usa_escrita (grava _ rfl) fun _ => env _) fun _ =>
    usa_escrita (grava _ rfl) fun _ => usa_bind (env _) fun _ => ?_
  exact usa_ler bom fun _ _ => usa_consulta rfl fun _ =>
    usa_ite (fun _ => usa_semPedidos env bom rfl) fun _ =>
      usa_bind (env _) fun _ => usa_guardado bom rfl

end OrganizarRota

section SessaoAtual

variable {w : Option Sessao}

/-- A text or button that writes the delivery named by the session. -/
def gravaSessao (e : Entrada) (s : Sessao) : Bool :=
  match s.etapa with
  | some .falhaJustificativa => e.data.any fun t => Texto.startsWith t "justificativa_".toList
  | some .editarEnderecoTexto => e.text.any fun t => t ≠ []
  | _ => false

/-- What a handler of `e` may write, given what the session shows when it starts. -/
def Uso.Concede (U : Uso P) (p : P) (w : Option Sessao) (e : Entrada) : Prop :=
  ∀ s, U.viu p s → (∀ s', w = some s' → s = s') → gravaSessao e s = true →
    ∀ q, SqlBot.DaEntrega s.pedidoId q → U.grava p q

variable (env : ∀ t, Usa U c p (enviar t)) {e : Entrada} (concede : U.Concede p w e)
include env concede

theorem usaEm_organizarSessao (bom : U.bom p r) :
    UsaEm U c p w (organizarSessao c r enviar e) := by
  refine usaEm_consulta rfl fun _ => ?_
  split
  · exact usa_bind (usa_organizarRota env bom) (fun _ => usa_pure true) w
  split
  · exact usa_bind (usa_finalizarRotaSalva env bom) (fun _ => usa_pure true) w
  split
  · exact usa_bind (usa_cancelarRota env bom) (fun _ => usa_pure true) w
  refine usaEm_ler bom fun s seen same => ?_
  split
  next text _ _ =>
    exact usa_ite (fun _ => usa_pure false) (fun _ =>
      usa_bind (usa_pontoInicial env bom text) fun _ => usa_pure true) w
  next text etapa texto =>
    refine usa_ite (fun _ => usa_pure false) (fun algum => usa_bind
      (usa_editarEnderecoTexto env bom text (concede s seen same ?_)) fun _ => usa_pure true) w
    simp [gravaSessao, etapa, texto, algum]
  next => exact usa_pure false w

theorem usaEm_tratarOrganizarRota : UsaEm U c p w (tratarOrganizarRota c enviar e) :=
  usaEm_get (fun _ => usa_consulta rfl (fun _ => usa_fail _) w)
    fun _ bom => usaEm_organizarSessao env concede bom

end SessaoAtual

section Callback

variable (env : ∀ t, Usa U c p (enviar t)) (bom : U.bom p r)
include env bom

theorem usa_selecionarPedido (data : Texto) : Usa U c p (selecionarPedido c r enviar data) :=
  usa_segue rfl fun _ => usa_guardar bom rfl fun _ => usa_consulta rfl fun _ => env _

theorem usa_listarParaEdicao (mensagem : String) :
    Usa U c p (listarParaEdicao c r enviar mensagem) :=
  usa_ler bom fun _ _ => usa_consulta rfl fun _ =>
    usa_ite (fun _ => usa_semPedidos env bom rfl) fun _ =>
      usa_bind (env _) fun _ => usa_guardado bom rfl

theorem usa_editarEndereco (data : Texto) : Usa U c p (editarEndereco c r enviar data) :=
  usa_segue rfl fun _ => usa_guardar bom rfl fun _ => env _

theorem usa_cancelarEdicao : Usa U c p (cancelarEdicao c r enviar) :=
  usa_segue rfl fun _ => usa_ler bom fun _ _ => usa_consulta rfl fun _ =>
    usa_bind (env _) fun _ => usa_guardado bom rfl

theorem usa_relatarRota (route : List Parada) : Usa U c p (relatarRota c r enviar route) := by
  refine usa_ler bom fun _ _ => usa_bind (usa_ite (fun _ => usa_pure ()) fun _ => env _)
    fun _ => usa_ler bom fun s _ => ?_
  cases s.pontoInicial with
  | none => exact usa_fail _
  | some address =>
    refine usa_consulta rfl fun _ => usa_ler bom fun s _ => ?_
    cases s.pontoInicial with
    | none => exact usa_fail _
    | some address => exact usa_segue rfl fun _ => usa_guardado bom rfl

theorem usa_concluirEdicao : Usa U c p (concluirEdicao c r enviar) := by
  refine usa_segue rfl fun _ => usa_guardar bom rfl fun _ => usa_ler bom fun _ _ =>
    usa_consulta rfl fun _ => usa_ite (fun _ => usa_semPedidos env bom rfl) fun _ =>
      usa_bind (usa_atribuir bom rfl) fun _ => usa_ite
        (fun _ => usa_bind (env _) fun _ => usa_guardado bom rfl) fun _ =>
          usa_ler bom fun s _ => ?_
  cases s.pontoInicial with
  | none => exact usa_fail _
  | some address =>
    exact usa_bind (usa_rotaOtimizada env _ _ _) fun _ => usa_relatarRota env bom _

theorem usa_detalhesDoPedido (data : Texto) : Usa U c p (detalhesDoPedido c r enviar data) := by
  refine usa_segue rfl fun _ => usa_ler bom fun _ _ => usa_consulta rfl fun entrega => ?_
  cases entrega with
  | none => exact env _
  | some entrega =>
    refine usa_bind (usa_geocodeAddress _) fun _ => ?_
    cases entrega.endereco with
    | none => exact usa_fail _
    | some endereco => exact env _

theorem usa_receberPedido {data : Texto}
    (grava : ∀ q, SqlBot.DaEntrega (pedidoDoBotao data) q → U.grava p q) :
    Usa U c p (receberPedido c r enviar data) :=
  usa_segue rfl fun _ => usa_segue rfl fun _ => usa_escrita (grava _ rfl) fun _ =>
    usa_bind (env _) fun _ => usa_guardado bom rfl

theorem usa_negarPedido (data : Texto) : Usa U c p (negarPedido c r enviar data) :=
  usa_segue rfl fun _ => usa_guardar bom rfl fun _ => env _

theorem usa_justificar {data : Texto}
    (grava : ∀ q, SqlBot.DaEntrega (pedidoDoBotao data) q → U.grava p q) :
    Usa U c p (justificar c r enviar data) :=
  usa_segue rfl fun _ => usa_segue rfl fun _ => usa_escrita (grava _ rfl) fun _ =>
    usa_bind (env _) fun _ => usa_guardado bom rfl

theorem usa_cancelarJustificativa : Usa U c p (cancelarJustificativa c r enviar) :=
  usa_segue rfl fun _ => usa_guardar bom rfl fun _ => env _

/-- The buttons of `organizar.js` that write a delivery. -/
def gravaPedido (data : Texto) : Bool :=
  data.startsWith "receber_pedido_".toList || data.startsWith "justificativa_".toList

omit env bom in
theorem usa_botao {b : Prop} [Decidable b] {f ramo : Fluxo Unit} {resto : Option (Fluxo Unit)}
    (found : (if b then some f else resto) = some ramo) (sim : b → Usa U c p f)
    (nao : resto = some ramo → Usa U c p ramo) : Usa U c p ramo := by
  by_cases h : b
  · rw [if_pos h] at found
    exact Option.some.inj found ▸ sim h
  · rw [if_neg h] at found
    exact nao found

theorem usa_ramoOrganizar {data : Texto} {ramo : Fluxo Unit}
    (grava : gravaPedido data = true →
      ∀ q, SqlBot.DaEntrega (pedidoDoBotao data) q → U.grava p q)
    (found : ramoOrganizar c r enviar data = some ramo) : Usa U c p ramo := by
  refine usa_botao found (fun _ => usa_selecionarPedido env bom data) fun found => ?_
  refine usa_botao found (fun _ => usa_segue rfl fun _ => usa_listarParaEdicao env bom _)
    fun found => ?_
  refine usa_botao found (fun _ => usa_editarEndereco env bom data) fun found => ?_
  refine usa_botao found (fun _ => usa_cancelarEdicao env bom) fun found => ?_
  refine usa_botao found (fun _ => usa_segue rfl fun _ => usa_listarParaEdicao env bom _)
    fun found => ?_
  refine usa_botao found (fun _ => usa_concluirEdicao env bom) fun found => ?_
  refine usa_botao found (fun _ => usa_detalhesDoPedido env bom data) fun found => ?_
  refine usa_botao found (fun receber => usa_receberPedido env bom (grava ?_)) fun found => ?_
  · rw [gravaPedido, receber, Bool.true_or]
  refine usa_botao found (fun _ => usa_negarPedido env bom data) fun found => ?_
  refine usa_botao found (fun motivo => usa_justificar env bom (grava ?_)) fun found => ?_
  · rw [gravaPedido, motivo, Bool.or_true]
  exact usa_botao found (fun _ => usa_cancelarJustificativa env bom) nofun

theorem usa_tratarCallbackOrganizarRota {data : Option Texto}
    (grava : ∀ t, data = some t → gravaPedido t = true →
      ∀ q, SqlBot.DaEntrega (pedidoDoBotao t) q → U.grava p q) :
    Usa U c p (tratarCallbackOrganizarRota c r enviar data) := by
  refine usa_handle ?_ fun _ => usa_bind (env _) fun _ => usa_guardar bom rfl fun _ => usa_pure true
  cases data with
  | none => exact usa_fail _
  | some data =>
    cases found : ramoOrganizar c r enviar data with
    | none => simpa only [found] using usa_pure false
    | some ramo =>
      simp only [found]
      exact usa_bind (usa_ramoOrganizar env bom (grava data rfl) found) fun _ => usa_pure true

end Callback

section Painel

variable (env : ∀ t, Usa U c p (enviar t))
include env

theorem usa_listarPedidosPendentes (usuarioId : Option Nat) :
    Usa U c p (listarPedidosPendentes c enviar usuarioId) :=
  usa_handle (usa_consulta rfl fun _ => usa_ite (fun _ => env _) fun _ => env _) fun _ => env _

theorem usa_iniciarPainel (vazia : U.vazia p) (usuarioId : Option Nat) :
    Usa U c p (iniciarPainel c enviar usuarioId) :=
  usa_novo vazia rfl fun _ bom => usa_consulta rfl fun _ => usa_consulta rfl fun _ => usa_ite
    (fun _ => usa_guardar bom rfl fun _ => usa_bind (env _) fun _ =>
      usa_listarPedidosPendentes env _)
    fun _ => usa_bind (usa_set bom) fun _ => env _

variable {atual : Nat} (bom : U.bom p r) (bomAtual : U.bom p atual)

theorem usa_verificarFinalizar (bom : U.bom p r) :
    Usa U c p (verificarFinalizarRotaAutomaticamente c enviar r) := by
  refine usa_handle ?_ fun _ => usa_consulta rfl fun _ => env _
  refine usa_ler bom fun _ _ => usa_consulta rfl fun _ => usa_ler bom fun _ _ => usa_ite ?_ ?_
  · exact fun _ => usa_consulta rfl fun _ => usa_ler bom fun _ _ => usa_consulta rfl fun _ =>
      usa_consulta rfl fun _ => usa_bind (usa_atribuir bom rfl) fun _ => usa_fail _
  · exact fun _ => usa_ite (fun _ => env _) fun _ => usa_pure ()

omit env in
theorem usa_criarEntregador (bomAtual : U.bom p atual) (quantidade : Nat) :
    Usa U c p (criarEntregador c atual quantidade) :=
  usa_ler bomAtual fun _ _ => usa_consulta rfl fun _ => usa_ler bomAtual fun _ _ => usa_neutra rfl

theorem usa_reabrirRota (bomAtual : U.bom p atual) (pendentes : List (Nat × Entrega))
    (aberta : Option (Nat × Entregador)) :
    Usa U c p (reabrirRota c enviar atual pendentes aberta) := by
  refine usa_bind ?_ fun _ => usa_bind (usa_guardado bomAtual rfl) fun _ =>
    usa_bind (env _) fun _ => usa_neutra rfl
  cases aberta with
  | none => exact usa_criarEntregador bomAtual _
  | some rota => exact usa_pure rota.1

section Usuario

variable (grava : ∀ s, U.viu p s → ∀ q, SqlBot.DoUsuario s.usuarioId q → U.grava p q)
include bomAtual grava

theorem usa_novaRota (aberta : Option (Nat × Entregador)) :
    Usa U c p (novaRota c enviar atual aberta) := by
  have fechar : Usa U c p (fecharAberta c aberta) := by
    cases aberta with
    | none => exact usa_pure ()
    | some rota => exact usa_neutra rfl
  refine usa_bind fechar fun _ => usa_ler bomAtual fun _ _ => usa_consulta rfl fun _ => usa_ite
    (fun _ => usa_consulta rfl fun _ => env _) fun _ => ?_
  refine usa_bind (usa_criarEntregador bomAtual _) fun _ =>
    usa_bind (usa_guardado bomAtual rfl) fun _ => ?_
  exact usa_ler bomAtual fun _ seen => usa_escrita (grava _ seen _ rfl) fun _ =>
    usa_ler bomAtual fun _ seen => usa_escrita (grava _ seen _ rfl) fun _ =>
      usa_consulta rfl fun _ => env _

omit env bomAtual grava in
theorem usa_responderBotao (e : Entrada) : Usa U c p (responderBotao c e) :=
  usa_ite (fun _ => usa_livre rfl) fun _ => usa_pure ()

theorem usa_iniciarRota (e : Entrada) : Usa U c p (iniciarRota c enviar atual e) := by
  refine usa_bind (usa_responderBotao e) fun _ => usa_handle ?_ fun _ =>
    usa_consulta rfl fun _ => usa_guardar bomAtual rfl fun _ => env _
  refine usa_consulta rfl fun _ => usa_ler bomAtual fun _ _ => usa_ite (fun _ => usa_fail _)
    fun _ => usa_consulta rfl fun _ => usa_ler bomAtual fun _ _ => usa_consulta rfl fun _ => ?_
  exact usa_ite (fun _ => usa_reabrirRota env bomAtual _ _) fun _ =>
    usa_novaRota env bomAtual grava _

theorem usa_finalizarRota (e : Entrada) : Usa U c p (finalizarRota c enviar atual e) := by
  refine usa_bind (usa_responderBotao e) fun _ => usa_ler bomAtual fun _ _ =>
    usa_ite (fun _ => env _) fun _ => usa_handle ?_ fun _ => usa_consulta rfl fun _ => env _
  refine usa_consulta rfl fun _ => usa_ler bomAtual fun _ _ => usa_consulta rfl fun _ => usa_ite
    (fun _ => usa_consulta rfl fun _ => env _) fun _ => ?_
  exact usa_ler bomAtual fun _ seen => usa_escrita (grava _ seen _ rfl) fun _ =>
    usa_ler bomAtual fun _ seen => usa_escrita (grava _ seen _ rfl) fun _ =>
      usa_ler bomAtual fun _ _ => usa_consulta rfl fun _ => usa_consulta rfl fun _ =>
        usa_guardar bomAtual rfl fun _ => env _

end Usuario

include bom

theorem usa_lista (bomAtual : U.bom p atual) : Usa U c p (lista c enviar r atual) :=
  usa_ler bom fun _ _ => usa_bind (usa_listarPedidosPendentes env _) fun _ =>
    usa_guardado bomAtual rfl

theorem usa_pedidos (bomAtual : U.bom p atual) : Usa U c p (pedidos c enviar r atual) :=
  usa_handle (usa_ler bom fun _ _ => usa_consulta rfl fun _ => usa_ite (fun _ => env _)
    fun _ => usa_bind (env _) fun _ => usa_guardado bomAtual rfl) fun _ => env _

theorem usa_valoresReceber : Usa U c p (valoresReceber c enviar r) :=
  usa_handle (usa_ler bom fun _ _ => usa_consulta rfl fun _ => usa_ite (fun _ => env _)
    fun _ => env _) fun _ => env _

theorem usa_falhaJustificada (bomAtual : U.bom p atual) (data : Texto) {entregaId : IdSql}
    (grava : ∀ q, SqlBot.DaEntrega entregaId q → U.grava p q) :
    Usa U c p (falhaJustificada c enviar r atual data entregaId) := by
  refine usa_handle ?_ fun _ => usa_consulta rfl fun _ => env _
  refine usa_consulta rfl fun _ => usa_escrita (grava _ rfl) fun _ =>
    usa_escrita (grava _ rfl) fun _ => usa_consulta rfl fun _ => usa_bind (env _) fun _ => ?_
  exact usa_ler bom fun _ _ => usa_bind (usa_listarPedidosPendentes env _) fun _ =>
    usa_bind (usa_verificarFinalizar env bom) fun _ => usa_guardado bomAtual rfl

omit bom in
theorem usa_menuPadrao (bomAtual : U.bom p atual) : Usa U c p (menuPadrao c enviar atual) := by
  refine usa_ler bomAtual fun s _ => usa_ite (fun _ => usa_pure ()) fun _ =>
    usa_ite (fun _ => env _) fun _ => usa_ite (fun _ => env _) fun _ => ?_
  exact usa_bind (usa_ite (fun _ => env _) fun _ => usa_pure ()) fun _ => usa_guardado bomAtual rfl

omit bom in
theorem usaEm_delegar {w : Option Sessao} {e : Entrada} (bomAtual : U.bom p atual)
    (concede : U.Concede p w e) : UsaEm U c p w (delegar c enviar atual e) :=
  usaEm_bind (usaEm_tratarOrganizarRota env concede) fun _ =>
    usa_ite (fun _ => usa_pure ()) fun _ => usa_menuPadrao env bomAtual

end Painel

section TratarEntrega

variable {w : Option Sessao} {e : Entrada} {atual : Nat}
  (env : ∀ p t, Usa U c p (enviar t)) (bom : U.bom p r)
  (grava : ∀ s, U.viu p s → ∀ q, SqlBot.DoUsuario s.usuarioId q → U.grava p q)
  (concede : U.Concede p w e)
include env bom grava concede

theorem respeita_painel (bomAtual : U.bom p atual) :
    Respeita U c (p, w) (painel c enviar r atual e) := by
  have env' := env p
  refine (meets_bind ..).mpr ((meets_ask ..).mpr ⟨⟨rfl, bomAtual⟩, fun answer v post => ?_⟩)
  obtain ⟨rfl, seen⟩ := post
  cases answer with
  | error erro => trivial
  | ok s =>
    obtain ⟨viu, same⟩ := seen s rfl
    have delegar := (usaEm_delegar env' bomAtual concede).respeita
    have guardar {campos : List Campo} (mensagem : String)
        (campo : campos.all Campo.doPainel = true) : Respeita U c (p, w) (do
          faz (.atribuir c atual campos)
          faz (.set c atual)
          enviar mensagem) := (usa_guardar bomAtual campo (fun _ => env' _) w).respeita
    refine respeita_ite (guardar _ rfl) (respeita_ite ?_ (respeita_ite (env' _ w).respeita ?_))
    · refine (meets_bind ..).mpr ((meets_ask ..).mpr ⟨⟨rfl, rfl⟩, fun answer v _ => ?_⟩)
      cases answer with
      | error erro => trivial
      | ok _ => exact (env v.1 _ v.2).respeita
    refine respeita_ite (guardar _ rfl) (respeita_ite (guardar _ rfl) ?_)
    refine respeita_ite (usa_iniciarRota env' bomAtual grava e w).respeita ?_
    refine respeita_ite (usa_finalizarRota env' bomAtual grava e w).respeita ?_
    refine respeita_ite (usa_lista env' bom bomAtual w).respeita ?_
    refine respeita_ite (usa_pedidos env' bom bomAtual w).respeita ?_
    refine respeita_ite (usa_valoresReceber env' bom w).respeita ?_
    split
    next data etapa botao =>
      by_cases motivo : data.startsWith "justificativa_".toList = true
      · rw [if_pos motivo]
        refine (usa_falhaJustificada env' bom bomAtual data (concede s viu same ?_) w).respeita
        rw [gravaSessao, etapa, botao]
        exact motivo
      · rw [if_neg motivo]
        exact delegar
    next => exact delegar

/-- Every text and button of the courier's panel. -/
theorem respeita_tratarEntrega : Respeita U c (p, w) (tratarEntrega c enviar r e) := by
  refine (meets_bind ..).mpr ((meets_ask ..).mpr ⟨rfl, fun answer v post => ?_⟩)
  obtain ⟨rfl, found⟩ := post
  cases answer with
  | error erro => trivial
  | ok x =>
    cases x with
    | none => exact (usa_ler bom (fun _ _ => usa_iniciarPainel (env p) found _) w).respeita
    | some atual => exact respeita_painel env bom grava concede found

end TratarEntrega

section Listener

theorem usa_enviarMensagemWrapper (mensagem : String) :
    Usa U c p (enviarMensagemWrapper c mensagem) :=
  usa_segue rfl fun _ => usa_pure ()

theorem usa_sendMessageSolto (mensagem : String) : Usa U c p (sendMessageSolto mensagem) :=
  usa_fail _

variable (bom : U.bom p r)
include bom

theorem usa_verPedido (data : Texto) : Usa U c p (verPedido c r data) := by
  refine usa_segue rfl fun _ => usa_handle ?_ fun _ => usa_enviarMensagemWrapper _
  refine usa_ler bom fun _ _ => usa_consulta rfl fun entrega => ?_
  cases entrega with
  | none => exact usa_enviarMensagemWrapper _
  | some entrega =>
    exact usa_bind (usa_enviarMensagemWrapper _) fun _ => usa_guardado bom rfl

theorem usa_recebido {data : Texto}
    (grava : ∀ q, SqlBot.DaEntrega (entregaDoBotao data) q → U.grava p q) :
    Usa U c p (recebido c r data) := by
  refine usa_segue rfl fun _ => usa_handle ?_ fun _ =>
    usa_consulta rfl fun _ => usa_enviarMensagemWrapper _
  refine usa_consulta rfl fun _ => usa_escrita (grava _ rfl) fun _ =>
    usa_escrita (grava _ rfl) fun _ => usa_escrita (grava _ rfl) fun _ =>
      usa_consulta rfl fun _ => usa_bind (usa_enviarMensagemWrapper _) fun _ => ?_
  exact usa_ler bom fun _ _ =>
    usa_bind (usa_listarPedidosPendentes usa_sendMessageSolto _) fun _ =>
      usa_bind (usa_verificarFinalizar usa_sendMessageSolto bom) fun _ => usa_guardado bom rfl

theorem usa_falha (data : Texto) : Usa U c p (falha c r data) :=
  usa_segue rfl fun _ => usa_guardar bom rfl fun _ => usa_enviarMensagemWrapper _

theorem usa_cancelarFalha : Usa U c p (cancelarFalha c r) :=
  usa_segue rfl fun _ => usa_guardar bom rfl fun _ => usa_ler bom fun _ _ =>
    usa_listarPedidosPendentes usa_sendMessageSolto _

theorem usa_ramoEntrega {data : Texto}
    (grava : data.startsWith "recebido_".toList = true →
      ∀ q, SqlBot.DaEntrega (entregaDoBotao data) q → U.grava p q) :
    Usa U c p (ramoEntrega c r data) :=
  usa_ite (fun _ => usa_verPedido bom data) fun _ =>
    usa_ite (fun received => usa_recebido bom (grava received)) fun _ =>
      usa_ite (fun _ => usa_falha bom data) fun _ =>
        usa_ite (fun _ => usa_cancelarFalha bom) fun _ => usa_pure ()

end Listener

/-- The button writes the delivery `id`. -/
def AlvoDoBotao (data : Texto) (id : IdSql) : Prop :=
  (gravaPedido data = true ∧ id = pedidoDoBotao data) ∨
    (data.startsWith "recebido_".toList = true ∧ id = entregaDoBotao data)

/-- Every button, as the listener of `configurarEntrega` takes it. -/
theorem usa_callbackEntrega {data : Option Texto}
    (grava : ∀ t, data = some t → ∀ id, AlvoDoBotao t id →
      ∀ q, SqlBot.DaEntrega id q → U.grava p q) :
    Usa U c p (callbackEntrega c data) := by
  refine usa_obter rfl fun r bom => usa_bind
    (usa_tratarCallbackOrganizarRota usa_enviarMensagemWrapper bom fun t botao alvo =>
      grava t botao _ (.inl ⟨alvo, rfl⟩)) fun _ => usa_ite (fun _ => usa_pure ()) fun _ => ?_
  cases data with
  | none => exact usa_fail _
  | some t => exact usa_ramoEntrega bom fun received => grava t rfl _ (.inr ⟨received, rfl⟩)

theorem usa_enviarMensagem (mensagem : String) : Usa U c p (enviarMensagem c mensagem) :=
  usa_handle (usa_segue rfl fun _ => usa_obter rfl fun _ bom => usa_guardado bom rfl)
    fun _ => usa_pure ()

end IceClube
