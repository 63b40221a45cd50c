import IceClube.Sigilo
import IceClube.Uso

/-! The walk through the handlers that a courier reaches: none of them asks for the deliveries of
another, except for the three buttons that `Evento.Discreto` leaves out. -/
namespace IceClube

open Coop Prog System

section Painel

variable {u : Nat} {c : Chat} {r : Nat} {α : Type}

/-- A handler of the courier's chat that does not tell the worlds apart. -/
abbrev Discreto (u : Nat) (c : Chat) (f : Fluxo α) : Prop := Obeys (sigilo u c) f

theorem doEntregador_doPainel {campo : Campo} (doPainel : campo.doPainel = true) :
    campo.DoEntregador u := by
  cases campo with
  | usuarioId | cargo | setor => cases doPainel
  | _ => trivial

theorem doEntregador_todos {campos : List Campo} (doPainel : campos.all Campo.doPainel = true) :
    ∀ campo ∈ campos, campo.DoEntregador u :=
  fun campo member => doEntregador_doPainel (List.all_eq_true.mp doPainel campo member)

section Regras

variable {f : Fluxo α}

theorem discreto_ler {g : Sessao → Fluxo α}
    (rest : ∀ s, s.DoEntregador u → Discreto u c (g s)) :
    Discreto u c (faz (.ler c r) >>= g) :=
  obeys_call rfl fun s seen => rest s (seen s rfl)

theorem discreto_guardar {campos : List Campo} (doPainel : campos.all Campo.doPainel = true)
    (rest : Discreto u c f) :
    Discreto u c (faz (.atribuir c r campos) >>= fun _ => faz (.set c r) >>= fun _ => f) :=
  obeys_call ⟨rfl, doEntregador_todos doPainel⟩ fun _ _ => obeys_call trivial fun _ _ => rest

theorem discreto_guardado {campos : List Campo} (doPainel : campos.all Campo.doPainel = true) :
    Discreto u c (faz (.atribuir c r campos) >>= fun _ => faz (.set c r)) :=
  obeys_call ⟨rfl, doEntregador_todos doPainel⟩ fun _ _ => obeys_ask trivial

theorem discreto_obter (inicio : Inicio) : Discreto u c (obter c inicio) := by
  refine obeys_call trivial fun found _ => ?_
  cases found with
  | some r => exact obeys_pure r
  | none => exact obeys_ask trivial

theorem discreto_consulta {q : SqlBot} {g : q.Res → Fluxo α} (discreta : q.Discreta u c)
    (rest : ∀ a, Discreto u c (g a)) : Discreto u c (consulta c q >>= g) :=
  obeys_call ⟨rfl, discreta⟩ fun a _ => rest a

end Regras

variable {enviar : String → Fluxo Unit}

theorem discreto_geocodeAddress (address : String) : Discreto u c (geocodeAddress address) :=
  obeys_call trivial fun _ _ => obeys_handle (obeys_ask trivial) fun _ => obeys_pure false

variable (env : ∀ t, Discreto u c (enviar t))
include env

section OrganizarRota

theorem discreto_calculateDistance (origem destino : String) :
    Discreto u c (calculateDistance enviar origem destino) := by
  have tentar (restantes : Nat) :
      Discreto u c (tentarDistancia enviar origem destino restantes) := by
    induction restantes with
    | zero => exact obeys_pure none
    | succ restantes ih =>
      refine obeys_handle (obeys_call trivial fun resposta _ => ?_) fun _ => obeys_ite ?_ ?_
      · cases resposta with
        | none => exact obeys_fail _
        | some distancia => exact obeys_pure _
      · exact fun _ => obeys_bind (env _) fun _ => obeys_pure none
      · exact fun _ => obeys_call trivial fun _ _ => ih
  exact obeys_call trivial fun _ _ => tentar 3

theorem discreto_maisProxima (currentAddress : String) (locs : List (Parada × Nat))
    (nearest : Option (Nat × Parada × ℚ)) :
    Discreto u c (maisProxima enviar currentAddress locs nearest) := by
  induction locs generalizing nearest with
  | nil => exact obeys_pure nearest
  | cons loc locs ih => exact obeys_bind (discreto_calculateDistance env _ _) fun _ => ih _

theorem discreto_rotaOtimizada (voltas : Nat) (currentAddress : String) (unvisited : List Parada) :
    Discreto u c (rotaOtimizada enviar voltas currentAddress unvisited) := by
  induction voltas generalizing currentAddress unvisited with
  | zero => exact obeys_pure []
  | succ voltas ih =>
    refine obeys_bind (discreto_maisProxima env _ _ _) fun nearest => ?_
    cases nearest with
    | none => exact obeys_pure []
    | some found => exact obeys_bind (ih _ _) fun _ => obeys_pure _

theorem discreto_semPedidos {campos : List Campo} (campo : campos.all Campo.doPainel = true) :
    Discreto u c (semPedidos c r enviar campos) :=
  discreto_guardar campo (env _)

theorem discreto_organizarRota : Discreto u c (organizarRota c r enviar) := by
  refine discreto_ler fun s dele => discreto_consulta dele.usuario fun _ =>
    discreto_consulta trivial fun _ => obeys_ite ?_ ?_
  · exact fun _ => obeys_bind (env _) fun _ => discreto_guardado rfl
  · refine fun _ => discreto_guardar rfl (obeys_handle ?_ fun _ => discreto_guardar rfl (env _))
    exact discreto_ler fun s _ => discreto_consulta trivial fun _ =>
      obeys_ite (fun _ => discreto_semPedidos env rfl) fun _ => env _

theorem discreto_finalizarRotaSalva : Discreto u c (finalizarRotaSalva c r enviar) :=
  obeys_call trivial fun _ _ => discreto_ler fun _ _ => discreto_consulta trivial fun _ =>
    discreto_guardar rfl (env _)

theorem discreto_cancelarRota : Discreto u c (cancelarRota c r enviar) := by
  refine obeys_call trivial fun _ _ => obeys_handle ?_ fun _ =>
    discreto_consulta trivial fun _ => env _
  exact discreto_consulta trivial fun _ => discreto_ler fun _ _ =>
    discreto_consulta trivial fun _ => discreto_consulta trivial fun _ =>
      discreto_guardar rfl (env _)

theorem discreto_pontoInicial (text : Texto) : Discreto u c (pontoInicial c r enviar text) := by
  refine obeys_handle (obeys_ite (fun _ => ?_) fun _ => env _) fun _ => env _
  refine obeys_bind (discreto_geocodeAddress _) fun _ => obeys_ite (fun _ => env _) fun _ => ?_
  exact discreto_guardar rfl (discreto_ler fun _ dele => discreto_consulta dele.usuario fun _ =>
    obeys_ite (fun _ => discreto_semPedidos env rfl) fun _ => env _)

/-- It writes the delivery that the session names, whoever's, and reads none of it. -/
theorem discreto_editarEnderecoTexto (text : Texto) (pedidoId : IdSql) :
    Discreto u c (editarEnderecoTexto c r enviar text pedidoId) := by
  refine obeys_handle (obeys_ite (fun _ => ?_) fun _ => env _) fun _ => env _
  refine obeys_bind (discreto_geocodeAddress _) fun _ => obeys_ite
    (fun _ => discreto_consulta trivial fun _ => env _) fun _ =>
    discreto_consulta trivial fun _ => obeys_bind (env _) fun _ => ?_
  exact discreto_ler fun _ dele => discreto_consulta dele.usuario fun _ =>
    obeys_ite (fun _ => discreto_semPedidos env rfl) fun _ =>
      obeys_bind (env _) fun _ => discreto_guardado rfl

theorem discreto_organizarSessao (e : Entrada) : Discreto u c (organizarSessao c r enviar e) := by
  refine discreto_consulta trivial fun _ => obeys_ite
    (fun _ => obeys_bind (discreto_organizarRota env) fun _ => obeys_pure true) fun _ => obeys_ite
      (fun _ => obeys_bind (discreto_finalizarRotaSalva env) fun _ => obeys_pure true) fun _ =>
        obeys_ite (fun _ => obeys_bind (discreto_cancelarRota env) fun _ => obeys_pure true)
          fun _ => discreto_ler fun s _ => ?_
  split
  next text _ _ =>
    exact obeys_ite (fun _ => obeys_pure false) fun _ =>
      obeys_bind (discreto_pontoInicial env text) fun _ => obeys_pure true
  next text _ _ =>
    exact obeys_ite (fun _ => obeys_pure false) fun _ =>
      obeys_bind (discreto_editarEnderecoTexto env text _) fun _ => obeys_pure true
  next => exact obeys_pure false

theorem discreto_tratarOrganizarRota (e : Entrada) :
    Discreto u c (tratarOrganizarRota c enviar e) := by
  refine obeys_call trivial fun found _ => ?_
  cases found with
  | some r => exact discreto_organizarSessao env e
  | none => exact discreto_consulta trivial fun _ => obeys_fail _

end OrganizarRota

section Callback

theorem discreto_listarParaEdicao (mensagem : String) :
    Discreto u c (listarParaEdicao c r enviar mensagem) :=
  discreto_ler fun _ dele => discreto_consulta dele.usuario fun _ =>
    obeys_ite (fun _ => discreto_semPedidos env rfl) fun _ =>
      obeys_bind (env _) fun _ => discreto_guardado rfl

theorem discreto_cancelarEdicao : Discreto u c (cancelarEdicao c r enviar) :=
  obeys_call trivial fun _ _ => discreto_ler fun _ dele => discreto_consulta dele.usuario fun _ =>
    obeys_bind (env _) fun _ => discreto_guardado rfl

theorem discreto_relatarRota (route : List Parada) :
    Discreto u c (relatarRota c r enviar route) := by
  refine discreto_ler fun _ _ => obeys_bind (obeys_ite (fun _ => obeys_pure ()) fun _ => env _)
    fun _ => discreto_ler fun s _ => ?_
  cases s.pontoInicial with
  | none => exact obeys_fail _
  | some address =>
    refine discreto_consulta trivial fun _ => discreto_ler fun s _ => ?_
    cases s.pontoInicial with
    | none => exact obeys_fail _
    | some address => exact obeys_call trivial fun _ _ => discreto_guardado rfl

theorem discreto_concluirEdicao : Discreto u c (concluirEdicao c r enviar) := by
  refine obeys_call trivial fun _ _ => discreto_guardar rfl (discreto_ler fun _ dele =>
    discreto_consulta dele.usuario fun _ => obeys_ite (fun _ => discreto_semPedidos env rfl)
      fun _ => obeys_call ⟨rfl, doEntregador_todos rfl⟩ fun _ _ => obeys_ite
        (fun _ => obeys_bind (env _) fun _ => discreto_guardado rfl) fun _ =>
          discreto_ler fun s _ => ?_)
  cases s.pontoInicial with
  | none => exact obeys_fail _
  | some address =>
    exact obeys_bind (discreto_rotaOtimizada env _ _ _) fun _ => discreto_relatarRota env _

theorem discreto_detalhesDoPedido (data : Texto) :
    Discreto u c (detalhesDoPedido c r enviar data) := by
  refine obeys_call trivial fun _ _ => discreto_ler fun _ dele =>
    discreto_consulta dele.usuario fun entrega => ?_
  cases entrega with
  | none => exact env _
  | some entrega =>
    refine obeys_bind (discreto_geocodeAddress _) fun _ => ?_
    cases entrega.endereco with
    | none => exact obeys_fail _
    | some endereco => exact env _

theorem discreto_receberPedido (data : Texto) : Discreto u c (receberPedido c r enviar data) :=
  obeys_call trivial fun _ _ => obeys_call trivial fun _ _ => discreto_consulta trivial fun _ =>
    obeys_bind (env _) fun _ => discreto_guardado rfl

theorem discreto_justificar (data : Texto) : Discreto u c (justificar c r enviar data) :=
  obeys_call trivial fun _ _ => obeys_call trivial fun _ _ => discreto_consulta trivial fun _ =>
    obeys_bind (env _) fun _ => discreto_guardado rfl

theorem discreto_marcar {campos : List Campo} (doPainel : campos.all Campo.doPainel = true)
    (mensagem : String) : Discreto u c (do
      faz (.answerCallbackQuery c)
      faz (.atribuir c r campos)
      faz (.set c r)
      enviar mensagem) :=
  obeys_call trivial fun _ _ => discreto_guardar doPainel (env _)

omit env in
theorem discreto_botao {b : Prop} [Decidable b] {f ramo : Fluxo Unit}
    {resto : Option (Fluxo Unit)} (found : (if b then some f else resto) = some ramo)
    (sim : b → Discreto u c f) (nao : resto = some ramo → Discreto u c ramo) :
    Discreto u c ramo := by
  by_cases h : b
  · rw [if_pos h] at found
    exact Option.some.inj found ▸ sim h
  · rw [if_neg h] at found
    exact nao found

theorem discreto_ramoOrganizar {data : Texto} {ramo : Fluxo Unit}
    (outro : data.startsWith "selecionar_pedido_".toList = false)
    (found : ramoOrganizar c r enviar data = some ramo) : Discreto u c ramo := by
  refine discreto_botao found (fun botao => ?_) fun found => ?_
  · rw [outro] at botao
    cases botao
  refine discreto_botao found (fun _ => obeys_call trivial fun _ _ =>
    discreto_listarParaEdicao env _) fun found => ?_
  refine discreto_botao found (fun _ => discreto_marcar env rfl _) fun found => ?_
  refine discreto_botao found (fun _ => discreto_cancelarEdicao env) fun found => ?_
  refine discreto_botao found (fun _ => obeys_call trivial fun _ _ =>
    discreto_listarParaEdicao env _) fun found => ?_
  refine discreto_botao found (fun _ => discreto_concluirEdicao env) fun found => ?_
  refine discreto_botao found (fun _ => discreto_detalhesDoPedido env data) fun found => ?_
  refine discreto_botao found (fun _ => discreto_receberPedido env data) fun found => ?_
  refine discreto_botao found (fun _ => discreto_marcar env rfl _) fun found => ?_
  refine discreto_botao found (fun _ => discreto_justificar env data) fun found => ?_
  refine discreto_botao found (fun _ => discreto_marcar env rfl _) fun found => ?_
  cases found

theorem discreto_tratarCallbackOrganizarRota {data : Option Texto}
    (outro : ∀ t ∈ data, Texto.startsWith t "selecionar_pedido_".toList = false) :
    Discreto u c (tratarCallbackOrganizarRota c r enviar data) := by
  refine obeys_handle ?_ fun _ => obeys_bind (env _) fun _ => discreto_guardar rfl (obeys_pure true)
  cases data with
  | none => exact obeys_fail _
  | some data =>
    cases found : ramoOrganizar c r enviar data with
    | none => simpa only [found] using obeys_pure false
    | some ramo =>
      simp only [found]
      exact obeys_bind (discreto_ramoOrganizar env (outro data rfl) found) fun _ => obeys_pure true

end Callback

section Entrega

variable {v : Option Nat}

theorem discreto_listarPedidosPendentes (minhas : v = none ∨ v = some u) :
    Discreto u c (listarPedidosPendentes c enviar v) :=
  obeys_handle (discreto_consulta minhas fun _ => obeys_ite (fun _ => env _) fun _ => env _)
    fun _ => env _

theorem discreto_iniciarPainel (minhas : v = none ∨ v = some u) :
    Discreto u c (iniciarPainel c enviar v) :=
  obeys_call trivial fun _ _ => discreto_consulta minhas fun _ => discreto_consulta trivial fun _ =>
    obeys_ite (fun _ => discreto_guardar rfl (obeys_bind (env _) fun _ =>
      discreto_listarPedidosPendentes env minhas)) fun _ => obeys_call trivial fun _ _ => env _

omit env in
theorem discreto_criarEntregador (quantidade : Nat) :
    Discreto u c (criarEntregador c r quantidade) :=
  discreto_ler fun _ _ => discreto_consulta trivial fun _ => discreto_ler fun _ _ =>
    obeys_ask ⟨rfl, trivial⟩

theorem discreto_reabrirRota (pendentes : List (Nat × Entrega))
    (aberta : Option (Nat × Entregador)) : Discreto u c (reabrirRota c enviar r pendentes aberta) := by
  refine obeys_bind ?_ fun _ => obeys_bind (discreto_guardado rfl) fun _ =>
    obeys_bind (env _) fun _ => obeys_ask ⟨rfl, trivial⟩
  cases aberta with
  | none => exact discreto_criarEntregador _
  | some rota => exact obeys_pure rota.1

theorem discreto_novaRota (aberta : Option (Nat × Entregador)) :
    Discreto u c (novaRota c enviar r aberta) := by
  have fechar : Discreto u c (fecharAberta c aberta) := by
    cases aberta with
    | none => exact obeys_pure ()
    | some rota => exact obeys_ask ⟨rfl, trivial⟩
  refine obeys_bind fechar fun _ => discreto_ler fun _ dele => discreto_consulta dele.usuario
    fun _ => obeys_ite (fun _ => discreto_consulta trivial fun _ => env _) fun _ => ?_
  refine obeys_bind (discreto_criarEntregador _) fun _ => obeys_bind (discreto_guardado rfl)
    fun _ => discreto_ler fun _ dele => discreto_consulta dele.usuario fun _ => ?_
  exact discreto_ler fun _ dele => discreto_consulta dele.usuario fun _ =>
    discreto_consulta trivial fun _ => env _

omit env in
theorem discreto_responderBotao (e : Entrada) : Discreto u c (responderBotao c e) :=
  obeys_ite (fun _ => obeys_ask trivial) fun _ => obeys_pure ()

theorem discreto_iniciarRota (e : Entrada) : Discreto u c (iniciarRota c enviar r e) := by
  refine obeys_bind (discreto_responderBotao e) fun _ => obeys_handle ?_ fun _ =>
    discreto_consulta trivial fun _ => discreto_guardar rfl (env _)
  refine discreto_consulta trivial fun _ => discreto_ler fun _ dele =>
    obeys_ite (fun _ => obeys_fail _) fun _ => discreto_consulta dele.usuario fun _ =>
      discreto_ler fun _ _ => discreto_consulta trivial fun _ => ?_
  exact obeys_ite (fun _ => discreto_reabrirRota env _ _) fun _ => discreto_novaRota env _

theorem discreto_finalizarRota (e : Entrada) : Discreto u c (finalizarRota c enviar r e) := by
  refine obeys_bind (discreto_responderBotao e) fun _ => discreto_ler fun _ _ =>
    obeys_ite (fun _ => env _) fun _ => obeys_handle ?_ fun _ =>
      discreto_consulta trivial fun _ => env _
  refine discreto_consulta trivial fun _ => discreto_ler fun _ dele =>
    discreto_consulta dele.usuario fun _ => obeys_ite
      (fun _ => discreto_consulta trivial fun _ => env _) fun _ => ?_
  exact discreto_ler fun _ dele => discreto_consulta dele.usuario fun _ =>
    discreto_ler fun _ dele => discreto_consulta dele.usuario fun _ => discreto_ler fun _ _ =>
      discreto_consulta trivial fun _ => discreto_consulta trivial fun _ =>
        discreto_guardar rfl (env _)

variable {atual : Nat}

theorem discreto_lista : Discreto u c (lista c enviar r atual) :=
  discreto_ler fun _ dele => obeys_bind (discreto_listarPedidosPendentes env dele.usuario)
    fun _ => discreto_guardado rfl

theorem discreto_pedidos : Discreto u c (pedidos c enviar r atual) :=
  obeys_handle (discreto_ler fun _ dele => discreto_consulta dele.usuario fun _ =>
    obeys_ite (fun _ => env _) fun _ => obeys_bind (env _) fun _ => discreto_guardado rfl)
      fun _ => env _

theorem discreto_valoresReceber : Discreto u c (valoresReceber c enviar r) :=
  obeys_handle (discreto_ler fun _ dele => discreto_consulta dele.usuario fun _ =>
    obeys_ite (fun _ => env _) fun _ => env _) fun _ => env _

theorem discreto_menuPadrao : Discreto u c (menuPadrao c enviar atual) := by
  refine discreto_ler fun s _ => obeys_ite (fun _ => obeys_pure ()) fun _ =>
    obeys_ite (fun _ => env _) fun _ => obeys_ite (fun _ => env _) fun _ => ?_
  exact obeys_bind (obeys_ite (fun _ => env _) fun _ => obeys_pure ()) fun _ =>
    discreto_guardado rfl

theorem discreto_delegar (e : Entrada) : Discreto u c (delegar c enviar atual e) :=
  obeys_bind (discreto_tratarOrganizarRota env e) fun _ => obeys_ite (fun _ => obeys_pure ())
    fun _ => discreto_menuPadrao env

theorem discreto_painel {e : Entrada}
    (outro : ∀ t ∈ e.data, Texto.startsWith t "justificativa_".toList = false) :
    Discreto u c (painel c enviar r atual e) := by
  refine discreto_ler fun s _ => obeys_ite (fun _ => discreto_guardar rfl (env _)) fun _ => ?_
  refine obeys_ite (fun _ => obeys_call trivial fun _ _ => env _) fun _ => ?_
  refine obeys_ite (fun _ => env _) fun _ => ?_
  refine obeys_ite (fun _ => discreto_guardar rfl (env _)) fun _ => ?_
  refine obeys_ite (fun _ => discreto_guardar rfl (env _)) fun _ => ?_
  refine obeys_ite (fun _ => discreto_iniciarRota env e) fun _ => ?_
  refine obeys_ite (fun _ => discreto_finalizarRota env e) fun _ => ?_
  refine obeys_ite (fun _ => discreto_lista env) fun _ => ?_
  refine obeys_ite (fun _ => discreto_pedidos env) fun _ => ?_
  refine obeys_ite (fun _ => discreto_valoresReceber env) fun _ => ?_
  split
  next data _ botao =>
    refine obeys_ite (fun motivo => ?_) fun _ => discreto_delegar env e
    rw [outro data botao] at motivo
    cases motivo
  next => exact discreto_delegar env e

theorem discreto_tratarEntrega {e : Entrada}
    (outro : ∀ t ∈ e.data, Texto.startsWith t "justificativa_".toList = false) :
    Discreto u c (tratarEntrega c enviar r e) := by
  refine obeys_call trivial fun found _ => ?_
  cases found with
  | some atual => exact discreto_painel env outro
  | none => exact discreto_ler fun _ dele => discreto_iniciarPainel env dele.usuario

end Entrega

section Listener

omit env

theorem discreto_wrapper (mensagem : String) : Discreto u c (enviarMensagemWrapper c mensagem) :=
  obeys_call trivial fun _ _ => obeys_pure ()

theorem discreto_verPedido (data : Texto) : Discreto u c (verPedido c r data) := by
  refine obeys_call trivial fun _ _ => obeys_handle ?_ fun _ => discreto_wrapper _
  refine discreto_ler fun _ dele => discreto_consulta dele.usuario fun entrega => ?_
  cases entrega with
  | none => exact discreto_wrapper _
  | some entrega => exact obeys_bind (discreto_wrapper _) fun _ => discreto_guardado rfl

theorem discreto_ramoEntrega {data : Texto}
    (outro : Texto.startsWith data "recebido_".toList = false) :
    Discreto u c (ramoEntrega c r data) := by
  refine obeys_ite (fun _ => discreto_verPedido data) fun _ => obeys_ite (fun received => ?_)
    fun _ => obeys_ite (fun _ => discreto_marcar discreto_wrapper rfl _) fun _ =>
      obeys_ite (fun _ => ?_) fun _ => obeys_pure ()
  · rw [outro] at received
    cases received
  · exact obeys_call trivial fun _ _ => discreto_guardar rfl (discreto_ler fun _ dele =>
      discreto_listarPedidosPendentes (fun _ => obeys_fail _) dele.usuario)

theorem discreto_callbackEntrega {data : Option Texto}
    (outro : ∀ t ∈ data, Texto.startsWith t "selecionar_pedido_".toList = false ∧
      Texto.startsWith t "recebido_".toList = false) : Discreto u c (callbackEntrega c data) := by
  refine obeys_bind (discreto_obter _) fun r => obeys_bind
    (discreto_tratarCallbackOrganizarRota discreto_wrapper fun t botao => (outro t botao).1)
      fun _ => obeys_ite (fun _ => obeys_pure ()) fun _ => ?_
  cases data with
  | none => exact obeys_fail _
  | some t => exact discreto_ramoEntrega (outro t rfl).2

end Listener

end Painel

section Chatbot

variable {u : Nat} {c : Chat} {r : Nat}

theorem discreto_enviarMensagem (mensagem : String) : Discreto u c (enviarMensagem c mensagem) :=
  obeys_handle (obeys_call trivial fun _ _ => obeys_bind (discreto_obter _) fun _ =>
    discreto_guardado rfl) fun _ => obeys_pure ()

theorem discreto_enviarMenuSetores (cargo : Option Cargo) :
    Discreto u c (enviarMenuSetores c cargo) := by
  unfold enviarMenuSetores
  split
  · exact discreto_enviarMensagem _
  · exact discreto_enviarMensagem _
  · exact discreto_enviarMensagem _
  · exact discreto_enviarMensagem _
  · exact obeys_pure ()

theorem discreto_solicitarNumeroTelefone : Discreto u c (solicitarNumeroTelefone c) :=
  obeys_handle (obeys_call trivial fun _ _ => obeys_pure ()) fun _ => discreto_enviarMensagem _

theorem discreto_gravar {α : Type} {campos : List Campo} {f : Fluxo α}
    (deles : ∀ campo ∈ campos, campo.DoEntregador u) (rest : Discreto u c f) :
    Discreto u c (faz (.atribuir c r campos) >>= fun _ => faz (.set c r) >>= fun _ => f) :=
  obeys_call ⟨rfl, deles⟩ fun _ _ => obeys_call trivial fun _ _ => rest

theorem discreto_limparChat : Discreto u c (limparChat c) := by
  refine obeys_call trivial fun found _ => ?_
  cases found with
  | none => exact obeys_pure ()
  | some r =>
    refine discreto_ler fun sessao _ => obeys_ite (fun _ => obeys_pure ()) fun _ => ?_
    refine obeys_handle ?_ fun _ => obeys_pure ()
    refine obeys_bind (discreto_obter _) fun r =>
      obeys_bind (obeys_handle (obeys_ask trivial) fun _ => obeys_pure false) fun _ =>
        discreto_ler fun sessao _ => obeys_bind (obeys_each fun id _ => ?_) fun _ =>
          obeys_call ⟨rfl, by simp [Campo.DoEntregador]⟩ fun _ _ => obeys_ask trivial
    exact obeys_bind (obeys_handle (obeys_ask trivial) fun _ => obeys_pure ()) fun _ =>
      obeys_ask trivial

theorem discreto_contato (phoneNumber : String) : Discreto u c (contato c phoneNumber) := by
  refine obeys_ite (fun _ => discreto_enviarMensagem _) fun _ => obeys_call trivial fun agora _ =>
    obeys_bind (discreto_obter _) fun r => obeys_handle ?_ fun _ => discreto_enviarMensagem _
  refine obeys_call ⟨rfl, rfl⟩ fun found seen => ?_
  obtain ⟨usuario, rfl, cargo⟩ := seen found rfl
  exact obeys_ite (fun _ => discreto_enviarMensagem _) fun _ => discreto_consulta trivial fun _ =>
    obeys_call trivial fun agora _ => discreto_gravar (by simp [Campo.DoEntregador])
      (discreto_enviarMensagem _)

theorem discreto_consultarUsuario {g : Option (Option (Nat × Usuario)) → Fluxo Unit}
    (nada : Discreto u c (g none))
    (rest : ∀ usuario : Usuario, usuario.cargo ≠ some .vendedor →
      Discreto u c (g (some (some (u, usuario))))) :
    Discreto u c (consultarUsuario c >>= g) := by
  rw [Discreto, Obeys, consultarUsuario, meets_bind, meets_handle, meets_bind]
  refine (meets_ask ..).mpr ⟨⟨rfl, rfl⟩, fun answer v seen => ?_⟩
  cases answer with
  | ok found =>
    obtain ⟨usuario, rfl, cargo⟩ := seen found rfl
    exact rest usuario cargo
  | error erro =>
    rw [then_error, catch_error, meets_bind]
    refine meets_mono (discreto_enviarMensagem _) fun answer v _ => ?_
    cases answer with
    | ok _ => exact nada
    | error e => trivial

theorem discreto_definirSenha (m : Mensagem) : Discreto u c (definirSenha c r m) :=
  obeys_ite (fun _ => discreto_enviarMensagem _) fun _ => obeys_handle
    (discreto_consulta trivial fun _ => obeys_call trivial fun _ _ =>
      discreto_gravar (by simp [Campo.DoEntregador])
        (discreto_ler fun _ _ => discreto_enviarMenuSetores _))
    fun _ => discreto_enviarMensagem _

theorem discreto_verificarSenha (m : Mensagem) : Discreto u c (verificarSenha c r m) := by
  refine obeys_ite (fun _ => discreto_enviarMensagem _) fun _ => obeys_handle ?_ fun _ =>
    discreto_enviarMensagem _
  refine obeys_call ⟨rfl, rfl⟩ fun found seen => ?_
  cases found with
  | none => exact discreto_enviarMensagem _
  | some found =>
    have cargo := seen found.1 found.2 rfl
    exact obeys_call trivial fun agora _ => discreto_gravar (by simp [Campo.DoEntregador, cargo])
      (discreto_enviarMensagem _)

theorem discreto_abrirSetor (m : Mensagem) : Discreto u c (abrirSetor c r m) := by
  refine obeys_call trivial fun agora _ => discreto_gravar (by simp [Campo.DoEntregador])
    (discreto_ler fun s _ => ?_)
  split
  · exact obeys_fail _
  · exact discreto_enviarMensagem _
  · exact obeys_bind (discreto_enviarMensagem _) fun _ => obeys_call trivial fun _ _ =>
      discreto_tratarEntrega discreto_enviarMensagem (fun _ other => by cases other)

theorem discreto_autenticarSetor (setor : Setor) (m : Mensagem) :
    Discreto u c (autenticarSetor c r setor m) := by
  refine obeys_ite (fun _ => discreto_enviarMensagem _) fun _ => obeys_handle ?_ fun _ =>
    discreto_enviarMensagem _
  refine discreto_consulta trivial fun senhaSetor => ?_
  cases senhaSetor with
  | none => exact discreto_enviarMensagem _
  | some senhaSetor =>
    exact obeys_call trivial fun senhaCorreta _ =>
      obeys_ite (fun _ => discreto_enviarMensagem _) fun _ => discreto_abrirSetor m

theorem discreto_usuarioLogado (m : Mensagem) : Discreto u c (usuarioLogado c r m) := by
  refine discreto_ler fun s dele => ?_
  split
  next => exact discreto_enviarMenuSetores _
  next setor chosen =>
    refine obeys_ite (fun _ => ?_) fun _ => discreto_autenticarSetor setor m
    refine obeys_handle (obeys_call trivial fun _ _ => ?_) fun _ => discreto_enviarMensagem _
    cases setor with
    | vendas => exact absurd chosen dele.setor
    | entrega =>
      exact discreto_tratarEntrega discreto_enviarMensagem (fun _ other => by cases other)

theorem discreto_usuarioCadastrado (m : Mensagem) {usuario : Usuario}
    (cargo : usuario.cargo ≠ some .vendedor) :
    Discreto u c (usuarioCadastrado c r m u usuario) := by
  refine discreto_gravar (by simp [Campo.DoEntregador, cargo]) (discreto_ler fun sessao _ =>
    obeys_ite (fun _ => discreto_definirSenha m) fun _ => obeys_ite (fun _ => ?_) fun _ =>
      obeys_ite (fun _ => discreto_verificarSenha m) fun _ => discreto_usuarioLogado m)
  exact obeys_bind discreto_solicitarNumeroTelefone fun _ => discreto_enviarMensagem _

theorem discreto_sessaoDeHoje (agora : Nat) : Discreto u c (sessaoDeHoje c agora r) :=
  discreto_ler fun _ _ => obeys_ite (fun _ => obeys_ask trivial) fun _ => obeys_pure r

theorem discreto_mensagem (m : Mensagem) : Discreto u c (mensagem c m) := by
  refine obeys_call trivial fun agora _ => obeys_bind (discreto_obter _) fun r =>
    obeys_call ⟨rfl, fun campo member => ?_⟩ fun _ _ => obeys_bind (discreto_sessaoDeHoje agora)
      fun r => discreto_ler fun sessao _ => obeys_ite (fun _ => ?_) fun _ =>
        discreto_gravar (by simp [Campo.DoEntregador]) (discreto_consultarUsuario (obeys_pure ())
          fun usuario cargo => discreto_usuarioCadastrado m cargo)
  · obtain ⟨id, -, rfl⟩ := List.mem_map.mp member
    trivial
  · exact obeys_call trivial fun _ _ => discreto_enviarMensagem _

/-- Only a seller may choose the other sector. -/
theorem discreto_escolherSetor (data : Texto) : Discreto u c (escolherSetor c r data) := by
  refine discreto_ler fun s dele => obeys_ite (fun _ => discreto_enviarMensagem _) fun _ => ?_
  split
  next => exact discreto_enviarMensagem _
  next setor _ =>
    refine obeys_ite (fun _ => discreto_enviarMensagem _) fun cargo =>
      obeys_call trivial fun agora _ => discreto_gravar ?_ (discreto_enviarMensagem _)
    have entrega : setor ≠ .vendas := by
      rintro rfl
      exact dele.cargo (not_not.mp cargo)
    simpa [Campo.DoEntregador] using entrega

theorem discreto_semSetor (data : Texto) : Discreto u c (semSetor c r data) :=
  discreto_ler fun _ _ => obeys_ite (fun _ => discreto_escolherSetor data) fun _ =>
    obeys_ite (fun _ => discreto_enviarMenuSetores _) fun _ => obeys_ite
      (fun _ => obeys_call trivial fun _ _ => discreto_enviarMensagem _) fun _ =>
        discreto_enviarMensagem _

theorem discreto_callbackChat {data : Option Texto}
    (outro : ∀ t ∈ data, Texto.startsWith t "justificativa_".toList = false) :
    Discreto u c (callbackChat c data) := by
  refine obeys_ite (fun _ => obeys_pure ()) fun some_data => obeys_call trivial fun _ _ =>
    obeys_call trivial fun agora _ => obeys_bind (discreto_obter _) fun r =>
      obeys_bind (discreto_sessaoDeHoje agora) fun r => ?_
  refine obeys_handle (discreto_ler fun s dele => ?_) fun _ => discreto_enviarMensagem _
  split
  next chosen _ => exact absurd chosen dele.setor
  next =>
    refine obeys_call trivial fun _ _ => discreto_tratarEntrega discreto_enviarMensagem ?_
    rintro t botao
    cases botao
    cases data with
    | none => exact absurd rfl some_data
    | some t => exact outro t rfl
  next => exact discreto_semSetor _

end Chatbot

section Corridas

variable {u : Nat} {c : Chat}

/-- An event of the chat, but for three kinds of buttons: one shows the address of the delivery it
names, whoever's, and two write the order of the delivery. -/
def Evento.Discreto (c : Chat) : Evento → Prop
  | mensagem c' _ | contato c' _ => c' = c
  | callbackEntrega c' data => c' = c ∧ ∀ t ∈ data,
    Texto.startsWith t "selecionar_pedido_".toList = false ∧
      Texto.startsWith t "recebido_".toList = false
  | callbackChat c' data => c' = c ∧ ∀ t ∈ data,
    Texto.startsWith t "justificativa_".toList = false
  | limpeza chats => ∀ c' ∈ chats, c' = c

theorem discreto_tratar {evento : Evento} (discreto : evento.Discreto c) :
    Discreto u c evento.tratar := by
  cases evento with
  | mensagem c' m =>
    obtain rfl : c' = c := discreto
    exact discreto_mensagem m
  | contato c' phoneNumber =>
    obtain rfl : c' = c := discreto
    exact discreto_contato phoneNumber
  | callbackEntrega c' data =>
    obtain ⟨rfl, outro⟩ := discreto
    exact discreto_callbackEntrega outro
  | callbackChat c' data =>
    obtain ⟨rfl, outro⟩ := discreto
    exact discreto_callbackChat outro
  | limpeza chats =>
    refine obeys_each fun c' member => ?_
    obtain rfl := discreto c' member
    exact discreto_limparChat

/-- The same step of two runs; what others leave in the database differs in the deliveries of
other couriers only. -/
inductive MesmoPasso (u : Nat) (c : Chat) : Action Evento Deriva → Action Evento Deriva → Prop
  | arrive {evento : Evento} (discreto : evento.Discreto c) :
    MesmoPasso u c (.arrive evento) (.arrive evento)
  | step (task : Nat) : MesmoPasso u c (.step task) (.step task)
  | drift {db db' : Db} (acaso : List Acaso) (falhas : List Falha) (parecido : db.Parecido u db')
    (cadastra : db.Cadastra u c) :
    MesmoPasso u c (.drift ⟨db, acaso, falhas⟩) (.drift ⟨db', acaso, falhas⟩)

theorem mesmoPasso_twin {a a' : Action Evento Deriva} (mesmo : MesmoPasso u c a a') :
    Twin bot (sigilo u c) (Mundo.Parecido u c) a a' := by
  cases mesmo with
  | arrive discreto =>
    exact .arrive fun p member => List.mem_singleton.mp member ▸ discreto_tratar discreto
  | step task => exact .step task
  | drift acaso falhas parecido cadastra =>
    refine .drift fun m m' antes => ⟨parecido, ?_, cadastra, antes.sessoes⟩
    rw [antes.resto]
    rfl

/-- Two runs of a courier's chat, interleaved and failing alike, between databases that differ only
in the deliveries of other couriers: they do and say the same at every moment, and differ
afterwards in those deliveries only. -/
theorem so_as_suas_entregas {m m' : Mundo} (parecido : m.Parecido u c m')
    {passos passos' : List (Action Evento Deriva)}
    (mesmos : List.Forall₂ (MesmoPasso u c) passos passos') :
    (bot.execute passos ⟨m, []⟩).tasks = (bot.execute passos' ⟨m', []⟩).tasks ∧
      (bot.execute passos ⟨m, []⟩).state.Parecido u c (bot.execute passos' ⟨m', []⟩).state := by
  let start (m : Mundo) : Config String Ato.Res Unit Mundo := ⟨m, []⟩
  have idle : Alike (sigilo u c) (Mundo.Parecido u c) (start m) (start m') :=
    ⟨parecido, rfl, fun _ member => absurd member List.not_mem_nil⟩
  have alike := execute_alike discreto_exec (mesmos.imp fun _ _ => mesmoPasso_twin) idle
  exact ⟨alike.tasks, alike.state⟩

/-- The courier of the chat 7 and another one have a delivery each. -/
def duasRuas (endereco : String) : Db where
  usuarios := .ofList [{ chatId := 7, cargo := some .entregador }]
  entregas := .ofList [
    { pedidoId := 1, clienteNumero := "45", entregadorId := some 1, status := .rua },
    { pedidoId := 2, clienteNumero := "46", entregadorId := some 2, status := .rua,
      endereco := some endereco }]

theorem duasRuas_parecido (endereco endereco' : String) :
    (duasRuas endereco).Parecido 1 (duasRuas endereco') := by
  refine ⟨_, rfl, fun n => ?_⟩
  by_cases alheia : n = 2
  · subst alheia
    rfl
  · by_cases minha : n = 1
    · subst minha
      rfl
    · simp [duasRuas, Table.ofList, Table.insert, Table.empty, alheia, minha]

theorem duasRuas_cadastra (endereco : String) :
    (duasRuas endereco).Cadastra 1 7 := by
  refine ⟨⟨_, rfl, rfl⟩, fun n usuario row _ => ?_⟩
  have member : (n, usuario) ∈ [(1, ({ chatId := 7, cargo := some .entregador } : Usuario))] :=
    Table.mem_rows.mpr row
  cases List.mem_singleton.mp member
  exact ⟨rfl, by decide⟩

/-- The courier asks for the list, and for the delivery of the other. -/
def perguntas : List (Action Evento Deriva) :=
  [.arrive (.callbackEntrega 7 (some "detalhes_pedido_2".toList)), .step 0,
    .arrive (.callbackChat 7 (some "lista".toList)), .step 0, .step 1]

theorem so_as_suas_entregas_perguntas :
    let antes (endereco : String) : Mundo := { db := duasRuas endereco }
    (bot.execute perguntas ⟨antes "Rua A", []⟩).tasks =
        (bot.execute perguntas ⟨antes "Rua B", []⟩).tasks ∧
      (bot.execute perguntas ⟨antes "Rua A", []⟩).state.Parecido 1 7
        (bot.execute perguntas ⟨antes "Rua B", []⟩).state := by
  refine so_as_suas_entregas ⟨duasRuas_parecido _ _, rfl, duasRuas_cadastra _,
    fun _ => doEntregador_novo {}⟩ ?_
  refine .cons (.arrive ⟨rfl, ?_⟩) (.cons (.step 0) (.cons (.arrive ⟨rfl, ?_⟩)
    (.cons (.step 0) (.cons (.step 1) .nil))))
  · rintro t botao
    cases botao
    exact ⟨rfl, rfl⟩
  · rintro t botao
    cases botao
    rfl

end Corridas
end IceClube
