import IceClube.Seguimento
import IceClube.Statements
import IceClube.Keys
import IceClube.Quantidade
import IceClube.VizinhoMaisProximo

/-! What becomes of the courier's deliveries when the route is made: the loop goes on until no
distance of a round is answered, and the deliveries that are left are in no list. -/
namespace IceClube

open Coop Prog Greedy

section Respostas

/-- The answer of `calculateDistance` out of the answers to come, and the ones behind it. -/
def respostaDe : Nat → List Acaso → Option Texto × List Acaso
  | 0, acaso => (none, acaso)
  | restantes + 1, acaso =>
    if (acaso.headD {}).numero ≠ 0 then (some (acaso.headD {}).texto, acaso.tail)
    else if restantes = 0 then (none, acaso.tail.tail)
    else respostaDe restantes acaso.tail

def respostas : Nat → List Acaso → List (Option Texto)
  | 0, _ => []
  | n + 1, acaso => (respostaDe 3 acaso).1 :: respostas n (respostaDe 3 acaso).2

def restam : Nat → List Acaso → List Acaso
  | 0, acaso => acaso
  | n + 1, acaso => restam n (respostaDe 3 acaso).2

/-- With `n` places left a round asks for `n` distances: none of these rounds is answered by
'N/A' alone. -/
def SemApagao : Nat → List Acaso → Prop
  | 0, _ => True
  | n + 1, acaso => (∃ d ∈ respostas (n + 1) acaso, distanceValue d ≠ none) ∧
      SemApagao n (restam (n + 1) acaso)

def Mundo.comAcaso (acaso : List Acaso) (m : Mundo) : Mundo := { m with acaso := acaso }

variable {c : Chat} {m m' : Mundo}

theorem run_pedirDistancia (origem destino : String) (calm : m.falhas = []) :
    (pedirDistancia origem destino).run Ato.exec m =
      (if m.sorte.numero = 0 then .error "Erro na API do Google" else .ok (some m.sorte.texto),
        m.seguinte) := by
  rw [pedirDistancia, run_calmo _ calm]
  simp only [Ato.sem, answered_ok, bind_done]
  by_cases unanswered : m.sorte.numero = 0
  · simp only [if_pos unanswered]
    rfl
  · simp only [if_neg unanswered]
    rfl

theorem run_tentarDistancia (origem destino : String) (restantes : Nat) (calm : m.falhas = []) :
    (tentarDistancia (enviarMensagemWrapper c) origem destino restantes).run Ato.exec m =
      (.ok (respostaDe restantes m.acaso).1, m.comAcaso (respostaDe restantes m.acaso).2) := by
  induction restantes generalizing m with
  | zero => rfl
  | succ restantes ih =>
    have calm' : m.seguinte.falhas = [] := calm
    rw [tentarDistancia, run_handle, run_pedirDistancia _ _ calm, respostaDe]
    by_cases answered : m.sorte.numero = 0
    · have drawn : ¬ (m.acaso.headD {}).numero ≠ 0 := not_not.mpr answered
      rw [if_pos answered, if_neg drawn]
      by_cases last : restantes = 0
      · simp only [if_pos last]
        rw [run_bind, run_wrapper _ calm']
        rfl
      · simp only [if_neg last]
        rw [run_calmo _ calm']
        exact ih calm'
    · have drawn : (m.acaso.headD {}).numero ≠ 0 := answered
      rw [if_neg answered, if_pos drawn]
      rfl

theorem run_calculateDistance (origem destino : String) (calm : m.falhas = []) :
    (calculateDistance (enviarMensagemWrapper c) origem destino).run Ato.exec m =
      (.ok (respostaDe 3 m.acaso).1, m.comAcaso (respostaDe 3 m.acaso).2) := by
  rw [calculateDistance, run_calmo _ calm]
  exact run_tentarDistancia origem destino 3 calm

theorem responde_calmo {origem : String} {locs : List Parada} {ds : List (Option Texto)}
    (responde : Responde c origem locs m ds m') (calm : m.falhas = []) :
    ds = respostas locs.length m.acaso ∧ m' = m.comAcaso (restam locs.length m.acaso) := by
  induction responde with
  | nada => exact ⟨rfl, rfl⟩
  | @outra loc locs m m' m'' d ds pergunta resto ih =>
    rw [run_calculateDistance _ _ calm, Prod.mk.injEq, Except.ok.injEq] at pergunta
    obtain ⟨rfl, rfl⟩ := pergunta
    obtain ⟨rfl, rfl⟩ := ih calm
    exact ⟨rfl, rfl⟩

theorem feitas_calmo {rodadas : List Rodada} (feitas : Feitas c rodadas m m')
    (calm : m.falhas = []) : ∃ acaso, m' = m.comAcaso acaso := by
  induction feitas with
  | nenhuma m => exact ⟨m.acaso, rfl⟩
  | mais feita resto ih =>
    obtain ⟨-, rfl⟩ := responde_calmo feita calm
    obtain ⟨acaso, rfl⟩ := ih calm
    exact ⟨acaso, rfl⟩

/-- Whether every round is answered can be told from the answers to come. -/
theorem semApagao_iff {inicio : String} {locs rota : List Parada} {rodadas : List Rodada}
    (tour : Tour Parada.address distanceValue inicio locs rodadas rota)
    (feitas : Feitas c rodadas m m') (calm : m.falhas = []) :
    (∀ rodada ∈ rodadas, ∃ d ∈ rodada.answers, distanceValue d ≠ none) ↔
      SemApagao locs.length m.acaso := by
  induction tour generalizing m with
  | ended => simp [SemApagao]
  | @stuck inicio locs ds some_left asked missing =>
    cases feitas with
    | mais feita resto =>
      obtain ⟨same, -⟩ := responde_calmo feita calm
      dsimp only at same
      obtain ⟨loc, locs, rfl⟩ := List.exists_cons_of_ne_nil some_left
      rw [List.length_cons, SemApagao, ← List.length_cons, ← same]
      have none_there : ¬ ∃ d ∈ ds, distanceValue d ≠ none := by
        rintro ⟨d, member, there⟩
        exact there (missing d member)
      simp [none_there]
  | @go inicio locs ds i loc d rodadas rota asked first later ih =>
    cases feitas with
    | mais feita resto =>
      obtain ⟨same, rfl⟩ := responde_calmo feita calm
      dsimp only at same
      have shorter := first.length_eraseIdx
      rw [← shorter, SemApagao, shorter, ← same, List.forall_mem_cons]
      exact and_congr_right fun _ => ih resto calm

end Respostas

section Mensagens

def excluidas (rota : List Parada) : List Parada :=
  rota.filter fun loc => loc.address = naoEspecificado

def validas (rota : List Parada) : List Parada :=
  rota.filter fun loc => loc.address ≠ naoEspecificado

def linhaDoPedido (loc : Parada) : String := s!"📦 Pedido #{loc.pedidoId}"

def avisoDeExcluidas (locs : List Parada) : String :=
  let invalidList := "\n".intercalate (locs.map linhaDoPedido)
  "⚠️ *Os seguintes pedidos não têm endereços válidos e foram excluídos da " ++
    s!"rota:*\n{invalidList}"

def relatorio (address : String) : String :=
  s!"📋 *Relatório de Rota Otimizada*\n\n*Ponto Inicial*: {address}\n"

theorem toString_injective {a b : Nat} (same : toString a = toString b) : a = b := by
  have values := congrArg (fun t : String => Texto.valor t.toList) same
  simpa only [Texto.valor_repr] using values

theorem linhaDoPedido_inj {a b : Parada} (same : linhaDoPedido a = linhaDoPedido b) :
    a.pedidoId = b.pedidoId := by
  exact toString_injective ((String.append_right_inj _).mp same)

theorem linhaDoPedido_uma (loc : Parada) : '\n' ∉ (linhaDoPedido loc).toList := by
  have literal : ∀ x ∈ (toString "📦 Pedido #").toList, x ≠ '\n' := by
    simpa only [List.all_eq_true, decide_eq_true_eq] using
      (by decide +kernel : (toString "📦 Pedido #").toList.all (fun x => x ≠ '\n') = true)
  intro inside
  simp only [linhaDoPedido, String.toList_append, List.mem_append] at inside
  rcases inside with label | number
  · exact literal _ label rfl
  · exact absurd (digitos_repr _ _ number) (by decide)

theorem linhas_avisadas {locs : List Parada} (some_left : locs ≠ []) :
    ("\n".intercalate (locs.map linhaDoPedido)).toList.splitOn '\n' =
      (locs.map linhaDoPedido).map String.toList := by
  have newline : "\n".toList = ['\n'] := rfl
  rw [String.toList_intercalate, newline]
  refine List.splitOn_intercalate _ ?_ (by simpa using some_left)
  intro line member
  simp only [List.map_map, List.mem_map] at member
  obtain ⟨loc, -, rfl⟩ := member
  exact linhaDoPedido_uma loc

/-- The notice names exactly the stops it was made of. -/
theorem avisoDeExcluidas_inj {locs locs' : List Parada}
    (same : avisoDeExcluidas locs = avisoDeExcluidas locs') (some_here : locs ≠ [])
    (some_there : locs' ≠ []) : locs.map Parada.pedidoId = locs'.map Parada.pedidoId := by
  have lists : "\n".intercalate (locs.map linhaDoPedido) =
      "\n".intercalate (locs'.map linhaDoPedido) :=
    (String.append_right_inj _).mp ((String.append_right_inj _).mp same)
  have parts := congrArg (fun t : String => t.toList.splitOn '\n') lists
  rw [linhas_avisadas some_here, linhas_avisadas some_there] at parts
  have rows := List.map_injective_iff.mpr (fun _ _ => String.toList_injective) parts
  rw [← List.forall₂_eq_eq_eq, List.forall₂_map_left_iff, List.forall₂_map_right_iff] at rows ⊢
  exact rows.imp fun a b => linhaDoPedido_inj

end Mensagens

section Relato

variable {c : Chat} {r : Nat} {m : Mundo}

def EnviaBotoes (c : Chat) (texto : String) (teclado : List String) (o : Ato) (m : Mundo) : Prop :=
  o = .sendMessage c texto teclado ∧ m.alcanca = true

theorem envia_wrapper {α : Type} (mensagem : String) (calm : m.falhas = []) (f : Unit → Fluxo α) :
    (enviarMensagemWrapper c mensagem >>= f).run Ato.exec m = (f ()).run Ato.exec m.seguinte ∧
      ∀ texto, Ocorre (EnviaTexto c texto) (enviarMensagemWrapper c mensagem >>= f) m ↔
        texto = mensagem ∨ Ocorre (EnviaTexto c texto) (f ()) m.seguinte := by
  have answer : Ato.exec (.sendMessage c mensagem []) m = (.ok m.sorte.numero, m.seguinte) :=
    Ato.exec_calmo _ calm
  have whole : (enviarMensagemWrapper c mensagem >>= f) =
      (faz (.sendMessage c mensagem []) >>= fun _ => f ()) := by
    rw [enviarMensagemWrapper, bind_assoc]
    rfl
  rw [whole]
  refine ⟨(faz_ok (P := fun _ _ => True) answer fun _ => f ()).1, fun texto => ?_⟩
  have arrives : EnviaTexto c texto (.sendMessage c mensagem []) m ↔ texto = mensagem := by
    simp [EnviaTexto, alcanca_calmo calm, eq_comm]
  rw [(faz_ok answer fun _ => f ()).2, arrives]

/-- The part of `relatarRota` behind the notice. -/
def salvarERelatar (c : Chat) (r : Nat) (rota : List Parada) : Fluxo Unit := do
  let sessao ← faz (.ler c r)
  match sessao.pontoInicial with
  | none => fail indefinida
  | some address => do
    consulta c (.salvarRota sessao.usuarioId address (rota.map fun loc => (loc.pedidoId, loc.address)))
    let sessao ← faz (.ler c r)
    match sessao.pontoInicial with
    | none => fail indefinida
    | some address => do
      let _ ← faz (.sendMessage c (relatorio address) (botoesDaRota rota))
      faz (.atribuir c r voltarAoSubmenu)
      faz (.set c r)

theorem relatarRota_eq (rota : List Parada) :
    relatarRota c r (enviarMensagemWrapper c) rota = (do
      let sessao ← faz (.ler c r)
      let aviso : Fluxo Unit :=
        if excluidas sessao.rota = [] then pure ()
        else enviarMensagemWrapper c (avisoDeExcluidas (excluidas sessao.rota))
      aviso
      salvarERelatar c r rota) := rfl

theorem not_envia_fim (campos : List Campo) (texto : String) :
    ¬ Ocorre (EnviaTexto c texto) (faz (.atribuir c r campos) >>= fun _ => faz (.set c r)) m := by
  refine ocorre_calls ?_ m
  refine calls_bind ((calls_ask _).mpr fun _ sent => ?_) fun _ => (calls_ask _).mpr fun _ sent => ?_
  all_goals
    obtain ⟨⟨_, same⟩, -⟩ := sent
    cases same

structure Relatada (c : Chat) (f : Fluxo Unit) (m : Mundo) (u : Nat) (address : String)
    (rota : List Parada) (avisos : List String) : Prop where
  db : (f.run Ato.exec m).2.db =
    m.db.novaRotaSalva (some u) address (rota.map fun loc => (loc.pedidoId, loc.address))
  envia : ∀ texto, Ocorre (EnviaTexto c texto) f m ↔ texto ∈ avisos ∨ texto = relatorio address
  botoes : Ocorre (EnviaBotoes c (relatorio address) (botoesDaRota rota)) f m

theorem salvarERelatar_calmo {s : Sessao} {address : String} {u : Nat} (rota : List Parada)
    (calm : m.falhas = []) (here : (m.conversas c).objetos r = s)
    (start : s.pontoInicial = some address) (courier : s.usuarioId = some u) :
    Relatada c (salvarERelatar c r rota) m u address rota [] := by
  have known : ((m.conversas c).objetos r).usuarioId = some u := by rw [here, courier]
  let q : SqlBot := .salvarRota ((m.conversas c).objetos r).usuarioId address
    (rota.map fun loc => (loc.pedidoId, loc.address))
  have accepted : q.recusa = none := by
    simp only [q, known]
    rfl
  let fim : Unit → Fluxo Unit := fun _ => do
    faz (.atribuir c r voltarAoSubmenu)
    faz (.set c r)
  let o : Ato := .sendMessage c (relatorio address) (botoesDaRota rota)
  have goes : Segue c (salvarERelatar c r rota) m (faz o >>= fun _ => fim ()) (m.aplica c q) := by
    refine (segue_ler _).trans ?_
    have begun : ((m.conversas c).objetos r).pontoInicial = some address := by rw [here, start]
    simp only [begun]
    refine (segue_consulta (q := q) _ calm accepted).trans ?_
    refine (segue_ler _).trans ?_
    simp only [objetos_aplica, begun]
    exact .refl _ _
  have arrives : (m.aplica c q).alcanca = true := alcanca_calmo calm
  have answer : o.exec (m.aplica c q) = (.ok (m.aplica c q).sorte.numero, (m.aplica c q).seguinte) :=
    Ato.exec_calmo _ calm
  refine ⟨?_, fun texto => ?_, goes.ocorre ((faz_ok answer _).2.mpr (.inl ⟨rfl, arrives⟩))⟩
  · rw [goes.run, (faz_ok (P := fun _ _ => True) answer _).1, ← known]
    rfl
  · have sent : EnviaTexto c texto o (m.aplica c q) ↔ texto = relatorio address := by
      simp [EnviaTexto, o, arrives, eq_comm]
    rw [goes.envia, (faz_ok answer _).2, or_iff_left (not_envia_fim _ _), sent]
    simp

theorem relatarRota_calmo {s : Sessao} {address : String} {u : Nat} (rota : List Parada)
    (calm : m.falhas = []) (here : (m.conversas c).objetos r = s)
    (start : s.pontoInicial = some address) (courier : s.usuarioId = some u) :
    Relatada c (relatarRota c r (enviarMensagemWrapper c) rota) m u address rota
      (if excluidas s.rota = [] then [] else [avisoDeExcluidas (excluidas s.rota)]) := by
  have goes := segue_ler (c := c) (r := r) (m := m) fun sessao => (do
    let aviso : Fluxo Unit :=
      if excluidas sessao.rota = [] then pure ()
      else enviarMensagemWrapper c (avisoDeExcluidas (excluidas sessao.rota))
    aviso
    salvarERelatar c r rota)
  rw [← relatarRota_eq, here] at goes
  by_cases everyone : excluidas s.rota = []
  · simp only [if_pos everyone] at goes ⊢
    have saved := salvarERelatar_calmo (m := m) rota calm here start courier
    exact ⟨by rw [goes.run]; exact saved.db, fun texto => (goes.envia texto).trans (saved.envia texto),
      goes.ocorre saved.botoes⟩
  · simp only [if_neg everyone] at goes ⊢
    obtain ⟨run, sends⟩ := envia_wrapper (avisoDeExcluidas (excluidas s.rota)) calm fun _ =>
      salvarERelatar c r rota
    have saved := salvarERelatar_calmo (m := m.seguinte) rota calm here start courier
    refine ⟨?_, fun texto => ?_, goes.ocorre ?_⟩
    · rw [goes.run, run]
      exact saved.db
    · rw [goes.envia, sends, saved.envia]
      simp
    · have warned := run_wrapper (c := c) (avisoDeExcluidas (excluidas s.rota)) calm
      exact (ocorre_bind_ok warned).2.mpr (.inr saved.botoes)

end Relato

section Laco

variable {c : Chat} {m : Mundo}

def semDistancia : String := "⚠️ Erro ao calcular distância. Tente novamente mais tarde."

theorem calls_rotaOtimizada {P : Ato → Prop} (timer : ∀ ms, P (.setTimeout ms))
    (asks : ∀ origem destino, P (.distancematrix origem destino))
    (gives_up : P (.sendMessage c semDistancia [])) (voltas : Nat) (origem : String)
    (locs : List Parada) : (rotaOtimizada (enviarMensagemWrapper c) voltas origem locs).Calls P := by
  have tentar (origem destino : String) (restantes : Nat) :
      (tentarDistancia (enviarMensagemWrapper c) origem destino restantes).Calls P := by
    induction restantes with
    | zero => exact calls_done none
    | succ restantes ih =>
      refine calls_handle (calls_bind ((calls_ask _).mpr (asks _ _)) fun d => ?_) fun e => ?_
      · cases d with
        | none => exact calls_fail _
        | some d => exact calls_done _
      · split
        · exact calls_bind (calls_bind ((calls_ask _).mpr gives_up) fun _ => calls_done ())
            fun _ => calls_done none
        · exact calls_bind ((calls_ask _).mpr (timer _)) fun _ => ih
  have proxima (origem : String) (locs : List (Parada × Nat))
      (nearest : Option (Nat × Parada × ℚ)) :
      (maisProxima (enviarMensagemWrapper c) origem locs nearest).Calls P := by
    induction locs generalizing nearest with
    | nil => exact calls_done nearest
    | cons loc locs ih =>
      exact calls_bind (calls_bind ((calls_ask _).mpr (timer _)) fun _ => tentar _ _ 3) fun d =>
        ih _
  induction voltas generalizing origem locs with
  | zero => exact calls_done []
  | succ voltas ih =>
    refine calls_bind (proxima _ _ _) fun nearest => ?_
    cases nearest with
    | none => exact calls_done []
    | some found => exact calls_bind (ih _ _) fun rota => calls_done _

theorem trace_calmo {α : Type} {f : Fluxo α} (calm : m.falhas = []) :
    ∀ x ∈ f.trace Ato.exec m, x.2.falhas = [] := by
  induction f generalizing m with
  | done a => simp [trace]
  | fail e => simp [trace]
  | call o next ih =>
    intro x member
    rcases List.mem_cons.mp member with rfl | later
    · exact calm
    · refine ih _ ?_ x later
      rw [Ato.exec_calmo o calm, o.falhas_sem, calm]

/-- Where every message is sent the loop ends, and changes nothing but the answers to come. -/
theorem laco_calmo (inicio : String) (locs : List Parada) (calm : m.falhas = []) :
    ∃ rota acaso rodadas,
      (rotaOtimizada (enviarMensagemWrapper c) locs.length inicio locs).run Ato.exec m =
        (.ok rota, m.comAcaso acaso) ∧ Feitas c rodadas m (m.comAcaso acaso) ∧
      Tour Parada.address distanceValue inicio locs rodadas rota ∧
      ∀ texto, Ocorre (EnviaTexto c texto)
        (rotaOtimizada (enviarMensagemWrapper c) locs.length inicio locs) m → texto = semDistancia := by
  rcases run : (rotaOtimizada (enviarMensagemWrapper c) locs.length inicio locs).run Ato.exec m with
    ⟨answer, m'⟩
  cases answer with
  | error e =>
    obtain ⟨x, member, -, rough⟩ := soSemEnvio_rotaOtimizada _ _ _ e m' run
    rw [Mundo.falha, trace_calmo calm x member] at rough
    exact absurd rfl rough
  | ok rota =>
    obtain ⟨rodadas, feitas, tour⟩ := passeio_rotaOtimizada (Nat.le_refl _) run
    obtain ⟨acaso, rfl⟩ := feitas_calmo feitas calm
    refine ⟨rota, acaso, rodadas, rfl, feitas, tour, ?_⟩
    rintro texto ⟨x, member, sent, -⟩
    have calls := calls_rotaOtimizada (c := c) (P := fun o => ∀ texto teclado,
      o = .sendMessage c texto teclado → texto = semDistancia) (fun _ _ _ same => by cases same)
      (fun _ _ _ _ same => by cases same) (fun _ _ same => by cases same; rfl) locs.length inicio locs
    exact sent.elim (calls_trace calls m x member texto)

end Laco

section Conclusao

variable (c : Chat) (r : Nat) (m : Mundo)

/-- The deliveries that the courier of the session has on the way. -/
def daRua : List (Nat × Entrega) :=
  m.db.entregas.rows.filter fun e =>
    e.2.status = .rua && e.2.de ((m.conversas c).objetos r).usuarioId

/-- The handler's own list has those of approved orders alone. -/
def naRua : List (Nat × Entrega) := m.db.entregasDe [.rua] ((m.conversas c).objetos r).usuarioId

def coletada : Mundo :=
  ((m.grava c r [.etapa (some .coletandoPedidos)]).aplica c
    (.selectEntregas ((m.conversas c).objetos r).usuarioId)).conversa c
    (·.atribui r [.rota (paradas (naRua c r m))])

variable {c r m}

theorem objetos_coletada : ((coletada c r m).conversas c).objetos r =
    { (m.conversas c).objetos r with
      etapa := some .coletandoPedidos, rota := paradas (naRua c r m) } := by
  rw [coletada, Mundo.conversas_conversa, Conversa.objetos_atribui, objetos_aplica]
  simp [Mundo.grava, Sessao.atribuirTodos, Sessao.atribuir]

def aposLista (c : Chat) (r : Nat) (pedidos : List (Nat × Entrega)) : Fluxo Unit :=
  if pedidos = [] then
    semPedidos c r (enviarMensagemWrapper c) [.rotaAtiva false,
      .etapa (some .submenuOrganizarRota), .submenu (some .organizarRota)]
  else do
    faz (.atribuir c r [.rota (paradas pedidos)])
    if (paradas pedidos).all fun loc => loc.address = naoEspecificado then do
      enviarMensagemWrapper c "⚠️ *Nenhum pedido com endereço válido para gerar a rota.*"
      faz (.atribuir c r voltarAoSubmenu)
      faz (.set c r)
    else do
      let sessao ← faz (.ler c r)
      match sessao.pontoInicial with
      | some address => gerarRota c r (enviarMensagemWrapper c) address sessao.rota
      | none => fail indefinida

theorem segue_lista (calm : m.falhas = []) :
    Segue c (concluirEdicao c r (enviarMensagemWrapper c)) m (aposLista c r (naRua c r m))
      ((m.grava c r [.etapa (some .coletandoPedidos)]).aplica c
        (.selectEntregas ((m.conversas c).objetos r).usuarioId)) := by
  refine (segue_answer calm _).trans ?_
  refine (segue_grava _).trans ?_
  refine (segue_ler _).trans ?_
  have session : ((m.grava c r [.etapa (some .coletandoPedidos)]).conversas c).objetos r =
      { (m.conversas c).objetos r with etapa := some .coletandoPedidos } := by
    simp [Mundo.grava, Sessao.atribuirTodos, Sessao.atribuir]
  have known : (((m.grava c r [.etapa (some .coletandoPedidos)]).conversas c).objetos r).usuarioId =
      ((m.conversas c).objetos r).usuarioId := by rw [session]
  rw [known]
  have still : (m.grava c r [.etapa (some .coletandoPedidos)]).falhas = [] := calm
  exact segue_consulta (q := .selectEntregas ((m.conversas c).objetos r).usuarioId) _ still rfl

theorem segue_concluirEdicao (calm : m.falhas = []) (some_valid : validas (paradas (naRua c r m)) ≠ []) :
    Segue c (concluirEdicao c r (enviarMensagemWrapper c)) m
      (match ((m.conversas c).objetos r).pontoInicial with
      | some address =>
        gerarRota c r (enviarMensagemWrapper c) address (paradas (naRua c r m))
      | none => fail indefinida) (coletada c r m) := by
  refine (segue_lista calm).trans ?_
  have some_delivery : naRua c r m ≠ [] := by
    intro empty
    rw [empty] at some_valid
    exact some_valid rfl
  have not_all : ¬ ((paradas (naRua c r m)).all fun loc => loc.address = naoEspecificado) = true := by
    intro all
    apply some_valid
    simpa [validas, List.filter_eq_nil_iff] using all
  rw [aposLista, if_neg some_delivery]
  refine (segue_atribuir _).trans ?_
  change Segue c (if ((paradas (naRua c r m)).all _) = true then _ else _) (coletada c r m) _ _
  rw [if_neg not_all]
  refine (segue_ler _).trans ?_
  rw [objetos_coletada]
  exact .refl _ _

/-- The handler of an address at hand saves the stops of a tour and names those left out. -/
structure Concluida (c : Chat) (r : Nat) (m : Mundo) (address : String) (rodadas : List Rodada)
    (rota : List Parada) : Prop where
  passeio : Tour Parada.address distanceValue address (validas (paradas (naRua c r m))) rodadas rota
  feitas : ∃ m', Feitas c rodadas (coletada c r m) m'
  salva : ∃ u, ((concluirEdicao c r (enviarMensagemWrapper c)).run Ato.exec m).2.db.rotasSalvas =
    m.db.rotasSalvas.insert
      ⟨u, address, rota.map fun loc => (loc.pedidoId, loc.address), m.db.agora, none⟩
  mensagens : ∀ texto,
    Ocorre (EnviaTexto c texto) (concluirEdicao c r (enviarMensagemWrapper c)) m →
      texto = semDistancia ∨ texto = relatorio address ∨
        excluidas (paradas (naRua c r m)) ≠ [] ∧
          texto = avisoDeExcluidas (excluidas (paradas (naRua c r m)))
  relato : Ocorre (EnviaBotoes c (relatorio address) (botoesDaRota rota))
    (concluirEdicao c r (enviarMensagemWrapper c)) m

theorem usuario_conhecido (some_valid : validas (paradas (naRua c r m)) ≠ []) :
    ∃ u, ((m.conversas c).objetos r).usuarioId = some u := by
  cases known : ((m.conversas c).objetos r).usuarioId with
  | some u => exact ⟨u, rfl⟩
  | none =>
    have nobody : naRua c r m = [] := by
      rw [naRua, known]
      exact List.filter_eq_nil_iff.mpr fun e _ => by simp [Entrega.de]
    rw [nobody] at some_valid
    exact absurd rfl some_valid

theorem concluida_calmo {address : String} (calm : m.falhas = [])
    (some_valid : validas (paradas (naRua c r m)) ≠ [])
    (start : ((m.conversas c).objetos r).pontoInicial = some address) :
    ∃ rodadas rota, Concluida c r m address rodadas rota := by
  have goes := segue_concluirEdicao calm some_valid
  simp only [start] at goes
  have still : (coletada c r m).falhas = [] := calm
  obtain ⟨rota, acaso, rodadas, run, feitas, tour, told⟩ :=
    laco_calmo (c := c) address (validas (paradas (naRua c r m))) still
  have whole : (gerarRota c r (enviarMensagemWrapper c) address (paradas (naRua c r m))).run Ato.exec
      (coletada c r m) = (relatarRota c r (enviarMensagemWrapper c) rota).run Ato.exec
        ((coletada c r m).comAcaso acaso) :=
    (ocorre_bind_ok (P := fun _ _ => True) run).1
  obtain ⟨u, courier⟩ := usuario_conhecido some_valid
  have session := objetos_coletada (c := c) (r := r) (m := m)
  have reported := relatarRota_calmo (m := (coletada c r m).comAcaso acaso) rota still session start
    courier
  refine ⟨rodadas, rota, tour, ⟨_, feitas⟩, ⟨u, ?_⟩, fun texto sent => ?_, ?_⟩
  · rw [goes.run, whole, reported.db]
    rfl
  · rw [goes.envia] at sent
    have parts := (ocorre_bind_ok (P := EnviaTexto c texto) run).2.mp sent
    rcases parts with loop | report
    · exact .inl (told texto loop)
    · rcases (reported.envia texto).mp report with notice | report
      · by_cases everyone : excluidas (paradas (naRua c r m)) = []
        · simp [everyone] at notice
        · exact .inr (.inr ⟨everyone, by simpa [everyone] using notice⟩)
      · exact .inr (.inl report)
  · exact goes.ocorre ((ocorre_bind_ok run).2.mpr (.inr reported.botoes))

variable (c r m)

/-- The route that is saved has the delivery once, and so have the buttons of the report that is
sent of it. -/
def NaRota (f : Fluxo Unit) (id : Nat) : Prop :=
  ∃ (nova : RotaSalva) (teclado : List String),
    (f.run Ato.exec m).2.db.rotasSalvas = m.db.rotasSalvas.insert nova ∧
    (nova.rota.map (·.1)).count id = 1 ∧
    Ocorre (EnviaBotoes c (relatorio nova.pontoInicial) teclado) f m ∧
    teclado.count s!"detalhes_pedido_{id}" = 1

def Nomeada (f : Fluxo Unit) (id : Nat) : Prop :=
  ∃ locs : List Parada, Ocorre (EnviaTexto c (avisoDeExcluidas locs)) f m ∧
    id ∈ locs.map Parada.pedidoId

/-- The delivery is in the route, or the courier is told that it is not. -/
def Consta (id : Nat) : Prop :=
  let f := concluirEdicao c r (enviarMensagemWrapper c)
  NaRota c (m.comFalhas []) f id ∨ Nomeada c (m.comFalhas []) f id

/-- Where every call is answered, no delivery with an address disappears. -/
def NaoSome : Prop :=
  ∀ p ∈ daRua c r m, ou p.2.endereco naoEspecificado ≠ naoEspecificado → Consta c r m p.1

variable {c r m}

theorem detalhes_inj {a b : Nat} (same : s!"detalhes_pedido_{a}" = s!"detalhes_pedido_{b}") :
    a = b :=
  toString_injective ((String.append_right_inj _).mp same)

theorem count_botoesDaRota (rota : List Parada) (id : Nat) :
    (botoesDaRota rota).count s!"detalhes_pedido_{id}" = (rota.map Parada.pedidoId).count id := by
  have others : s!"detalhes_pedido_{id}" ∉ ["voltar_menu", "sair"] := by
    have first : s!"detalhes_pedido_{id}".toList.head? = some 'd' := by
      rw [String.toList_append, List.head?_append]
      rfl
    intro inside
    rcases List.mem_pair.mp inside with same | same <;> rw [same] at first <;> cases first
  rw [botoesDaRota, List.count_append, List.count_eq_zero.mpr others, Nat.add_zero,
    ← List.count_map_of_injective _ (fun id : Nat => s!"detalhes_pedido_{id}")
      fun a b => detalhes_inj, List.map_map]
  rfl

theorem nodup_paradas : ((paradas (naRua c r m)).map Parada.pedidoId).Nodup := by
  have ids : (paradas (naRua c r m)).map Parada.pedidoId = (naRua c r m).map (·.1) := by
    simp [paradas]
  rw [ids]
  exact m.db.entregas.nodup_ids.sublist (List.filter_sublist.map _)

/-- A tour that has the identifier of each of its places once has them all. -/
theorem perm_of_ids {rota locs : List Parada} (some_missed : ∃ fora, (rota ++ fora).Perm locs)
    (distinct : (locs.map Parada.pedidoId).Nodup)
    (every : ∀ loc ∈ locs, loc.pedidoId ∈ rota.map Parada.pedidoId) : rota.Perm locs := by
  obtain ⟨fora, perm⟩ := some_missed
  cases fora with
  | nil => rwa [List.append_nil] at perm
  | cons loc fora =>
    have member : loc ∈ locs := perm.subset (List.mem_append_right _ List.mem_cons_self)
    have ids := (perm.map Parada.pedidoId).nodup_iff.mpr distinct
    rw [List.map_append] at ids
    exact absurd (List.mem_map_of_mem List.mem_cons_self)
      (List.disjoint_of_nodup_append ids (every loc member))

theorem nomeada_excluida {rodadas : List Rodada} {rota : List Parada} {address : String} {id : Nat}
    (finished : Concluida c r m address rodadas rota)
    (told : Nomeada c m (concluirEdicao c r (enviarMensagemWrapper c)) id) :
    id ∈ (excluidas (paradas (naRua c r m))).map Parada.pedidoId := by
  obtain ⟨locs, sent, named⟩ := told
  have begins : (avisoDeExcluidas locs).toList.take 4 =
      "⚠️ *Os seguintes pedidos não têm endereços válidos e foram excluídos da ".toList.take 4 :=
    take_append (by decide +kernel)
  rcases finished.mensagens _ sent with same | same | ⟨some_left, same⟩
  · rw [same] at begins
    exact absurd begins (by decide +kernel)
  · have whole : relatorio address =
        "📋 *Relatório de Rota Otimizada*\n\n*Ponto Inicial*: " ++ (address ++ "\n") :=
      String.append_assoc
    have reported := congrArg (fun t : String => t.toList.take 4) whole
    rw [take_append (by decide +kernel), ← same, begins] at reported
    exact absurd reported (by decide +kernel)
  · have some_here : locs ≠ [] := by
      rintro rfl
      cases named
    rwa [avisoDeExcluidas_inj same some_here some_left] at named

theorem not_nomeada {rodadas : List Rodada} {rota : List Parada} {address : String} {loc : Parada}
    (finished : Concluida c r m address rodadas rota) (valid : loc ∈ validas (paradas (naRua c r m))) :
    ¬ Nomeada c m (concluirEdicao c r (enviarMensagemWrapper c)) loc.pedidoId := by
  intro told
  obtain ⟨other, left_out, ids⟩ := List.mem_map.mp (nomeada_excluida finished told)
  obtain ⟨member, missing⟩ := List.mem_filter.mp left_out
  obtain ⟨here, there⟩ := List.mem_filter.mp valid
  have one := List.inj_on_of_nodup_map nodup_paradas member here ids
  rw [one] at missing
  simp only [decide_eq_true_eq] at missing there
  exact there missing

theorem naRota_iff {rodadas : List Rodada} {rota : List Parada} {address : String} {id : Nat}
    (finished : Concluida c r m address rodadas rota) :
    NaRota c m (concluirEdicao c r (enviarMensagemWrapper c)) id ↔
      id ∈ rota.map Parada.pedidoId := by
  obtain ⟨u, saved⟩ := finished.salva
  have ids : (rota.map fun loc => (loc.pedidoId, loc.address)).map (·.1) =
      rota.map Parada.pedidoId := by simp
  have distinct : (rota.map Parada.pedidoId).Nodup := by
    obtain ⟨fora, perm⟩ := finished.passeio.perm
    have whole := (perm.map Parada.pedidoId).nodup_iff.mpr
      (nodup_paradas.sublist (List.filter_sublist.map _))
    rw [List.map_append] at whole
    exact whole.of_append_left
  constructor
  · rintro ⟨nova, teclado, also, once, -, -⟩
    rw [saved] at also
    have row := congrArg (fun t : Table RotaSalva => t.get m.db.rotasSalvas.next) also
    simp only [Table.get_insert, if_pos, Option.some.injEq] at row
    rw [← row, ids] at once
    exact List.count_pos_iff.mp (by omega)
  · intro member
    have once := List.count_eq_one_of_mem distinct member
    refine ⟨_, _, saved, by rw [ids, once], finished.relato, ?_⟩
    rw [count_botoesDaRota, once]

/-- Nothing is saved where nothing is written. -/
theorem not_naRota {f : Fluxo Unit} {id : Nat} (same : (f.run Ato.exec m).2.db = m.db) :
    ¬ NaRota c m f id := by
  rintro ⟨nova, teclado, saved, -⟩
  have next := congrArg Table.next saved
  rw [same] at next
  change m.db.rotasSalvas.next = m.db.rotasSalvas.next + 1 at next
  omega

/-- Without a start nothing is saved and nothing is shown. -/
theorem not_consta_semInicio {id : Nat} (some_valid : validas (paradas (naRua c r m)) ≠ [])
    (start : ((m.conversas c).objetos r).pontoInicial = none) : ¬ Consta c r m id := by
  have goes := segue_concluirEdicao (m := m.comFalhas []) rfl some_valid
  simp only [Mundo.conversas_comFalhas, start] at goes
  rintro (kept | ⟨locs, sent, -⟩)
  · refine not_naRota ?_ kept
    rw [goes.run]
    rfl
  · rw [goes.envia] at sent
    obtain ⟨x, member, -⟩ := sent
    cases member

/-- A message that does not begin like the notice. -/
def Outra (mensagem : String) : Prop :=
  ∀ locs : List Parada, avisoDeExcluidas locs ≠ mensagem

theorem outra_of_take {mensagem : String}
    (apart : mensagem.toList.take 5 ≠
      "⚠️ *Os seguintes pedidos não têm endereços válidos e foram excluídos da ".toList.take 5) :
    Outra mensagem := by
  rintro locs rfl
  exact apart (take_append (by decide +kernel))

theorem not_consta_semEndereco {id : Nat} (none_valid : validas (paradas (naRua c r m)) = []) :
    ¬ Consta c r m id := by
  have goes := segue_lista (c := c) (r := r) (m := m.comFalhas []) rfl
  let Quieto : Ato → Prop := fun o =>
    o.Le ∧ ∀ locs w, ¬ EnviaTexto c (avisoDeExcluidas locs) o w
  have wrapper {mensagem : String} (other : Outra mensagem) :
      (enviarMensagemWrapper c mensagem).Calls Quieto := by
    refine calls_bind ((calls_ask _).mpr ⟨trivial, ?_⟩) fun _ => calls_done ()
    rintro locs w ⟨⟨_, same⟩, -⟩
    exact other locs (Ato.sendMessage.inj same).2.1.symm
  have grava (campos : List Campo) :
      (faz (.atribuir c r campos) >>= fun _ => faz (.set c r)).Calls Quieto := by
    refine calls_bind ((calls_ask _).mpr ⟨trivial, ?_⟩) fun _ => (calls_ask _).mpr ⟨trivial, ?_⟩
    all_goals
      rintro locs w ⟨⟨_, same⟩, -⟩
      cases same
  have quiet : (aposLista c r (naRua c r (m.comFalhas []))).Calls Quieto := by
    have all : (paradas (naRua c r m)).all fun loc => loc.address = naoEspecificado := by
      simpa [validas, List.filter_eq_nil_iff] using none_valid
    rw [aposLista, if_pos (show (paradas (naRua c r (m.comFalhas []))).all _ from all)]
    split
    · have assigned := grava [.rotaAtiva false, .etapa (some .submenuOrganizarRota),
        .submenu (some .organizarRota)]
      refine calls_bind ((calls_ask _).mpr ⟨trivial, ?_⟩) fun _ =>
        calls_bind ((calls_ask _).mpr ⟨trivial, ?_⟩) fun _ => wrapper (outra_of_take (by decide +kernel))
      all_goals
        rintro locs w ⟨⟨_, same⟩, -⟩
        cases same
    · refine calls_bind ((calls_ask _).mpr ⟨trivial, ?_⟩) fun _ =>
        calls_bind (wrapper (outra_of_take (by decide +kernel))) fun _ => grava _
      rintro locs w ⟨⟨_, same⟩, -⟩
      cases same
  rintro (kept | ⟨locs, sent, -⟩)
  · refine not_naRota ?_ kept
    rw [goes.run, db_run (calls_mono (fun _ quiet => quiet.1) quiet)]
    rfl
  · rw [goes.envia] at sent
    exact ocorre_calls (calls_mono (fun _ quiet => quiet.2 locs) quiet) _ sent

/-- What is not in the handler's list is neither in the route nor named. -/
theorem not_consta_fora {id : Nat} (absent : id ∉ (naRua c r m).map (·.1)) : ¬ Consta c r m id := by
  by_cases some_valid : validas (paradas (naRua c r m)) = []
  · exact not_consta_semEndereco some_valid
  cases start : ((m.conversas c).objetos r).pontoInicial with
  | none => exact not_consta_semInicio some_valid start
  | some address =>
    have ids : (paradas (naRua c r m)).map Parada.pedidoId = (naRua c r m).map (·.1) := by
      simp [paradas]
    obtain ⟨rodadas, rota, finished⟩ :=
      concluida_calmo (m := m.comFalhas []) rfl some_valid start
    rintro (kept | named)
    · obtain ⟨fora, perm⟩ := finished.passeio.perm
      obtain ⟨loc, member, rfl⟩ := List.mem_map.mp ((naRota_iff finished).mp kept)
      have inside := perm.subset (List.mem_append_left fora member)
      exact absent (ids ▸ List.mem_map_of_mem (List.mem_filter.mp inside).1)
    · obtain ⟨loc, left_out, rfl⟩ := List.mem_map.mp (nomeada_excluida finished named)
      exact absent (ids ▸ List.mem_map_of_mem (List.mem_filter.mp left_out).1)

theorem consta_paradas : (∀ p ∈ naRua c r m, ou p.2.endereco naoEspecificado ≠ naoEspecificado →
      Consta c r m p.1) ↔ ∀ loc ∈ validas (paradas (naRua c r m)), Consta c r m loc.pedidoId := by
  constructor
  · intro every loc member
    obtain ⟨inside, valid⟩ := List.mem_filter.mp member
    obtain ⟨p, here, rfl⟩ := List.mem_map.mp inside
    exact every p here (of_decide_eq_true valid)
  · intro every p here address
    exact every ⟨p.1, _⟩ (List.mem_filter.mpr ⟨List.mem_map_of_mem here, decide_eq_true address⟩)

/-- With a start every round must be answered. -/
theorem consta_comecada {address : String} (some_valid : validas (paradas (naRua c r m)) ≠ [])
    (start : ((m.conversas c).objetos r).pontoInicial = some address) :
    (∀ loc ∈ validas (paradas (naRua c r m)), Consta c r m loc.pedidoId) ↔
      SemApagao (validas (paradas (naRua c r m))).length m.acaso := by
  obtain ⟨rodadas, rota, finished⟩ := concluida_calmo (m := m.comFalhas []) rfl some_valid start
  obtain ⟨m', feitas⟩ := finished.feitas
  have answered := semApagao_iff finished.passeio feitas rfl
  have present (loc : Parada) (member : loc ∈ validas (paradas (naRua c r m))) :
      Consta c r m loc.pedidoId ↔ loc.pedidoId ∈ rota.map Parada.pedidoId := by
    rw [Consta, or_iff_left (not_nomeada finished member)]
    exact naRota_iff finished
  refine Iff.trans ?_ (finished.passeio.complete_iff.trans answered)
  constructor
  · intro every
    exact perm_of_ids finished.passeio.perm
      (nodup_paradas.sublist (List.filter_sublist.map _)) fun loc member =>
        (present loc member).mp (every loc member)
  · intro perm loc member
    exact (present loc member).mpr (List.mem_map_of_mem (perm.mem_iff.mpr member))

/-- Of the handler's list none disappears exactly if none has an address, or the route has a start
and no round is without a distance. -/
theorem consta_iff : (∀ loc ∈ validas (paradas (naRua c r m)), Consta c r m loc.pedidoId) ↔
    validas (paradas (naRua c r m)) = [] ∨ ((m.conversas c).objetos r).pontoInicial ≠ none ∧
      SemApagao (validas (paradas (naRua c r m))).length m.acaso := by
  by_cases empty : validas (paradas (naRua c r m)) = []
  · simp [empty]
  rw [or_iff_right empty]
  cases start : ((m.conversas c).objetos r).pontoInicial with
  | none =>
    obtain ⟨loc, member⟩ := List.exists_mem_of_ne_nil _ empty
    exact iff_of_false (fun every => not_consta_semInicio empty start (every loc member))
      fun started => started.1 rfl
  | some address =>
    rw [and_iff_right (by simp)]
    exact consta_comecada empty start

theorem mem_naRua {p : Nat × Entrega} :
    p ∈ naRua c r m ↔ p ∈ daRua c r m ∧ m.db.pedidoValido p.2.pedidoId = true := by
  simp only [naRua, daRua, Db.entregasDe, List.mem_filter, Bool.and_eq_true, decide_eq_true_eq,
    List.contains_eq_mem, List.mem_singleton]
  tauto

/-- No delivery disappears exactly if those with an address are of approved orders, and none has
one, or the route has a start and no round is without a distance. -/
theorem naoSome_iff (c : Chat) (r : Nat) (m : Mundo) :
    let locs := validas (paradas (naRua c r m))
    NaoSome c r m ↔
      (∀ p ∈ daRua c r m, ou p.2.endereco naoEspecificado ≠ naoEspecificado →
        m.db.pedidoValido p.2.pedidoId = true) ∧
      (locs = [] ∨
        ((m.conversas c).objetos r).pontoInicial ≠ none ∧ SemApagao locs.length m.acaso) := by
  intro locs
  rw [← consta_iff, ← consta_paradas]
  constructor
  · intro every
    refine ⟨fun p member address => ?_, fun p member => every p (mem_naRua.mp member).1⟩
    by_contra unapproved
    refine not_consta_fora (fun inside => unapproved ?_) (every p member address)
    obtain ⟨q, listed, same⟩ := List.mem_map.mp inside
    have row := Table.mem_rows.mp (List.mem_filter.mp member).1
    obtain ⟨there, approved⟩ := mem_naRua.mp listed
    have other := Table.mem_rows.mp (List.mem_filter.mp there).1
    rw [same, row, Option.some.injEq] at other
    rw [other]
    exact approved
  · rintro ⟨approved, listed⟩ p member address
    exact listed p (mem_naRua.mpr ⟨member, approved p member address⟩) address

/-- A courier with one delivery; the answers to come are no distances. -/
def umaEntregaSemSinal : Mundo where
  db :=
    { pedidosDiarios := .ofList [{ clienteNumero := "45999", status := .rua, valido := some 1 }]
      entregas := .ofList [{ pedidoId := 1, clienteNumero := "45999", entregadorId := some 7,
                             status := .rua, endereco := some "Rua A, 10" }] }
  conversas _ :=
    { sessao := some 0
      objetos := fun _ => { usuarioId := some 7, pontoInicial := some "Rua B, 20" } }

/-- The three attempts fail: the route is saved and shown without the delivery, and the courier is
not told of it. -/
theorem entrega_sem_distancia : ¬ NaoSome 1 0 umaEntregaSemSinal := by
  intro every
  have one : validas (paradas (naRua 1 0 umaEntregaSemSinal)) = [⟨1, "Rua A, 10"⟩] := by
    decide +kernel
  have listed := consta_paradas.mp fun p member => every p (mem_naRua.mp member).1
  have answered := (consta_comecada (by rw [one]; simp) rfl).mp listed
  rw [one] at answered
  obtain ⟨⟨d, member, there⟩, -⟩ := answered
  rw [List.mem_singleton.mp member] at there
  exact there rfl

end Conclusao
end IceClube
