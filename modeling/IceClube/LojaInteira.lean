import IceClube.Sharing
import IceClube.Vinculos

/-! All that writes to the shop's database at once: the routes of the web server and the bot,
each with any number of requests under way, and whatever else keeps the links of the rows. What the
bot wrote may be undone: by a `ROLLBACK`, its own or another handler's, or by MySQL. -/
namespace IceClube

open Coop Prog Worker

section Rotas

/-- What a request may rely on: the orders it has read are there, tied as they were. -/
def Conhece (lidos : List (Nat × Pedido)) (db : Db) : Prop :=
  ∀ x ∈ lidos, ∃ p, db.pedidosDiarios.get x.1 = some p ∧ x.2.Ligado p

/-- A delivery is made of an order that was read, and an order or a sale in a transaction
only. -/
def contratoDeEnvio : Contract String Op.Res (List (Nat × Pedido)) where
  pre
    | .sql (.insertEntrega id pedido _), lidos => (id, pedido) ∈ lidos
    | .sql (.insertVenda _), _ | .sql (.insertPedido ..), _ => False
    | _, _ => True
  post
    | .sql .selectParaEntrega, lidos, answer, lidos' => lidos' = lidos ++ answer.toOption.getD []
    | _, lidos, _, lidos' => lidos' = lidos

theorem conhece_liga {lidos : List (Nat × Pedido)} {db db' : Db} (known : Conhece lidos db)
    (kept : db.Liga db') : Conhece lidos db' := by
  intro x member
  obtain ⟨p, found, same⟩ := known x member
  obtain ⟨p', found', changed⟩ := kept.pedidos x.1 p found
  exact ⟨p', found', same.trans changed⟩

theorem conhece_paraEntrega {lidos : List (Nat × Pedido)} {db : Db} (known : Conhece lidos db) :
    Conhece (lidos ++ (Sql.sem .selectParaEntrega db).1) db := by
  intro x member
  rcases List.mem_append.mp member with old | read
  · exact known x old
  · have row := Table.mem_rows.mp (List.mem_filter.mp read).1
    exact ⟨x.2, row, .refl _⟩

theorem Sql.segue {q : Sql} {lidos : List (Nat × Pedido)} {db : Db} (known : Conhece lidos db)
    (sent : contratoDeEnvio.pre (.sql q) lidos) : db.Segue (q.sem db).2 := by
  cases q with
  | insertVenda venda => exact sent.elim
  | insertPedido clienteNumero vendaId => exact sent.elim
  | updateStatus status id => exact (Db.altera_setStatus status id db).segue
  | updateRua id => exact (Db.altera_setStatus .rua id db).segue
  | updateValido valido status id => exact (Db.altera_setValido valido status id db).segue
  | insertEntrega id pedido rota =>
    obtain ⟨p, found, same⟩ := known (id, pedido) sent
    exact Db.segue_novaEntrega found same.clienteNumero same.data
  | insertEntregaSelect entregadorId pedidoId =>
    rw [Sql.sem]
    split
    next => exact Db.segue_igual rfl rfl rfl
    next pedido found => exact Db.segue_novaEntrega found rfl rfl
  | _ => exact Db.segue_igual rfl rfl rfl

/-- The calls of a request that make no delivery of an order they have read. -/
def Op.SemEnvio : Op → Prop
  | .sql (.insertEntrega ..) | .sql (.insertVenda _) | .sql (.insertPedido ..)
  | .sql .selectParaEntrega => False
  | _ => True

theorem semEnvio_pre {o : Op} (sent : o.SemEnvio) (lidos : List (Nat × Pedido)) :
    contratoDeEnvio.pre o lidos := by
  rcases o with q | t
  · cases q with
    | insertEntrega | insertVenda | insertPedido => exact sent.elim
    | _ => trivial
  · trivial

theorem semEnvio_post {o : Op} (sent : o.SemEnvio) {lidos lidos' : List (Nat × Pedido)}
    {answer : Except String o.Res} (post : contratoDeEnvio.post o lidos answer lidos') :
    lidos' = lidos := by
  rcases o with q | t
  · cases q with
    | selectParaEntrega => exact sent.elim
    | _ => exact post
  · exact post

theorem semEnvio_alterarStatus (corpo : CorpoStatus) : (alterarStatus corpo).Calls Op.SemEnvio := by
  rw [alterarStatus]
  split
  · trivial
  split
  · trivial
  · refine calls_handle (calls_bind ((calls_ask _).mpr trivial) fun affectedRows => ?_)
      fun _ => trivial
    split
    · trivial
    · exact calls_bind ((calls_ask _).mpr trivial) fun _ => trivial

theorem semEnvio_lancamentos (corpo : CorpoLancamento) : (lancamentos corpo).Calls Op.SemEnvio := by
  rw [lancamentos]
  split
  · trivial
  · exact calls_bind ((calls_ask _).mpr trivial) fun _ => (calls_ask _).mpr trivial

theorem semEnvio_editarItens (corpo : CorpoItens) : (editarItens corpo).Calls Op.SemEnvio := by
  have regravar (linha : Linha) : (regravarItem corpo.pedidoId linha).Calls Op.SemEnvio := by
    rw [regravarItem]
    split
    · split
      · exact (calls_ask _).mpr trivial
      · trivial
    · trivial
  rw [editarItens]
  split
  · refine calls_handle (calls_bind ((calls_ask _).mpr trivial) fun _ => ?_) fun _ => trivial
    exact calls_bind (calls_each regravar _) fun _ => trivial
  · trivial

/-- A delivery is made of every order that the route has read. -/
theorem envia_enviarParaEntrega (rota : Option Nat) (lidos : List (Nat × Pedido)) :
    Meets contratoDeEnvio (enviarParaEntrega rota) (fun _ _ => True) lidos := by
  rw [enviarParaEntrega, meets_handle, meets_bind, meets_ask]
  refine ⟨trivial, fun answer lidos' post => ?_⟩
  cases answer with
  | error e => trivial
  | ok pedidos =>
    have post : lidos' = lidos ++ pedidos := post
    rw [then_ok, meets_bind]
    refine meets_mono (meets_each (J := fun v => v = lidos') (fun x member v same => ?_) _ rfl)
      fun r v' _ => ?_
    · rw [meets_ask]
      refine ⟨?_, fun _ v' kept => kept.trans same⟩
      rw [same, post]
      exact List.mem_append_right _ member
    · cases r <;> trivial

theorem envia_rota (requisicao : Requisicao) :
    Meets contratoDeEnvio requisicao.rota (fun _ _ => True) [] := by
  have plain {p : Rota Resposta} (calls : p.Calls Op.SemEnvio) :
      Meets contratoDeEnvio p (fun _ _ => True) [] :=
    meets_mono (calls_frame (J := fun lidos => lidos = []) calls
      (fun o lidos sent same => ⟨semEnvio_pre sent lidos, fun answer lidos' post =>
        (semEnvio_post sent post).trans same⟩) rfl) fun _ _ _ => trivial
  cases requisicao with
  | alterarStatus corpo => exact plain (semEnvio_alterarStatus corpo)
  | valido corpo =>
    refine plain ?_
    rw [Requisicao.rota, valido]
    split
    · trivial
    · exact (calls_ask _).mpr trivial
  | lancamentos corpo => exact plain (semEnvio_lancamentos corpo)
  | pedidoManual corpo =>
    refine plain ?_
    rw [Requisicao.rota, pedidoManual]
    split
    · trivial
    · exact calls_bind ((calls_ask _).mpr trivial) fun _ =>
        calls_bind ((calls_ask _).mpr trivial) fun _ => (calls_ask _).mpr trivial
  | editarItens corpo => exact plain (semEnvio_editarItens corpo)
  | enviarParaEntrega rota => exact envia_enviarParaEntrega rota []
  | atribuirEntregas corpo =>
    refine plain (calls_mono (fun o sent => ?_) (calls_atribuirEntregas corpo))
    rcases o with q | t
    · cases q with
      | insertEntregaSelect | updateRua => trivial
      | _ => exact sent.elim
    · exact sent.elim

theorem Op.segue {o : Op} {lidos : List (Nat × Pedido)} {w : Faulty Db}
    (known : Conhece lidos w.state) (sent : contratoDeEnvio.pre o lidos) :
    w.state.Segue (Op.exec o w).2.state := by
  rcases o with q | t
  · exact faulty_keeps (Q := w.state.Segue) q (Db.segue_igual rfl rfl rfl)
      (Sql.segue known sent)
  · exact t.segue w

def OpEstoque.SemEnvio : OpEstoque → Prop
  | .rota o => o.SemEnvio
  | .tela _ => True

theorem calls_noEstoque {α : Type} {P : OpEstoque → Prop} {p : Rota α}
    (calls : p.Calls fun o => P (.rota o)) : (noEstoque p).Calls P := by
  induction p with
  | done a => trivial
  | fail e => trivial
  | call o next ih => exact ⟨calls.1, fun answer _ _ => ih answer (calls_next calls answer)⟩

theorem semEnvio_estoque (requisicao : ReqEstoque) :
    requisicao.rota.Calls OpEstoque.SemEnvio := by
  have sql (q : Sql) (sent : Op.SemEnvio (.sql q)) : (sqlEstoque q).Calls OpEstoque.SemEnvio :=
    (calls_ask _).mpr sent
  have tela (q : SqlTela) : (sqlTela q).Calls OpEstoque.SemEnvio := (calls_ask _).mpr trivial
  cases requisicao with
  | entrada corpo =>
    rw [ReqEstoque.rota, entrada]
    split
    · trivial
    · refine calls_handle (calls_bind (sql _ trivial) fun _ => ?_) fun _ => trivial
      exact calls_bind (sql _ trivial) fun _ => trivial
  | saida corpo =>
    rw [ReqEstoque.rota, saida]
    split
    · trivial
    · refine calls_handle (calls_bind (sql _ trivial) fun item => ?_) fun _ => trivial
      cases item with
      | none => trivial
      | some item =>
        dsimp only [baixar]
        split
        · trivial
        · exact calls_bind (sql _ trivial) fun _ => calls_bind (sql _ trivial) fun _ => trivial
  | lancamentos corpo => exact calls_noEstoque (semEnvio_lancamentos corpo)
  | editar id edicao =>
    refine calls_bind (tela _) fun item => ?_
    cases item with
    | none => trivial
    | some item =>
      dsimp only [patchEstoque]
      split
      · trivial
      · refine calls_handle (calls_bind (tela _) fun affectedRows => ?_) fun _ => trivial
        split <;> trivial

theorem OpEstoque.segue {o : OpEstoque} {w : Faulty Db} (sent : o.SemEnvio) :
    w.state.Segue (OpEstoque.exec o w).2.state := by
  cases o with
  | rota o =>
    have known : Conhece [] w.state := fun _ member => absurd member List.not_mem_nil
    exact Op.segue known (semEnvio_pre sent [])
  | tela q =>
    refine faulty_keeps (Q := w.state.Segue) q (Db.segue_igual rfl rfl rfl) ?_
    cases q <;> exact Db.segue_igual rfl rfl rfl

theorem OpUsuarios.segue {o : OpUsuarios} {db : Db} (sent : o.DasRotas) :
    db.Segue (o.sem db).2 := by
  have known : Conhece [] db := fun _ member => absurd member List.not_mem_nil
  rcases o with (q | t) | q
  · cases q with
    | insertEntregaSelect | updateRua => exact Sql.segue known trivial
    | _ => exact sent.elim
  · exact sent.elim
  · cases q <;> exact Db.segue_igual rfl rfl rfl

end Rotas

section Vendas

inductive ReqPagina where
  | getPedidosPendentes
  | getVendas (filtros : FiltrosVendas)
  | getComprovante (id : Nat)
  | postEditarPagamento (formaPagamento : String) (id : Option Nat)
  | getPedido (id : Nat)

/-- What they answer changes nothing. -/
def ReqPagina.rota : ReqPagina → Pagina Unit
  | .getPedidosPendentes => do let _ ← IceClube.getPedidosPendentes
  | .getVendas filtros => do let _ ← IceClube.getVendas filtros
  | .getComprovante id => do let _ ← IceClube.getComprovante id
  | .postEditarPagamento forma id => do let _ ← IceClube.postEditarPagamento forma id
  | .getPedido id => do let _ ← IceClube.getPedido id

def paginas : System ReqPagina Empty String SqlPagina.Res Unit (Faulty Loja) :=
  autocommit SqlPagina.sem Tx.rejeicao ReqPagina.rota fun _ loja => loja

def recebimentos : System CorpoValor Empty String SqlValor.Res Resposta (Faulty LojaConferida) :=
  autocommit SqlValor.sem Tx.rejeicao atualizarValorRecebido fun _ x => x

theorem SqlPagina.segue (q : SqlPagina) (loja : Loja) : loja.db.Segue (q.sem loja).2.db := by
  cases q with
  | updatePagamento forma id =>
    cases id with
    | none => exact Db.segue_igual rfl rfl rfl
    | some id =>
      refine Db.segue_modificaVenda _ _ fun v => ?_
      exact ⟨.mk rfl, fun h => h⟩
  | _ => exact Db.segue_igual rfl rfl rfl

theorem SqlValor.segue (q : SqlValor) (x : LojaConferida) : x.db.Segue (q.sem x).2.db := by
  cases q with
  | updateValor valor id =>
    refine Db.segue_modificaVenda _ _ fun v => ?_
    exact ⟨.mk rfl, fun h => h⟩
  | insertLog id detalhes => exact Db.segue_igual rfl rfl rfl

theorem SqlAjuste.segue (q : SqlAjuste) (loja : Loja) : loja.db.Segue (q.sem loja).2.db := by
  cases q with
  | updateStatus status id =>
    cases id with
    | none => exact Db.segue_igual rfl rfl rfl
    | some id => exact (Db.altera_setStatus status id loja.db).segue
  | updateVenda forma status valorTotal id =>
    refine Db.segue_modificaVenda _ _ fun v => ?_
    exact ⟨.mk rfl, fun h => h⟩

end Vendas

section Bot

/-- What changes on its own: the answers from outside, and whether MySQL ends a transaction of the
bot, because of a deadlock or with a connection that it closes. -/
structure Sorte where
  acasos : List Acaso
  falhas : List Falha
  encerra : Bool

/-- The bot where only the server changes the database behind its back. -/
def botDaLoja : System Evento Sorte String Ato.Res Unit Mundo where
  exec := Ato.exec
  sync := Ato.sync
  listeners evento := [evento.tratar]
  drift sorte m := m.derivar ⟨m.db, sorte.acasos, sorte.falhas⟩

theorem Ato.segue (o : Ato) (m : Mundo) : m.db.Segue (o.exec m).2.db := by
  have efeito (falhas : List Falha) : m.db.Segue (o.sem (m.comFalhas falhas)).2.db := by
    cases o with
    | query c q =>
      rw [Ato.sem]
      split
      · exact Db.segue_igual rfl rfl rfl
      · exact (SqlBot.altera q m.db).segue
    | updateComprovante c imagem vendaId =>
      refine Db.segue_modificaVenda _ _ fun v => ?_
      exact ⟨.mk rfl, fun h => h⟩
    | _ => exact Db.segue_igual rfl rfl rfl
  exact Ato.exec_regra (R := fun _ m' => m.db.Segue m'.db) efeito
    (fun _ _ _ => Db.segue_igual rfl rfl rfl) fun _ falhas _ => efeito falhas

/-- The step sends a `ROLLBACK`, or a transaction ends without one. -/
def desfaz (c : Config String Ato.Res Unit Mundo) : Action Evento Sorte → Bool
  | .drift sorte => sorte.encerra
  | a => (c.issued a).any fun o =>
    match o with
    | .query _ .rollback => true
    | _ => false

/-- What is undone depends on the connections that the pool has lent: the bot writes no column that
ties two rows, and adds no order, sale or delivery. -/
def botQueDesfaz : Worker Db :=
  undoing (ofSystem botDaLoja (·.db) (fun db m => { m with db := db }) fun _ _ => rfl) desfaz
    Db.MesmosVinculos

end Bot

/-- The programs that share the database. The last one stands for all that is not under the
others' control: the stored procedures of a sale, and whoever else writes to it. -/
inductive Programa where
  | rotas | estoque | usuarios | paginas | recebimentos | ajustes | bot | outro
  deriving DecidableEq, Repr

section Programas

variable (outro : Worker Db)

def Programa.worker : Programa → Worker Db
  | .rotas => ofSystem servidor (·.state) (fun db w => ⟨db, w.faults⟩) fun _ _ => rfl
  | .estoque => ofSystem almoxarifado (·.state) (fun db w => ⟨db, w.faults⟩) fun _ _ => rfl
  | .usuarios => ofSystem servidorDeUsuarios (·.state) (fun db w => ⟨db, w.faults⟩) fun _ _ => rfl
  | .paginas => ofSystem IceClube.paginas (·.state.db)
      (fun db w => ⟨{ w.state with db := db }, w.faults⟩) fun _ _ => rfl
  | .recebimentos => ofSystem IceClube.recebimentos (·.state.db)
      (fun db w => ⟨{ w.state with db := db }, w.faults⟩) fun _ _ => rfl
  | .ajustes => ofSystem IceClube.ajustes (·.state.db)
      (fun db w => ⟨{ w.state with db := db }, w.faults⟩) fun _ _ => rfl
  | .bot => botQueDesfaz
  | .outro => outro

/-- All of them at work on one database, a step of any of them at a time. -/
def lojaInteira : Worker Db := crew (Programa.worker outro)

variable {outro}

def Programa.Parado (sabe : outro.Conf → Prop) : (i : Programa) → (i.worker outro).Conf → Prop
  | .rotas, c => c.tasks = []
  | .estoque, c => c.tasks = []
  | .usuarios, c => c.tasks = []
  | .paginas, c => c.tasks = []
  | .recebimentos, c => c.tasks = []
  | .ajustes, c => c.tasks = []
  | .bot, c => c.tasks = []
  | .outro, c => sabe c

/-- The bot undoes nothing. -/
def Programa.NadaDesfaz : (i : Programa) → (i.worker outro).Conf → (i.worker outro).Act → Prop
  | .bot, c, a => desfaz c a.1 = false
  | _, _, _ => True

variable {sabe : outro.Conf → Prop}

theorem mantem_trans (a b c : Db) (first : a.Mantem b) (second : b.Mantem c) : a.Mantem c :=
  first.trans second

theorem liga_trans (a b c : Db) (first : a.Liga b) (second : b.Liga c) : a.Liga c :=
  first.trans second

theorem Db.Segue.honra {db db' : Db} (segue : db.Segue db') (coerente : db.Coerente) :
    db.Mantem db' ∧ db'.Coerente := ⟨segue.1, segue.2 coerente⟩

theorem garante_servidor : Guarantees servidor (·.state) contratoDeEnvio Conhece Db.Mantem
    Db.Coerente where
  refl := Db.mantem_refl
  trans := mantem_trans
  stable _ _ _ known kept := conhece_liga known kept.liga
  call o w lidos coerente known sent := by
    obtain ⟨kept, coerente'⟩ := (Op.segue known sent).honra coerente
    refine ⟨kept, coerente', ?_⟩
    have same := conhece_liga known kept.liga
    rcases o with q | t
    · cases q with
      | selectParaEntrega =>
        cases fault : w.faults.headD false with
        | true =>
          refine ⟨lidos, ?_, same⟩
          simp [servidor, Op.exec, Faulty.exec_rejected _ fault, contratoDeEnvio,
            Except.toOption]
        | false =>
          refine ⟨lidos ++ (Sql.sem .selectParaEntrega w.state).1, ?_, ?_⟩
          · simp [servidor, Op.exec, Faulty.exec_answered _ fault, contratoDeEnvio,
              Except.toOption]
          · change Conhece _ (Faulty.exec Sql.sem Tx.rejeicao .selectParaEntrega w).2.state
            rw [Faulty.exec_answered _ fault]
            exact conhece_paraEntrega known
      | _ => exact ⟨lidos, rfl, same⟩
    · exact ⟨lidos, rfl, same⟩
  starts requisicao p member :=
    ⟨[], fun _ _ absent => absurd absent List.not_mem_nil,
      List.mem_singleton.mp member ▸ envia_rota requisicao⟩
  drifts dt w :=
    have segue : w.state.Segue (servidor.drift dt w).state := Db.segue_igual rfl rfl rfl
    segue.honra

theorem respeita_ocioso {Req Env ε Op α S V : Type} {Res : Op → Type}
    {M : System Req Env ε Res α S} {get : S → Db} {set : Db → S → S}
    {get_set : ∀ d s, get (set d s) = d} {K : Contract ε Res V} {known : V → Db → Prop}
    {P : Prop} (guarantees : Guarantees M get K known Db.Mantem Db.Coerente)
    (stable : ∀ v d d', known v d → Db.Liga d d' → known v d') :
    ∃ inv : (ofSystem M get set get_set).Conf → Prop,
      (ofSystem M get set get_set).Respects Db.Liga Db.Coerente inv ∧
        (P → Keeps Db.Mantem Db.Coerente (ofSystem M get set get_set) inv (fun _ _ => True)) ∧
        ∀ c : Config ε Res α S, c.tasks = [] → inv c := by
  obtain ⟨inv, respects, keeps, idle⟩ := respects_idle guarantees Db.liga_refl liga_trans
    (fun _ _ => Db.Mantem.liga) stable
  exact ⟨inv, respects, fun _ => keeps, idle⟩

theorem Programa.respeita (fora : outro.Respects Db.Liga Db.Coerente sabe) (i : Programa) :
    ∃ inv, (i.worker outro).Respects Db.Liga Db.Coerente inv ∧
      (Keeps Db.Mantem Db.Coerente outro sabe (fun _ _ => True) →
        Keeps Db.Mantem Db.Coerente (i.worker outro) inv i.NadaDesfaz) ∧
      ∀ c, i.Parado sabe c → inv c := by
  cases i with
  | rotas => exact respeita_ocioso garante_servidor fun _ _ _ => conhece_liga
  | estoque =>
    refine respeita_ocioso (guarantees_calls Db.mantem_refl mantem_trans
      (fun requisicao _ member => List.mem_singleton.mp member ▸ semEnvio_estoque requisicao)
      (fun o w sent => (OpEstoque.segue sent).honra) fun dt w => ?_) fun _ _ _ known _ => known
    have segue : w.state.Segue (almoxarifado.drift dt w).state := Db.segue_igual rfl rfl rfl
    exact segue.honra
  | usuarios =>
    refine respeita_ocioso (guarantees_autocommit (fun db => db) Db.mantem_refl mantem_trans
      calls_usuarios (fun o db sent => (OpUsuarios.segue sent).honra) fun dt db => ?_)
      fun _ _ _ known _ => known
    have segue : db.Segue { db with agora := db.agora + dt } := Db.segue_igual rfl rfl rfl
    exact segue.honra
  | paginas =>
    exact respeita_ocioso (guarantees_autocommit Loja.db Db.mantem_refl mantem_trans
      (fun _ => calls_any _) (fun q loja _ => (SqlPagina.segue q loja).honra)
      fun change => change.elim) fun _ _ _ known _ => known
  | recebimentos =>
    exact respeita_ocioso (guarantees_autocommit (fun x : LojaConferida => x.db)
      Db.mantem_refl mantem_trans
      (fun _ => calls_any _) (fun q x _ => (SqlValor.segue q x).honra) fun change => change.elim)
      fun _ _ _ known _ => known
  | ajustes =>
    exact respeita_ocioso (guarantees_autocommit Loja.db Db.mantem_refl mantem_trans
      (fun _ => calls_any _) (fun q loja _ => (SqlAjuste.segue q loja).honra)
      fun change => change.elim) fun _ _ _ known _ => known
  | bot =>
    have guarantees : Guarantees botDaLoja (·.db)
        (⟨fun _ _ => True, fun _ _ _ _ => True⟩ : Contract String Ato.Res Unit) (fun _ _ => True)
        Db.Mantem Db.Coerente := by
      refine guarantees_calls Db.mantem_refl mantem_trans
        (fun _ _ _ => calls_any _) (fun o m _ => (Ato.segue o m).honra) fun sorte m => ?_
      have segue : m.db.Segue (botDaLoja.drift sorte m).db := Db.segue_igual rfl rfl rfl
      exact segue.honra
    obtain ⟨inv, respects, keeps, idle⟩ := respects_idle guarantees Db.liga_refl liga_trans
      (fun _ _ => Db.Mantem.liga) fun _ _ _ known _ => known
    refine ⟨inv, respects_undoing respects liga_trans fun _ _ undone coerente => ?_,
      fun _ => keeps_undoing keeps, idle⟩
    exact ⟨undone.liga, undone.coerente coerente⟩
  | outro => exact ⟨sabe, fora, id, fun _ free => free⟩

/-- The step undoes nothing. -/
def NadaDesfaz (c : (lojaInteira outro).Conf) (a : (lojaInteira outro).Act) : Prop :=
  Programa.NadaDesfaz a.1 (c.1.1 a.1) a.2

/-- From where no request is under way, they all respect the links of the rows, and what was
received or closed where nothing is undone. -/
theorem lojaInteira_respeita (fora : outro.Respects Db.Liga Db.Coerente sabe) :
    ∃ inv, (lojaInteira outro).Respects Db.Liga Db.Coerente inv ∧
      (Keeps Db.Mantem Db.Coerente outro sabe (fun _ _ => True) →
        Keeps Db.Mantem Db.Coerente (lojaInteira outro) inv NadaDesfaz) ∧
      ∀ c : (lojaInteira outro).Conf, (∀ i : Programa, i.Parado sabe (c.1.1 i)) → inv c := by
  choose inv each keeps idle using Programa.respeita fora
  exact ⟨_, respects_crew each, fun avanca => keeps_crew fun i => keeps i avanca,
    fun c free i => idle i _ (free i)⟩

end Programas

section Exemplo

/-- A procedure that records a sale with its order, as the manual order does. -/
def registrar : Worker Db where
  Conf := Db
  Act := CorpoPedido × ℚ
  advance a db := db.comPedido a.1 a.2
  store db := db
  setStore db _ := db
  store_set _ _ := rfl

theorem respeita_registrar : registrar.Respects Db.Liga Db.Coerente fun _ => True where
  step a db coerente _ :=
    ⟨(Db.segue_comPedido a.1 a.2 db).1.liga, (Db.segue_comPedido a.1 a.2 db).2 coerente, trivial⟩
  bears _ _ _ _ _ := trivial

theorem avanca_registrar : Keeps Db.Mantem Db.Coerente registrar (fun _ => True) fun _ _ => True :=
  fun a db _ _ _ => (Db.segue_comPedido a.1 a.2 db).1

def Programa.vazio : (i : Programa) → (i.worker registrar).Conf
  | .rotas | .estoque | .usuarios => ⟨⟨{}, []⟩, []⟩
  | .paginas | .ajustes => ⟨⟨{ db := {} }, []⟩, []⟩
  | .recebimentos => ⟨⟨{ db := {} }, []⟩, []⟩
  | .bot => ⟨{}, []⟩
  | .outro => ({} : Db)

def nadaDesfeito : {f : Db → Db // ∀ db : Db, db.MesmosVinculos (f db)} :=
  ⟨id, fun _ => (Db.altera_igual rfl rfl rfl).mesmosVinculos⟩

/-- A sale is recorded, its order is packed and sent, while the courier writes to the bot. -/
def umDia : List (lojaInteira registrar).Act :=
  [⟨.outro, (⟨"5511", "pix", .naoLista, none, none, none⟩, 20)⟩,
    ⟨.ajustes, .arrive (.mover (some 1) .entrega)⟩, ⟨.ajustes, .step 0⟩,
    ⟨.rotas, .arrive (.enviarParaEntrega (some 2))⟩, ⟨.rotas, .step 0⟩,
    ⟨.bot, .arrive (.callbackEntrega 7 (some "receber_1".toList)), nadaDesfeito⟩,
    ⟨.rotas, .step 0⟩]

def lojaVazia : (lojaInteira registrar).Conf := gather (Programa.worker registrar) Programa.vazio {}

theorem parado_lojaVazia (i : Programa) : i.Parado (fun _ => True) (lojaVazia.1.1 i) := by
  cases i with
  | outro => trivial
  | _ => rfl

theorem coerente_vazio : Db.Coerente {} := by
  constructor
  case venda => intro _ _ _ found; cases found
  case unica => intro _ _ _ _ _ found; cases found
  case entrega => intro _ _ found; cases found

end Exemplo

section Corridas

variable {outro : Worker Db} {sabe : outro.Conf → Prop} {c : (lojaInteira outro).Conf}

/-- Whatever runs beside whatever, every delivery is of an order of its client and day, every
order of a sale of its client, and no sale of two orders. -/
theorem sempre_coerente (fora : outro.Respects Db.Liga Db.Coerente sabe)
    (parado : ∀ i : Programa, i.Parado sabe (c.1.1 i))
    (coerente : ((lojaInteira outro).store c).Coerente) (passos : List (lojaInteira outro).Act) :
    ((lojaInteira outro).store ((lojaInteira outro).execute passos c)).Coerente := by
  obtain ⟨inv, respects, -, idle⟩ := lojaInteira_respeita fora
  exact (respects_execute respects Db.liga_refl liga_trans passos coerente (idle c parado)).2.1

theorem sempre_coerente_umDia :
    ((lojaInteira registrar).store ((lojaInteira registrar).execute umDia lojaVazia)).Coerente :=
  sempre_coerente respeita_registrar parado_lojaVazia coerente_vazio umDia

/-- Between any two moments of a run nothing is deleted or tied to something else; and what was
received stays so and a delivery that was closed stays closed, if nothing that the bot wrote is
undone between them. -/
theorem nada_se_desfaz (fora : outro.Respects Db.Liga Db.Coerente sabe)
    (avanca : Keeps Db.Mantem Db.Coerente outro sabe fun _ _ => True)
    (parado : ∀ i : Programa, i.Parado sabe (c.1.1 i))
    (coerente : ((lojaInteira outro).store c).Coerente)
    (antes passos : List (lojaInteira outro).Act) :
    let db := (lojaInteira outro).store ((lojaInteira outro).execute antes c)
    let db' := (lojaInteira outro).store ((lojaInteira outro).execute (antes ++ passos) c)
    db.Liga db' ∧
      ((lojaInteira outro).Runs NadaDesfaz passos ((lojaInteira outro).execute antes c) →
        db.Mantem db') := by
  obtain ⟨inv, respects, keeps, idle⟩ := lojaInteira_respeita fora
  obtain ⟨-, stored, known⟩ :=
    respects_execute respects Db.liga_refl liga_trans antes coerente (idle c parado)
  rw [execute_append]
  exact ⟨(respects_execute respects Db.liga_refl liga_trans passos stored known).1,
    keeps_execute respects (keeps avanca) Db.mantem_refl mantem_trans passos stored known⟩

theorem nada_se_desfaz_umDia :
    ((lojaInteira registrar).store ((lojaInteira registrar).execute umDia lojaVazia)).Mantem
      ((lojaInteira registrar).store ((lojaInteira registrar).execute (umDia ++ umDia) lojaVazia)) :=
  (nada_se_desfaz respeita_registrar avanca_registrar parado_lojaVazia coerente_vazio umDia umDia).2
    ⟨trivial, trivial, trivial, trivial, trivial, rfl, trivial, trivial⟩

end Corridas
end IceClube
