import IceClube.Seguimento

/-! `verificarFinalizarRotaAutomaticamente`, with which the justified failure of a delivery ends:
where the route is open and nothing is left on the street, the courier is told of an error. -/
namespace IceClube

open Coop Prog

def erroDeStatus : String := "⚠️ *Erro ao verificar status da rota.*"

def Sessao.rumo (s : Sessao) : Bool × Option Nat := (s.rotaAtiva, s.usuarioId)

/-- The chat's session is the object `r`, which stands so on the route. -/
structure Rumo (c : Chat) (r : Nat) (db : Db) (rumo : Bool × Option Nat) (m : Mundo) : Prop where
  calmo : m.falhas = []
  db : m.db = db
  sessao : (m.conversas c).sessao = some r
  rumo : ((m.conversas c).objetos r).rumo = rumo

section Rumo

variable {c : Chat} {r : Nat} {db : Db} {rumo : Bool × Option Nat} {m : Mundo}

theorem Rumo.aplica (here : Rumo c r db rumo m) (q : SqlBot) :
    Rumo c r (q.sem db).2 rumo (m.aplica c q) := by
  obtain ⟨calm, rfl, stored, course⟩ := here
  exact ⟨calm, rfl, (sessao_aplica q m).trans stored, by rw [objetos_aplica]; exact course⟩

/-- The statement is answered, and the program goes on behind it. -/
theorem Rumo.segue (here : Rumo c r db rumo m) {q : SqlBot} (accepted : q.recusa = none)
    (f : q.Res → Fluxo Unit) :
    Segue c (consulta c q >>= f) m (f (q.sem db).1) (m.aplica c q) := by
  obtain ⟨calm, rfl, -, -⟩ := here
  exact segue_consulta f calm accepted

def Chega (c : Chat) (r : Nat) (db : Db) (rumo : Bool × Option Nat) (f : Fluxo Unit) (m : Mundo) :
    Prop := ∃ m', f.run Ato.exec m = (.ok (), m') ∧ Rumo c r db rumo m'

theorem Rumo.mensagem (here : Rumo c r db rumo m) (texto : String) :
    Chega c r db rumo (enviarMensagem c texto) m := by
  rw [Chega, enviarMensagem, run_handle, run_calmo _ here.calmo]
  simp only [Ato.sem, answered_ok, bind_done]
  have same : m.seguinte.conversas = m.conversas := rfl
  rw [run_obter, same, here.sessao]
  simp only
  rw [run_sync _ rfl]
  refine ⟨m.seguinte.grava c r [.pushMessageId m.sorte.numero], rfl, here.calmo, here.db, ?_, ?_⟩
  · simp [Mundo.grava]
  · simp only [Mundo.grava, same, Mundo.conversas_conversa, Conversa.objetos_guarda,
      Conversa.objetos_atribui]
    exact here.rumo

theorem Rumo.listar (here : Rumo c r db rumo m) (u : Option Nat) :
    Chega c r db rumo (listarPedidosPendentes c (enviarMensagem c) u) m := by
  have sent (pedidos : List (Nat × Entrega)) : Chega c r db rumo
      (if pedidos = [] then enviarMensagem c "📭 *Nenhum pedido atribuído a você no momento.*"
        else enviarMensagem c s!"📋 *Lista de Pedidos Atribuídos:*\n\n{listaDePedidos pedidos}")
      (m.aplica c (.selectAtribuidas u)) := by
    have there := here.aplica (.selectAtribuidas u)
    split
    · exact there.mensagem _
    · exact there.mensagem _
  obtain ⟨m', run, after⟩ := sent ((SqlBot.selectAtribuidas u).sem db).1
  refine ⟨m', ?_, after⟩
  rw [listarPedidosPendentes, run_handle, (here.segue (q := .selectAtribuidas u) rfl _).run, run]

/-- An open route with nothing left is closed, and the courier is told of an error. -/
theorem avisa_verificar {u : Option Nat} (here : Rumo c r db (true, u) m)
    (nobody : db.entregasDe [.rua] u = []) :
    Ocorre (EnviaTexto c erroDeStatus)
      (verificarFinalizarRotaAutomaticamente c (enviarMensagem c) r) m := by
  have course := here.rumo
  simp only [Sessao.rumo, Prod.mk.injEq] at course
  obtain ⟨active, rfl⟩ := course
  let s := (m.conversas c).objetos r
  let w := m.aplica c (.selectEntregas s.usuarioId)
  have there : Rumo c r db (true, s.usuarioId) w := here.aplica (.selectEntregas s.usuarioId)
  have objects : (w.conversas c).objetos r = s := by rw [objetos_aplica]
  let w₁ := w.aplica c .startTransaction
  have there₁ := there.aplica .startTransaction
  let q : SqlBot := .encerrarEntregador ((w₁.conversas c).objetos r).entregadorRotaId
  have there₂ := there₁.aplica q
  have there₃ := there₂.aplica .commit
  have calm := there₃.calmo
  rw [verificarFinalizarRotaAutomaticamente, ocorre_handle]
  refine .inr ⟨"sessoes is not defined",
    ((((w₁.aplica c q).aplica c .commit).conversa c (·.atribui r encerrarRota))), ?_, ?_⟩
  · refine (segue_ler (c := c) (m := m) _).run.trans ?_
    refine (here.segue (q := .selectEntregas s.usuarioId) rfl _).run.trans ?_
    refine (segue_ler (c := c) (m := w) _).run.trans ?_
    rw [objects, if_pos ⟨nobody, active⟩]
    refine (there.segue (q := .startTransaction) rfl _).run.trans ?_
    refine (segue_ler (c := c) (m := w₁) _).run.trans ?_
    refine (there₁.segue (q := q) rfl _).run.trans ?_
    refine (there₂.segue (q := .commit) rfl _).run.trans ?_
    exact (segue_atribuir (c := c) (r := r) _).run
  · refine (segue_consulta (c := c) (q := .rollback) _ ?_ rfl).ocorre ?_
    · exact calm
    · rw [enviarMensagem, ocorre_handle, ocorre_bind]
      exact .inl (.inl ((ocorre_faz _ _).mpr ⟨⟨_, rfl⟩, alcanca_calmo calm⟩))

/-- The justified failure of a delivery, where the route is open and no other is left. -/
theorem avisa_falhaJustificada {u : Option Nat} (here : Rumo c r db (true, u) m) (data : Texto)
    {pid : IdSql} (known : pid ≠ .nan)
    (nobody : ((SqlBot.falharPedido pid).sem ((SqlBot.falharEntrega
      (String.ofList (Texto.remover "justificativa_".toList data)) pid).sem db).2).2.entregasDe
        [.rua] u = []) :
    Ocorre (EnviaTexto c erroDeStatus) (falhaJustificada c (enviarMensagem c) r r data pid) m := by
  have accepted (texto : String) :
      (SqlBot.falharEntrega texto pid).recusa = none ∧ (SqlBot.falharPedido pid).recusa = none := by
    cases pid with
    | nan => exact absurd rfl known
    | _ => exact ⟨rfl, rfl⟩
  have there₁ := here.aplica .startTransaction
  have there₂ := there₁.aplica
    (.falharEntrega (String.ofList (Texto.remover "justificativa_".toList data)) pid)
  have there₃ := there₂.aplica (.falharPedido pid)
  have there₄ := there₃.aplica .commit
  rw [falhaJustificada, ocorre_handle]
  refine .inl ((here.segue (q := .startTransaction) rfl _).ocorre ?_)
  refine (there₁.segue (accepted _).1 _).ocorre ?_
  refine (there₂.segue (accepted "").2 _).ocorre ?_
  refine (there₃.segue (q := .commit) rfl _).ocorre ?_
  let justificativa := String.ofList (Texto.remover "justificativa_".toList data)
  obtain ⟨m₅, run, there₅⟩ := there₄.mensagem
    (s!"❌ *Entrega #{pid.texto} marcada como falha com justificativa: " ++ s!"{justificativa}*")
  refine (ocorre_bind_ok run).2.mpr (.inr ?_)
  refine (segue_ler (c := c) (m := m₅) _).ocorre ?_
  obtain ⟨m₆, run, there₆⟩ := there₅.listar ((m₅.conversas c).objetos r).usuarioId
  refine (ocorre_bind_ok run).2.mpr (.inr ?_)
  exact (ocorre_bind m₆).mpr (.inl (avisa_verificar there₆ nobody))

def SqlBot.escreveEntrega : SqlBot → Bool
  | updateEndereco .. | iniciarEntregas _ | finalizarEntregas _ | receberEntrega _
  | falharEntrega .. | receber .. | justificar .. => true
  | _ => false

theorem entregas_sem {q : SqlBot} (other : q.escreveEntrega = false) (db : Db) :
    (q.sem db).2.entregas = db.entregas := by
  cases q with
  | updateEndereco | iniciarEntregas | finalizarEntregas | receberEntrega | falharEntrega
  | receber | justificar => cases other
  | receberPedido | falharPedido =>
    simp only [SqlBot.sem, Db.alterarPedidoDaEntrega]
    split <;> rfl
  | receberVenda =>
    simp only [SqlBot.sem, Db.alterarVendaDaEntrega]
    split <;> rfl
  | _ => rfl

theorem pedidoValido_sem (q : SqlBot) (db : Db) (n : Nat) :
    (q.sem db).2.pedidoValido n = db.pedidoValido n := by
  have altered (id : IdSql) {f : Pedido → Pedido} (kept : ∀ p, (f p).valido = p.valido) :
      (db.alterarPedidoDaEntrega id f).pedidoValido n = db.pedidoValido n := by
    rw [Db.alterarPedidoDaEntrega]
    split
    · rw [Db.pedidoValido, Table.get_modify, Db.pedidoValido]
      split
      next same =>
        rw [same, Option.any_map]
        simp only [kept]
      next => rfl
    · rfl
  have all (status : StatusEntrega) (u : Option Nat) {f : Pedido → Pedido}
      (kept : ∀ p, (f p).valido = p.valido) :
      (db.alterarPedidosDe status u f).pedidoValido n = db.pedidoValido n := by
    simp only [Db.pedidoValido, Db.alterarPedidosDe, Table.get_alter, Option.any_map]
    congr 1
    funext p
    split
    · rw [kept]
    · rfl
  have sale (id : IdSql) (f : Venda → Venda) :
      (db.alterarVendaDaEntrega id f).pedidoValido n = db.pedidoValido n := by
    rw [Db.alterarVendaDaEntrega]
    split <;> rfl
  have delivery (id : IdSql) (f : Entrega → Entrega) :
      (db.alterarEntrega id f).pedidoValido n = db.pedidoValido n := by
    rw [Db.alterarEntrega]
    split <;> rfl
  cases q with
  | receberPedido | falharPedido => exact altered _ fun _ => rfl
  | pedidosNaRua | finalizarPedidos => exact all _ _ fun _ => rfl
  | receberVenda => exact sale _ _
  | updateEndereco | receberEntrega | falharEntrega | receber | justificar => exact delivery _ _
  | _ => rfl

theorem entregasDe_sem {q : SqlBot} (other : q.escreveEntrega = false) (status : List StatusEntrega)
    (u : Option Nat) : (q.sem db).2.entregasDe status u = db.entregasDe status u := by
  simp only [Db.entregasDe, entregas_sem other, pedidoValido_sem]

theorem entregasDe_falharEntrega {pid : IdSql} {u : Option Nat}
    (left : ∀ p ∈ db.entregasDe [.rua] u, pid = .num p.1) (texto : String) :
    ((SqlBot.falharEntrega texto pid).sem db).2.entregasDe [.rua] u = [] := by
  have other (none_named : ∀ n, pid ≠ .num n) : db.entregasDe [.rua] u = [] :=
    List.eq_nil_iff_forall_not_mem.mpr fun p member => none_named p.1 (left p member)
  cases pid with
  | nulo => exact other fun _ same => by cases same
  | nan => exact other fun _ same => by cases same
  | num k =>
    refine List.eq_nil_iff_forall_not_mem.mpr fun p member => ?_
    obtain ⟨found, valid, street, own⟩ := mem_entregasDe.mp member
    have row : (db.entregas.modify k _).get p.1 = some p.2 := found
    rw [Table.get_modify] at row
    split at row
    · obtain ⟨old, -, failed⟩ := Option.map_eq_some_iff.mp row
      simp [← failed] at street
    · next apart =>
      exact apart (IdSql.num.inj (left p (mem_entregasDe.mpr ⟨row, valid, street, own⟩))).symm

def Ato.Alheio (o : Ato) : Prop := ∀ c q, o = .query c q → q.escreveEntrega = false

theorem entregas_parada {o : Ato} (other : o.Alheio) (m : Mundo) :
    (o.sem m).2.db.entregas = m.db.entregas := by
  cases o with
  | query c q =>
    rw [Ato.sem]
    split
    · rfl
    · exact entregas_sem (other c q rfl) m.db
  | _ => rfl

theorem entregas_exec {o : Ato} (other : o.Alheio) (m : Mundo) :
    (Ato.exec o m).2.db.entregas = m.db.entregas :=
  Ato.exec_regra (R := fun _ m' => m'.db.entregas = m.db.entregas)
    (fun falhas => entregas_parada other (m.comFalhas falhas)) (fun _ _ _ => rfl)
    fun _ falhas _ => entregas_parada other (m.comFalhas falhas)

theorem doPainel_alheio : DoPainel c Ato.Alheio :=
  ⟨fun _ _ _ _ same => (by cases same), fun _ _ same => (by cases same),
    fun _ _ same => (by cases same), fun _ _ _ same => (by cases same),
    fun _ _ _ same => (by cases same), fun _ _ _ _ same => (by cases same),
    fun _ _ _ same => (by cases same)⟩

theorem alheio_consulta {q : SqlBot} (other : q.escreveEntrega = false) :
    (consulta c q).Calls Ato.Alheio :=
  (calls_ask _).mpr fun _ _ same => (Ato.query.inj same).2 ▸ other

theorem alheio_verificar :
    (verificarFinalizarRotaAutomaticamente c (enviarMensagem c) r).Calls Ato.Alheio := by
  have le : (faz (.ler c r)).Calls Ato.Alheio := (calls_ask _).mpr (doPainel_alheio.le r)
  have envia (texto : String) : (enviarMensagem c texto).Calls Ato.Alheio :=
    doPainel_alheio.mensagem texto
  refine calls_handle ?_ fun _ => calls_bind (alheio_consulta rfl) fun _ => envia _
  refine calls_bind le fun sessao => calls_bind (alheio_consulta rfl) fun pedidosPendentes =>
    calls_bind le fun sessao => ?_
  split
  · refine calls_bind (alheio_consulta rfl) fun _ => calls_bind le fun sessao => ?_
    refine calls_bind (alheio_consulta rfl) fun _ => calls_bind (alheio_consulta rfl) fun _ => ?_
    exact calls_bind ((calls_ask _).mpr (doPainel_alheio.atribui r _)) fun _ => calls_fail _
  · split
    · exact envia _
    · exact calls_done ()

/-- What the justified failure leaves in the table of deliveries. -/
theorem entregas_falhaJustificada (here : Rumo c r db rumo m) (data : Texto) {pid : IdSql}
    (known : pid ≠ .nan) :
    ((falhaJustificada c (enviarMensagem c) r r data pid).run Ato.exec m).2.db.entregas =
      ((SqlBot.falharEntrega (String.ofList (Texto.remover "justificativa_".toList data)) pid).sem
        db).2.entregas := by
  have accepted (texto : String) : (SqlBot.falharEntrega texto pid).recusa = none := by
    cases pid with
    | nan => exact absurd rfl known
    | _ => rfl
  let texto := String.ofList (Texto.remover "justificativa_".toList data)
  have there₁ := here.aplica .startTransaction
  have there₂ := there₁.aplica (.falharEntrega texto pid)
  have goes (f : Unit → Fluxo Unit) :
      Segue c (consulta c .startTransaction >>= fun _ => consulta c (.falharEntrega texto pid) >>= f)
        m (f ()) ((m.aplica c .startTransaction).aplica c (.falharEntrega texto pid)) :=
    (here.segue (q := .startTransaction) rfl _).trans (there₁.segue (accepted texto) f)
  rw [falhaJustificada, ((goes _).handle _).run]
  refine trace_invariant (fun w : Mundo => w.db.entregas = _)
    (fun x member kept => (entregas_exec (calls_trace (P := Ato.Alheio) ?_ _ x member) x.2).trans kept)
    (congrArg Db.entregas there₂.db)
  have envia (texto : String) : (enviarMensagem c texto).Calls Ato.Alheio :=
    doPainel_alheio.mensagem texto
  refine calls_handle ?_ fun _ => calls_bind (alheio_consulta rfl) fun _ => envia _
  refine calls_bind (alheio_consulta rfl) fun _ => calls_bind (alheio_consulta rfl) fun _ => ?_
  refine calls_bind (envia _) fun _ => calls_bind ((calls_ask _).mpr (doPainel_alheio.le r)) ?_
  intro sessao
  refine calls_bind ?_ fun _ => calls_bind alheio_verificar fun _ => doPainel_alheio.grava r _
  refine calls_handle (calls_bind (alheio_consulta rfl) fun pedidos => ?_) fun _ => envia _
  split
  · exact envia _
  · exact envia _

end Rumo
end IceClube
