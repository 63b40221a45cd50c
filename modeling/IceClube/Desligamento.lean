import IceClube.Rotas
import IceClube.Keys
import IceClube.Statements

/-! The deletion of a user, which counts the deliveries of the user and then deletes, beside
the assignment of orders to a courier, which never looks at the users. There is no foreign
key on the deliveries. -/
namespace IceClube

open Coop Prog

inductive SqlUsuarios where
  | selectUsuario (id : Nat)
  | countEntregas (id : Nat)
  | deleteUsuario (id : Nat)

@[reducible] def SqlUsuarios.Res : SqlUsuarios → Type
  | .selectUsuario _ => List Nat
  | .countEntregas _ => Nat
  | .deleteUsuario _ => Unit

def SqlUsuarios.sem : (q : SqlUsuarios) → Db → q.Res × Db
  | .selectUsuario id, db => ((db.usuarios.get id).toList.map fun _ => id, db)
  | .countEntregas id, db =>
    ((db.entregas.rows.filter fun e => e.2.entregadorId = some id).length, db)
  | .deleteUsuario id, db => ((), { db with usuarios := db.usuarios.erase id })

inductive OpUsuarios where
  | rota (o : Op)
  | usuario (q : SqlUsuarios)

@[reducible] def OpUsuarios.Res : OpUsuarios → Type
  | .rota o => o.Res
  | .usuario q => q.Res

/-- Neither route holds a connection; a transaction would be one statement. -/
def OpUsuarios.sem : (o : OpUsuarios) → Db → o.Res × Db
  | .rota (.sql q), db => q.sem db
  | .rota (.tx t), db => ((t.executar ⟨db, []⟩).1, (t.executar ⟨db, []⟩).2.state)
  | .usuario q, db => q.sem db

abbrev RotaUsuarios := Prog String OpUsuarios.Res

abbrev sqlUsuarios (q : SqlUsuarios) : RotaUsuarios q.Res := ask (OpUsuarios.usuario q)

def nosUsuarios {α : Type} : Rota α → RotaUsuarios α
  | .done a => .done a
  | .fail e => .fail e
  | .call o next => .call (.rota o) fun answer => nosUsuarios (next answer)

/-- `DELETE /api/usuarios/:id`; `none` is an identifier that is not a number. -/
def deleteUsuario (id : Option Nat) : RotaUsuarios Resposta :=
  match id with
  | none => pure ⟨400, "ID inválido", none⟩
  | some id =>
    let apagar : RotaUsuarios Resposta := do
      let existing ← sqlUsuarios (.selectUsuario id)
      if existing = [] then pure ⟨404, "Usuário não encontrado", none⟩
      else do
        let dependencias ← sqlUsuarios (.countEntregas id)
        if dependencias > 0 then
          pure ⟨400, "Usuário não pode ser deletado pois está associado a entregas", none⟩
        else do
          sqlUsuarios (.deleteUsuario id)
          pure ⟨200, "Usuário deletado com sucesso", none⟩
    apagar.handle fun _ => pure ⟨500, "Erro ao deletar usuário", none⟩

inductive ReqUsuarios where
  | atribuirEntregas (corpo : CorpoAtribuir)
  | deleteUsuario (id : Option Nat)
  deriving DecidableEq, Repr

def ReqUsuarios.rota : ReqUsuarios → RotaUsuarios Resposta
  | .atribuirEntregas corpo => nosUsuarios (IceClube.atribuirEntregas corpo)
  | .deleteUsuario id => IceClube.deleteUsuario id

def servidorDeUsuarios : System ReqUsuarios Nat String OpUsuarios.Res Resposta (Faulty Db) :=
  autocommit OpUsuarios.sem Tx.rejeicao ReqUsuarios.rota
    fun dt db => { db with agora := db.agora + dt }

section Chamadas

variable {P : OpUsuarios → Prop}

theorem calls_nosUsuarios {α : Type} {p : Rota α} (calls : p.Calls fun o => P (.rota o)) :
    (nosUsuarios p).Calls P := by
  induction p with
  | done a => trivial
  | fail e => trivial
  | call o next ih => exact ⟨calls.1, fun answer _ _ => ih answer (calls_next calls answer)⟩

def OpUsuarios.DasRotas : OpUsuarios → Prop
  | .rota (.sql (.insertEntregaSelect ..)) | .rota (.sql (.updateRua _)) => True
  | .rota _ => False
  | .usuario _ => True

theorem calls_atribuirEntregas (corpo : CorpoAtribuir) :
    (atribuirEntregas corpo).Calls fun o => OpUsuarios.DasRotas (.rota o) := by
  rw [atribuirEntregas]
  split
  · apply calls_handle
    · apply calls_bind
      · apply calls_each
        intro pedidoId
        apply calls_bind
        · exact (calls_ask _).mpr trivial
        · intro _
          exact (calls_ask _).mpr trivial
      · intro _
        trivial
    · intro _
      trivial
  · trivial

theorem calls_deleteUsuario (id : Option Nat) :
    (deleteUsuario id).Calls OpUsuarios.DasRotas := by
  cases id with
  | none => trivial
  | some id =>
    apply calls_handle
    · apply calls_bind ((calls_ask _).mpr trivial)
      intro existing
      split
      · trivial
      apply calls_bind ((calls_ask _).mpr trivial)
      intro dependencias
      split
      · trivial
      apply calls_bind ((calls_ask _).mpr trivial)
      intro _
      trivial
    · intro _
      trivial

theorem calls_usuarios (requisicao : ReqUsuarios) :
    requisicao.rota.Calls OpUsuarios.DasRotas := by
  cases requisicao with
  | atribuirEntregas corpo => exact calls_nosUsuarios (calls_atribuirEntregas corpo)
  | deleteUsuario id => exact calls_deleteUsuario id

end Chamadas

section Orfas

/-- The courier of a delivery, where it has one, is a user. -/
def SemOrfas (db : Db) : Prop :=
  ∀ id e u, db.entregas.get id = some e → e.entregadorId = some u → (db.usuarios.get u).isSome

/-- An order is assigned to a user; a user without deliveries is deleted. -/
def OpUsuarios.Mantem (db : Db) : OpUsuarios → Prop
  | .rota (.sql (.insertEntregaSelect entregadorId pedidoId)) =>
    (db.pedidosDiarios.get pedidoId).isSome → (db.usuarios.get entregadorId).isSome
  | .usuario (.deleteUsuario id) =>
    ∀ i e, db.entregas.get i = some e → e.entregadorId ≠ some id
  | _ => True

theorem semOrfas_novaEntrega {db : Db} (law : SemOrfas db) (entrega : Entrega) :
    SemOrfas (db.novaEntrega entrega) ↔
      ∀ u, entrega.entregadorId = some u → (db.usuarios.get u).isSome := by
  constructor
  · intro all u named
    have new : (db.novaEntrega entrega).entregas.get db.entregas.next = some entrega := by
      simp [Db.novaEntrega, Table.get_insert]
    exact all _ _ u new named
  · intro named id e u found courier
    simp only [Db.novaEntrega, Table.get_insert] at found
    split at found
    · obtain rfl := Option.some.inj found
      exact named u courier
    · exact law id e u found courier

theorem semOrfas_deleteUsuario {db : Db} (law : SemOrfas db) (id : Nat) :
    SemOrfas { db with usuarios := db.usuarios.erase id } ↔
      ∀ i e, db.entregas.get i = some e → e.entregadorId ≠ some id := by
  constructor
  · intro all i e found named
    have kept := all i e id found named
    simp [Table.get_erase] at kept
  · intro free i e u found named
    have other : u ≠ id := by
      rintro rfl
      exact free i e found named
    simpa [Table.get_erase, other] using law i e u found named

theorem semOrfas_sem (o : OpUsuarios) (db : Db) (sent : o.DasRotas) (law : SemOrfas db) :
    SemOrfas (o.sem db).2 ↔ o.Mantem db := by
  rcases o with (q | t) | q
  · cases q with
    | insertEntregaSelect entregadorId pedidoId =>
      simp only [OpUsuarios.sem, Sql.sem, OpUsuarios.Mantem]
      cases db.pedidosDiarios.get pedidoId with
      | none => exact iff_of_true law (by simp)
      | some pedido =>
        have added := semOrfas_novaEntrega law (entregaAtribuida entregadorId pedidoId pedido)
        simpa [entregaAtribuida] using added
    | updateRua pedidoId => exact iff_of_true law trivial
    | _ => exact sent.elim
  · exact sent.elim
  · cases q with
    | deleteUsuario id => exact semOrfas_deleteUsuario law id
    | selectUsuario id => exact iff_of_true law trivial
    | countEntregas id => exact iff_of_true law trivial

/-- At every moment of the run no delivery points to a missing courier. -/
def SempreSemOrfas (c : Config String OpUsuarios.Res Resposta (Faulty Db))
    (passos : List (Action ReqUsuarios Nat)) : Prop :=
  ∀ pre post, passos = pre ++ post → SemOrfas (servidorDeUsuarios.execute pre c).state.state

theorem sempreSemOrfas_iff (w : Faulty Db) (passos : List (Action ReqUsuarios Nat)) :
    SempreSemOrfas ⟨w, []⟩ passos ↔
      SemOrfas w.state ∧ servidorDeUsuarios.Runs (fun c a => ∀ o, c.effect a = some o →
        o.Mantem c.state.state) passos ⟨w, []⟩ := by
  have clock : ∀ (dt : Nat) db, SemOrfas db → SemOrfas { db with agora := db.agora + dt } :=
    fun _ _ law => law
  have idle : ∀ p ∈ ([] : List (RotaUsuarios Resposta)), p.Calls OpUsuarios.DasRotas := by simp
  simp only [SempreSemOrfas, servidorDeUsuarios]
  exact Autocommit.always_iff_of_calls (c := ⟨w, []⟩) calls_usuarios clock semOrfas_sem idle

def umEntregador : Db where
  usuarios := .ofList [{ chatId := 7 }]
  pedidosDiarios := .ofList [{ clienteNumero := "5511", status := .entrega }]

/-- The deliveries of the user are counted, an order is assigned, the user is deleted. -/
def desligadoEmServico : List (Action ReqUsuarios Nat) :=
  [.arrive (.deleteUsuario (some 1)), .step 0, .step 0,
    .arrive (.atribuirEntregas ⟨1, some [1]⟩), .step 1, .step 0]

theorem desligado_em_servico : ¬ SempreSemOrfas ⟨⟨umEntregador, []⟩, []⟩ desligadoEmServico := by
  intro always
  have kept := always desligadoEmServico [] rfl 1
    (entregaAtribuida 1 1 { clienteNumero := "5511", status := .entrega }) 1 (by decide +kernel) rfl
  revert kept
  decide +kernel

end Orfas
end IceClube
