import IceClube.Faulty
import IceClube.Keys
import IceClube.Transacoes

/-! `GET /api/entregas` and `GET /api/entregadores`. Each path is registered twice, and Express
runs the handler that was registered first. -/
namespace IceClube

open Coop Prog

/-- The parameters of a query; an empty text is a missing one, a date is a day number. -/
structure Parametros where
  clienteNumero : String := ""
  dataInicio : Option Nat := none
  dataFim : Option Nat := none
  status : String := ""
  rota : Option Nat := none
  busca : String := ""
  deriving DecidableEq, Repr

/-- The database as these queries see it. -/
structure Painel where
  db : Db
  /-- `LIKE` under the collation of the columns, which is not in the repository. -/
  like : String → String → Bool := fun texto padrao => texto = padrao
  /-- How MySQL orders rows that an `ORDER BY` leaves equal. -/
  posicao : Nat → Nat := id

def StatusEntrega.texto : StatusEntrega → String
  | zero => "0"
  | rua => "rua"
  | finalizado => "finalizado"
  | falha => "falha"
  | outro texto => texto

namespace Painel

variable (x : Painel)

/-- The filters that only the second handler of `/api/entregas` knows. -/
def passaOutros (q : Parametros) (e : Entrega) : Bool :=
  (q.clienteNumero = "" || x.like e.clienteNumero s!"%{q.clienteNumero}%") &&
  (q.dataInicio.all fun inicio => inicio ≤ e.dataPedido) &&
  (q.dataFim.all fun fim => e.dataPedido ≤ fim) &&
  q.rota.all fun rota => e.rota = some rota

def passa (q : Parametros) (e : Entrega) : Bool :=
  (q.status = "" || e.status.texto = q.status) && x.passaOutros q e

end Painel

inductive SqlPainel where
  | entregasPorStatus (status : String)
  | entregasFiltradas (q : Parametros)
  | entregadoresFinalizados
  | entregadoresPorNome (busca : String)

@[reducible] def SqlPainel.Res : SqlPainel → Type
  | .entregasPorStatus _ | .entregasFiltradas _ => List (Nat × Entrega)
  | _ => List (Nat × Entregador)

def SqlPainel.sem : (s : SqlPainel) → Painel → s.Res × Painel
  | .entregasPorStatus status, x =>
    (Table.orderDesc x.posicao Entrega.horaInicio
      (x.db.entregas.rows.filter fun e => e.2.status.texto = status), x)
  | .entregasFiltradas q, x =>
    ((Table.orderDesc x.posicao (fun e => some e.dataPedido)
      (x.db.entregas.rows.filter fun e => x.passa q e.2)).take 100, x)
  | .entregadoresFinalizados, x =>
    ((Table.orderDesc x.posicao Entregador.horaFim
      (x.db.entregador.rows.filter fun e => e.2.horaFim.isSome)).take 100, x)
  | .entregadoresPorNome busca, x =>
    ((Table.orderDesc x.posicao Entregador.horaFim
      (x.db.entregador.rows.filter fun e =>
        busca = "" || x.like e.2.entregador s!"%{busca}%")).take 100, x)

inductive RespostaGet where
  | entregas (colunas : List String) (linhas : List (Nat × Entrega))
  | entregadores (colunas : List String) (linhas : List (Nat × Entregador))
  | erro (status : Nat) (mensagem : String)

abbrev Tratador := Parametros → Prog String SqlPainel.Res RespostaGet

section Tratadores

def entregasPorStatus : Tratador := fun q =>
  let status := if q.status = "" then "rua" else q.status
  let buscar : Prog String SqlPainel.Res RespostaGet := do
    let entregas ← ask (SqlPainel.entregasPorStatus status)
    pure (.entregas ["pedido_id", "entregador_id", "hora_inicio"] entregas)
  buscar.handle fun _ => pure (.erro 500 "Erro ao buscar entregas")

def entregadoresFinalizados : Tratador := fun _ =>
  let buscar : Prog String SqlPainel.Res RespostaGet := do
    let entregadores ← ask SqlPainel.entregadoresFinalizados
    pure (.entregadores ["entregador", "quantidade_pedidos", "tempo_medio", "km"] entregadores)
  buscar.handle fun _ => pure (.erro 500 "Erro ao buscar entregadores")

def entregasFiltradas : Tratador := fun q =>
  let buscar : Prog String SqlPainel.Res RespostaGet := do
    let entregas ← ask (SqlPainel.entregasFiltradas q)
    pure (.entregas ["pedido_id", "cliente_numero", "itens", "status", "rota", "entregador_id",
      "hora_inicio", "hora_fim", "data_pedido"] entregas)
  buscar.handle fun _ => pure (.erro 500 "Erro ao buscar entregas")

def entregadoresPorNome : Tratador := fun q =>
  let buscar : Prog String SqlPainel.Res RespostaGet := do
    let entregadores ← ask (SqlPainel.entregadoresPorNome q.busca)
    pure (.entregadores ["entregador", "quantidade_pedidos", "tempo_medio_pedido", "km"]
      entregadores)
  buscar.handle fun _ => pure (.erro 500 "Erro ao buscar entregadores")

/-- The registrations of the two paths, in the order of `server.js`. -/
def registradas : List (String × Tratador) :=
  [("/api/entregas", entregasPorStatus), ("/api/entregadores", entregadoresFinalizados),
    ("/api/entregas", entregasFiltradas), ("/api/entregadores", entregadoresPorNome)]

/-- The first handler registered for the path; none of them calls `next`. -/
def tratador (caminho : String) : Tratador :=
  match registradas.find? fun registro => registro.1 = caminho with
  | some registro => registro.2
  | none => fun _ => pure (.erro 404 s!"Cannot GET {caminho}")

/-- The answer to a request, when no query is rejected. -/
def Painel.responde (x : Painel) (t : Tratador) (q : Parametros) : RespostaGet :=
  match ((t q).run (Reliable SqlPainel.sem) x).1 with
  | .ok resposta => resposta
  | .error e => .erro 500 e

end Tratadores

section Filtros

variable (x : Painel) (q : Parametros)

/-- Of deliveries, the rows that pass every filter given, a hundred at most; of couriers, only
rows that match the search, if there is one. -/
def RespostaGet.Honra : RespostaGet → Prop
  | .entregas _ linhas =>
    linhas.Nodup ∧ (∀ e ∈ linhas, e ∈ x.db.entregas.rows ∧ x.passa q e.2 = true) ∧
      linhas.length = min 100 (x.db.entregas.rows.filter fun e => x.passa q e.2).length
  | .entregadores _ linhas =>
    q.busca ≠ "" → ∀ e ∈ linhas, x.like e.2.entregador s!"%{q.busca}%" = true
  | .erro .. => False

/-- The rows of the status asked for, which is 'rua' when none is. -/
def Painel.doStatus : List (Nat × Entrega) :=
  x.db.entregas.rows.filter fun e =>
    e.2.status.texto = if q.status = "" then "rua" else q.status

/-- The other filters exclude none of these rows, which are a hundred at most; without a
status, no row of another status passes the other filters, unless a hundred are there. -/
structure EntregasAlinhadas : Prop where
  outros : ∀ e ∈ x.doStatus q, x.passaOutros q e.2 = true
  limite : (x.doStatus q).length ≤ 100
  todos : q.status = "" → (x.doStatus q).length = 100 ∨
    ∀ e ∈ x.db.entregas.rows, x.passaOutros q e.2 = true → e.2.status.texto = "rua"

/-- The hundred couriers' routes that ended last. -/
def Painel.ultimos : List (Nat × Entregador) :=
  (Table.orderDesc x.posicao Entregador.horaFim
    (x.db.entregador.rows.filter fun e => e.2.horaFim.isSome)).take 100

variable {x q}

theorem mem_passa : ∀ e : Nat × Entrega, e ∈ x.db.entregas.rows.filter (fun e => x.passa q e.2) ↔
    e ∈ x.db.entregas.rows ∧ (q.status = "" ∨ e.2.status.texto = q.status) ∧
      x.passaOutros q e.2 = true := by
  intro e
  simp [Painel.passa]

/-- Some rows of a list without repetition, as many as the list has, are all of it. -/
theorem subset_of_length {α : Type} {xs ys : List α} (nodup : xs.Nodup)
    (inside : ∀ x ∈ xs, x ∈ ys) (enough : ys.length ≤ xs.length) : ∀ y ∈ ys, y ∈ xs := by
  have same := (List.subperm_of_subset nodup inside).perm_of_length_le enough
  intro y member
  exact same.mem_iff.mpr member

theorem honra_porStatus :
    (x.responde entregasPorStatus q).Honra x q ↔ EntregasAlinhadas x q := by
  have perm := Table.perm_orderDesc x.posicao Entrega.horaInicio (x.doStatus q)
  have nodup : (x.doStatus q).Nodup := x.db.entregas.nodup_rows.filter _
  have all : (x.db.entregas.rows.filter fun e => x.passa q e.2).Nodup :=
    x.db.entregas.nodup_rows.filter _
  have mem_status : ∀ e, e ∈ x.doStatus q ↔ e ∈ x.db.entregas.rows ∧
      e.2.status.texto = if q.status = "" then "rua" else q.status := by
    intro e
    simp [Painel.doStatus]
  change (Table.orderDesc x.posicao Entrega.horaInicio (x.doStatus q)).Nodup ∧
    (∀ e ∈ Table.orderDesc x.posicao Entrega.horaInicio (x.doStatus q), _) ∧
      (Table.orderDesc x.posicao Entrega.horaInicio (x.doStatus q)).length = _ ↔ _
  rw [perm.nodup_iff, perm.length_eq]
  simp only [perm.mem_iff]
  constructor
  · rintro ⟨_, passes, count⟩
    have inside : ∀ e ∈ x.doStatus q,
        e ∈ x.db.entregas.rows.filter fun e => x.passa q e.2 := by
      intro e member
      exact List.mem_filter.mpr (passes e member)
    refine ⟨fun e member => ((mem_passa e).mp (inside e member)).2.2, by omega, ?_⟩
    intro none
    by_cases hundred : (x.doStatus q).length = 100
    · exact .inl hundred
    · refine .inr fun e row passes => ?_
      have member := subset_of_length nodup inside (by omega) e
        ((mem_passa e).mpr ⟨row, .inl none, passes⟩)
      simpa [none] using ((mem_status e).mp member).2
  · rintro ⟨outros, limite, todos⟩
    have passes : ∀ e ∈ x.doStatus q, e ∈ x.db.entregas.rows ∧ x.passa q e.2 = true := by
      intro e member
      obtain ⟨row, status⟩ := (mem_status e).mp member
      refine List.mem_filter.mp ((mem_passa e).mpr ⟨row, ?_, outros e member⟩)
      by_cases none : q.status = ""
      · exact .inl none
      · exact .inr (by simpa [none] using status)
    have inside : ∀ e ∈ x.doStatus q,
        e ∈ x.db.entregas.rows.filter fun e => x.passa q e.2 := by
      intro e member
      exact List.mem_filter.mpr (passes e member)
    have fewer := (List.subperm_of_subset nodup inside).length_le
    have whole : (∀ e ∈ x.db.entregas.rows.filter (fun e => x.passa q e.2), e ∈ x.doStatus q) →
        (x.db.entregas.rows.filter fun e => x.passa q e.2).length ≤ (x.doStatus q).length :=
      fun back => (List.subperm_of_subset all back).length_le
    refine ⟨nodup, passes, ?_⟩
    by_cases none : q.status = ""
    · rcases todos none with hundred | every
      · omega
      · have back := whole fun e member => by
          obtain ⟨row, _, passes⟩ := (mem_passa e).mp member
          exact (mem_status e).mpr ⟨row, by simpa [none] using every e row passes⟩
        omega
    · have back := whole fun e member => by
        obtain ⟨row, status, _⟩ := (mem_passa e).mp member
        exact (mem_status e).mpr ⟨row, by simpa [none] using status⟩
      omega

theorem honra_finalizados : (x.responde entregadoresFinalizados q).Honra x q ↔
    (q.busca ≠ "" → ∀ e ∈ x.ultimos, x.like e.2.entregador s!"%{q.busca}%" = true) := Iff.rfl

theorem honra_filtradas : (x.responde entregasFiltradas q).Honra x q := by
  have perm := Table.perm_orderDesc x.posicao (fun e : Entrega => some e.dataPedido)
    (x.db.entregas.rows.filter fun e => x.passa q e.2)
  have nodup : (x.db.entregas.rows.filter fun e => x.passa q e.2).Nodup :=
    x.db.entregas.nodup_rows.filter _
  refine ⟨(perm.nodup_iff.mpr nodup).sublist (List.take_sublist _ _), ?_, ?_⟩
  · intro e member
    exact List.mem_filter.mp (perm.mem_iff.mp (List.mem_of_mem_take member))
  · exact List.length_take.trans (congrArg (min 100) perm.length_eq)

theorem honra_porNome : (x.responde entregadoresPorNome q).Honra x q := by
  intro given e member
  have perm := Table.perm_orderDesc x.posicao Entregador.horaFim
    (x.db.entregador.rows.filter fun e =>
      q.busca = "" || x.like e.2.entregador s!"%{q.busca}%")
  have kept := (List.mem_filter.mp (perm.mem_iff.mp (List.mem_of_mem_take member))).2
  simpa [given] using kept

/-- When the two paths honour the filters of a request. -/
theorem filtros_iff (x : Painel) (q : Parametros) :
    ((x.responde (tratador "/api/entregas") q).Honra x q ↔ EntregasAlinhadas x q) ∧
    ((x.responde (tratador "/api/entregadores") q).Honra x q ↔
      (q.busca ≠ "" → ∀ e ∈ x.ultimos, x.like e.2.entregador s!"%{q.busca}%" = true)) := by
  have first : tratador "/api/entregas" = entregasPorStatus := by simp [tratador, registradas]
  have second : tratador "/api/entregadores" = entregadoresFinalizados := by
    simp [tratador, registradas]
  rw [first, second]
  exact ⟨honra_porStatus, honra_finalizados⟩

def umaEntregue : Db where
  entregas := .ofList [{ pedidoId := 1, clienteNumero := "5511", status := .finalizado }]

/-- Without a filter the finished delivery is not listed. -/
theorem entregue_nao_listada :
    ¬ (Painel.responde { db := umaEntregue } (tratador "/api/entregas") {}).Honra
      { db := umaEntregue } {} := by
  intro honra
  have count := honra.2.2
  revert count
  decide +kernel

end Filtros
end IceClube
