import IceClube.Fields
import IceClube.Joins
import IceClube.PaginaDeVendas
import Mathlib.Data.Rat.Floor

/-! The numbers of the deliveries page (`GET /api/entregasmetricas`): counts of the table
`entregas`, and the same deliveries by status, by courier and by day. -/
namespace IceClube

open Coop Prog Joins

/-- A row of `entregas` as SQL sees it: every column may be NULL. -/
structure EntregaMetrica where
  status : Option String := none
  entregadorId : Option Nat := none
  horaInicio : Option Nat := none
  horaFim : Option Nat := none
  dataPedido : Option Nat := none
  deriving DecidableEq, Repr

/-- What MySQL decides by the collation of the column and by its plan, which are not in the
repository: which texts are equal, which text of a group is shown and how the groups come. -/
structure Agrupamento where
  peso : String → String
  exemplar : List EntregaMetrica → Option String
  exemplar_mem : ∀ {g}, g ≠ [] → ∃ e ∈ g, e.status = exemplar g
  ordem : List (List EntregaMetrica) → List (List EntregaMetrica)
  ordem_perm : ∀ gs, (ordem gs).Perm gs

/-- The first row of a group is shown, and the groups come as their first rows do. -/
def Agrupamento.primeiro (peso : String → String) : Agrupamento where
  peso := peso
  exemplar g := g.head?.bind (·.status)
  exemplar_mem {g} some_row := by
    obtain ⟨e, g, rfl⟩ := List.exists_cons_of_ne_nil some_row
    exact ⟨e, List.mem_cons_self, rfl⟩
  ordem := id
  ordem_perm _ := .refl _

structure BancoMetricas where
  entregas : List EntregaMetrica
  /-- `CURDATE()`. -/
  hoje : Nat := 0
  mysql : Agrupamento

structure QuantidadePorStatus where
  status : Option String
  quantidade : Nat
  deriving DecidableEq, Repr

structure QuantidadePorEntregador where
  /-- NULL stands for 'N/A' in the answer. -/
  entregadorId : Option Nat
  quantidade : Nat
  deriving DecidableEq, Repr

structure QuantidadePorDia where
  data : Nat
  quantidade : Nat
  deriving DecidableEq, Repr

structure Metricas where
  totalEntregas : Nat
  entregasFinalizadas : Nat
  entregasFalha : Nat
  tempoMedio : Int
  statusDistribuicao : Fields.Object String
  entregadorDistribuicao : List QuantidadePorEntregador
  entregasDiarias : List QuantidadePorDia

inductive SqlMetricas where
  | ping
  | countTotal
  | countStatus (status : String)
  | avgTempo
  | porStatus
  | porEntregador
  | porDia

@[reducible] def SqlMetricas.Res : SqlMetricas → Type
  | .ping => Unit
  | .countTotal | .countStatus _ => Nat
  | .avgTempo => Option ℚ
  | .porStatus => List QuantidadePorStatus
  | .porEntregador => List QuantidadePorEntregador
  | .porDia => List QuantidadePorDia

/-- A DECIMAL with four digits behind the point, halves away from zero. -/
def decimal4 (x : ℚ) : ℚ :=
  if 0 ≤ x then ⌊x * 10000 + 1 / 2⌋ / 10000 else -(⌊-x * 10000 + 1 / 2⌋ / 10000)

/-- `AVG`, which is NULL of no row. -/
def avg (valores : List Int) : Option ℚ :=
  if valores = [] then none else some (decimal4 (valores.sum / valores.length))

namespace BancoMetricas

variable (b : BancoMetricas)

/-- What `status` is compared by. -/
def chaveStatus (e : EntregaMetrica) : Option String := e.status.map b.mysql.peso

/-- `status = ?`; NULL equals nothing. -/
def comStatus (status : String) : List EntregaMetrica :=
  b.entregas.filter fun e => b.chaveStatus e = some (b.mysql.peso status)

/-- `TIMESTAMPDIFF(MINUTE, hora_inicio, hora_fim)` of the rows that have both. -/
def minutos : List Int :=
  (b.comStatus "finalizado").filterMap fun e =>
    e.horaInicio.bind fun inicio => e.horaFim.map fun fim => ((fim : Int) - inicio).tdiv 60000

def gruposPorStatus : List QuantidadePorStatus :=
  (b.mysql.ordem (groupBy b.chaveStatus b.entregas)).map fun g => ⟨b.mysql.exemplar g, g.length⟩

/-- A courier's number is compared as it is. -/
def gruposPorEntregador : List QuantidadePorEntregador :=
  (b.mysql.ordem (groupBy (·.entregadorId) b.entregas)).map fun g =>
    ⟨g.head?.bind (·.entregadorId), g.length⟩

/-- The deliveries since `DATE_SUB(CURDATE(), INTERVAL 30 DAY)` by `DATE(data_pedido)`. -/
def gruposPorDia : List QuantidadePorDia :=
  let dias := (b.entregas.filterMap fun e => e.dataPedido.map dia).filter fun d => b.hoje - 30 ≤ d
  ((groupBy id dias).filterMap fun g => g.head?.map fun d => ⟨d, g.length⟩).insertionSort
    fun x y => x.data ≤ y.data

end BancoMetricas

def SqlMetricas.sem : (q : SqlMetricas) → BancoMetricas → q.Res × BancoMetricas
  | .ping, b => ((), b)
  | .countTotal, b => (b.entregas.length, b)
  | .countStatus status, b => ((b.comStatus status).length, b)
  | .avgTempo, b => (avg b.minutos, b)
  | .porStatus, b => (b.gruposPorStatus, b)
  | .porEntregador, b => (b.gruposPorEntregador, b)
  | .porDia, b => (b.gruposPorDia, b)

section Rota

abbrev RotaDeMetricas := Prog String SqlMetricas.Res

/-- `Math.round(tempo_medio) || 0`; `Math.round(null)` is 0. -/
def mathRound (x : Option ℚ) : Int := x.elim 0 fun x => ⌊x + 1 / 2⌋

/-- `row.status || 'desconhecido'`. -/
def chave (status : Option String) : String := (status.filter (· ≠ "")).getD "desconhecido"

/-- `{}[chave] = quantidade`: a number is no prototype, so `__proto__` stays as it is. -/
def atribuirQuantidade (o : Fields.Object String) (row : QuantidadePorStatus) :
    Fields.Object String :=
  Fields.set (fun k => k ≠ "__proto__") o (chave row.status) row.quantidade

def distribuicaoDe (statusResult : List QuantidadePorStatus) : Fields.Object String :=
  statusResult.foldl atribuirQuantidade ∅

/-- `row.entregador_id || 'N/A'`. -/
def porEntregador (row : QuantidadePorEntregador) : QuantidadePorEntregador :=
  { row with entregadorId := row.entregadorId.filter (· ≠ 0) }

def buscarMetricas : RotaDeMetricas (Atendida Metricas) := do
  ask SqlMetricas.ping
  let totalEntregas ← ask SqlMetricas.countTotal
  let entregasFinalizadas ← ask (SqlMetricas.countStatus "finalizado")
  let entregasFalha ← ask (SqlMetricas.countStatus "falha")
  let tempoMedio ← ask SqlMetricas.avgTempo
  let statusResult ← ask SqlMetricas.porStatus
  let entregadorResult ← ask SqlMetricas.porEntregador
  let diariasResult ← ask SqlMetricas.porDia
  pure (.ok
    { totalEntregas, entregasFinalizadas, entregasFalha
      tempoMedio := mathRound tempoMedio
      statusDistribuicao := distribuicaoDe statusResult
      entregadorDistribuicao := entregadorResult.map porEntregador
      entregasDiarias := diariasResult })

def getEntregasMetricas : RotaDeMetricas (Atendida Metricas) :=
  buscarMetricas.handle fun err =>
    pure (.error ⟨500, s!"Falha ao buscar métricas. Detalhes: {err}", none⟩)

end Rota
namespace BancoMetricas

variable (b : BancoMetricas)

def metricas : Metricas where
  totalEntregas := b.entregas.length
  entregasFinalizadas := (b.comStatus "finalizado").length
  entregasFalha := (b.comStatus "falha").length
  tempoMedio := mathRound (avg b.minutos)
  statusDistribuicao := distribuicaoDe b.gruposPorStatus
  entregadorDistribuicao := b.gruposPorEntregador.map porEntregador
  entregasDiarias := b.gruposPorDia

/-- The status that the group of a delivery is shown with. -/
def mostrado (e : EntregaMetrica) : Option String :=
  b.mysql.exemplar (b.entregas.filter fun other => b.chaveStatus other = b.chaveStatus e)

end BancoMetricas

/-- The numbers of the page agree with each other. -/
structure Metricas.Confere (m : Metricas) : Prop where
  status : Fields.total m.statusDistribuicao = m.totalEntregas
  entregadores : (m.entregadorDistribuicao.map (·.quantidade)).sum = m.totalEntregas
  finalizado : Fields.value m.statusDistribuicao "finalizado" = m.entregasFinalizadas
  falha : Fields.value m.statusDistribuicao "falha" = m.entregasFalha

/-- A status that the chart calls 'desconhecido'. -/
def SemNome (status : Option String) : Prop :=
  status ∈ [none, some "", some "desconhecido"]

/-- The groups keep names of their own in the chart: one at most is without a name, none has
the name that cannot be assigned, and the two that are counted apart are shown as written. -/
structure BancoMetricas.Distingue (b : BancoMetricas) : Prop where
  semNome : ∀ e ∈ b.entregas, ∀ e' ∈ b.entregas, SemNome (b.mostrado e) →
    SemNome (b.mostrado e') → b.chaveStatus e = b.chaveStatus e'
  proto : ∀ e ∈ b.entregas, b.mostrado e ≠ some "__proto__"
  nomes : ∀ nome ∈ ["finalizado", "falha"], ∀ e ∈ b.comStatus nome, b.mostrado e = some nome

section Resposta

variable {b : BancoMetricas}

theorem fragile_buscarMetricas : Fragile buscarMetricas := by
  repeat refine fragile_bind (fragile_ask _) fun _ => ?_
  trivial

theorem run_buscarMetricas :
    buscarMetricas.run (Reliable SqlMetricas.sem) b = (.ok (.ok b.metricas), b) := rfl

/-- Without a rejected statement the route answers. -/
theorem run_getEntregasMetricas :
    getEntregasMetricas.run (Reliable SqlMetricas.sem) b = (.ok (.ok b.metricas), b) := by
  rw [getEntregasMetricas, run_handle, run_buscarMetricas]

/-- Whatever statements are rejected, an answer with numbers has these. -/
theorem metricas_respondidas {rejection : String} {faults : List Bool} {m : Metricas}
    (answered : (getEntregasMetricas.run (Faulty.exec SqlMetricas.sem rejection) ⟨b, faults⟩).1 =
      .ok (.ok m)) : m = b.metricas := by
  rw [getEntregasMetricas, run_handle] at answered
  cases found : (buscarMetricas.run (Faulty.exec SqlMetricas.sem rejection) ⟨b, faults⟩) with
  | mk result after =>
    rw [found] at answered
    cases result with
    | error e => cases answered
    | ok r =>
      have same := (run_fragile fragile_buscarMetricas ⟨b, faults⟩ r).mp (congrArg Prod.fst found)
      rw [run_buscarMetricas] at same
      cases answered
      exact (Except.ok.inj (Except.ok.inj same.2)).symm

end Resposta

section Chaves

theorem chave_semNome {status : Option String} :
    chave status = "desconhecido" ↔ SemNome status := by
  cases status with
  | none => simp [chave, SemNome]
  | some texto => by_cases vazio : texto = "" <;> simp [chave, SemNome, Option.filter, vazio]

/-- Any other name is the status itself. -/
theorem chave_eq_iff {status : Option String} {nome : String} (named : nome ≠ "desconhecido")
    (written : nome ≠ "") : chave status = nome ↔ status = some nome := by
  cases status with
  | none => simp [chave, named.symm]
  | some texto =>
    by_cases vazio : texto = ""
    · simp [chave, Option.filter, vazio, named.symm, written.symm]
    · simp [chave, Option.filter, vazio]

theorem chave_inj {status status' : Option String} (same : chave status = chave status') :
    status = status' ∨ SemNome status ∧ SemNome status' := by
  by_cases named : chave status = "desconhecido"
  · exact .inr ⟨chave_semNome.mp named, chave_semNome.mp (same ▸ named)⟩
  · have written : chave status ≠ "" := by
      cases status with
      | none => simp [chave]
      | some texto => by_cases vazio : texto = "" <;> simp [chave, Option.filter, vazio]
    left
    rw [(chave_eq_iff named written).mp rfl, (chave_eq_iff named written).mp same.symm]

end Chaves

section Grupos

variable {b : BancoMetricas}

theorem mostrado_mem {e : EntregaMetrica} (member : e ∈ b.entregas) :
    ∃ e' ∈ b.entregas, b.chaveStatus e' = b.chaveStatus e ∧ e'.status = b.mostrado e := by
  have some_row : b.entregas.filter (fun other => b.chaveStatus other = b.chaveStatus e) ≠ [] :=
    List.ne_nil_of_mem (List.mem_filter.mpr ⟨member, decide_eq_true rfl⟩)
  obtain ⟨e', inside, shown⟩ := b.mysql.exemplar_mem some_row
  obtain ⟨there, same⟩ := List.mem_filter.mp inside
  exact ⟨e', there, of_decide_eq_true same, shown⟩

theorem peso_mostrado {e : EntregaMetrica} (member : e ∈ b.entregas) :
    (b.mostrado e).map b.mysql.peso = b.chaveStatus e := by
  obtain ⟨e', -, same, shown⟩ := mostrado_mem member
  rw [← shown, ← same]
  rfl

def BancoMetricas.pares (b : BancoMetricas) : List (String × Nat) :=
  b.gruposPorStatus.map fun row => (chave row.status, row.quantidade)

theorem distribuicao_pares :
    distribuicaoDe b.gruposPorStatus = Fields.assign (fun k => k ≠ "__proto__") ∅ b.pares := by
  rw [Fields.assign, BancoMetricas.pares, List.foldl_map]
  rfl

theorem mem_pares {p : String × Nat} :
    p ∈ b.pares ↔ ∃ e ∈ b.entregas, p = (chave (b.mostrado e),
      (b.entregas.filter fun other => b.chaveStatus other = b.chaveStatus e).length) := by
  rw [BancoMetricas.pares, BancoMetricas.gruposPorStatus, List.map_map, List.mem_map]
  simp only [(b.mysql.ordem_perm _).mem_iff, mem_groupBy, Function.comp_apply]
  constructor
  · rintro ⟨_, ⟨e, member, rfl⟩, rfl⟩
    exact ⟨e, member, rfl⟩
  · rintro ⟨e, member, rfl⟩
    exact ⟨_, ⟨e, member, rfl⟩, rfl⟩

theorem pares_positivos : ∀ p ∈ b.pares, 0 < p.2 := by
  intro p inside
  obtain ⟨e, member, rfl⟩ := mem_pares.mp inside
  exact List.length_pos_of_mem (List.mem_filter.mpr ⟨member, decide_eq_true rfl⟩)

theorem sum_grupos {κ : Type} [DecidableEq κ] (key : EntregaMetrica → κ) :
    ((b.mysql.ordem (groupBy key b.entregas)).map List.length).sum = b.entregas.length := by
  rw [((b.mysql.ordem_perm _).map List.length).sum_eq, sum_length_groupBy]

theorem sum_pares : (b.pares.map (·.2)).sum = b.entregas.length := by
  rw [← sum_grupos b.chaveStatus, BancoMetricas.pares, BancoMetricas.gruposPorStatus,
    List.map_map, List.map_map]
  rfl

/-- By courier nothing is lost, for no two groups are folded into one. -/
theorem sum_entregadores :
    (b.metricas.entregadorDistribuicao.map (·.quantidade)).sum = b.entregas.length := by
  rw [← sum_grupos (·.entregadorId)]
  simp only [BancoMetricas.metricas, BancoMetricas.gruposPorEntregador, List.map_map]
  rfl

theorem chaves_distintas : (b.pares.map (·.1)).Nodup ↔
    ∀ e ∈ b.entregas, ∀ e' ∈ b.entregas, SemNome (b.mostrado e) → SemNome (b.mostrado e') →
      b.chaveStatus e = b.chaveStatus e' := by
  have names : b.pares.map (·.1) = (b.mysql.ordem (groupBy b.chaveStatus b.entregas)).map
      fun g => chave (b.mysql.exemplar g) := by
    rw [BancoMetricas.pares, BancoMetricas.gruposPorStatus, List.map_map, List.map_map]
    rfl
  rw [names, ((b.mysql.ordem_perm _).map _).nodup_iff, nodup_map_groupBy]
  refine forall₄_congr fun e member e' member' => ?_
  constructor
  · exact fun apart sem sem' => apart ((chave_semNome.mpr sem).trans (chave_semNome.mpr sem').symm)
  · intro one same
    rcases chave_inj same with equal | ⟨sem, sem'⟩
    · have shown : b.mostrado e = b.mostrado e' := equal
      rw [← peso_mostrado member, ← peso_mostrado member', shown]
    · exact one sem sem'

/-- The chart adds up just where no two groups go by one name. -/
theorem total_distribuicao : Fields.total b.metricas.statusDistribuicao = b.entregas.length ↔
    (∀ e ∈ b.entregas, ∀ e' ∈ b.entregas, SemNome (b.mostrado e) → SemNome (b.mostrado e') →
      b.chaveStatus e = b.chaveStatus e') ∧ ∀ e ∈ b.entregas, b.mostrado e ≠ some "__proto__" := by
  have whole : Fields.total (Fields.assign (fun k => k ≠ "__proto__") ∅ b.pares) = _ ↔ _ :=
    Fields.total_assign_eq_iff Fields.positive_empty pares_positivos
  rw [sum_pares, Fields.total_empty, Nat.zero_add, chaves_distintas, ← distribuicao_pares] at whole
  refine whole.trans (and_congr_right fun _ => ?_)
  constructor
  · intro may e member proto
    exact of_decide_eq_true (may _ (mem_pares.mpr ⟨e, member, rfl⟩)).1
      ((chave_eq_iff (by decide) (by decide)).mpr proto)
  · intro proto p inside
    obtain ⟨e, member, rfl⟩ := mem_pares.mp inside
    refine ⟨decide_eq_true fun name => proto e member ?_, AList.notMem_empty _⟩
    exact (chave_eq_iff (by decide) (by decide)).mp name

/-- A status that is counted apart has that count in the chart just where it is shown as
written. -/
theorem value_distribuicao {nome : String} (named : nome ≠ "desconhecido") (written : nome ≠ "")
    (settable : nome ≠ "__proto__") (distinct : (b.pares.map (·.1)).Nodup) :
    Fields.value b.metricas.statusDistribuicao nome = (b.comStatus nome).length ↔
      ∀ e ∈ b.comStatus nome, b.mostrado e = some nome := by
  have group {e : EntregaMetrica} (inside : e ∈ b.comStatus nome) : e ∈ b.entregas ∧
      b.comStatus nome = b.entregas.filter fun other => b.chaveStatus other = b.chaveStatus e := by
    obtain ⟨member, same⟩ := List.mem_filter.mp inside
    rw [of_decide_eq_true same]
    exact ⟨member, rfl⟩
  change Fields.value (distribuicaoDe b.gruposPorStatus) nome = _ ↔ _
  rw [distribuicao_pares]
  by_cases there : nome ∈ b.pares.map (·.1)
  · obtain ⟨p, inside, name⟩ := List.mem_map.mp there
    obtain ⟨e, member, rfl⟩ := mem_pares.mp inside
    replace name : chave (b.mostrado e) = nome := name
    have shown : b.mostrado e = some nome := (chave_eq_iff named written).mp name
    have counted : e ∈ b.comStatus nome := by
      refine List.mem_filter.mpr ⟨member, decide_eq_true ?_⟩
      rw [← peso_mostrado member, shown]
      rfl
    rw [name, ← (group counted).2] at inside
    refine iff_of_true (Fields.value_assign distinct (decide_eq_true settable) inside) ?_
    intro e' counted'
    rw [BancoMetricas.mostrado, ← (group counted').2, (group counted).2]
    exact shown
  · rw [Fields.value_assign_of_notMem there]
    constructor
    · intro none_counted e inside
      have empty : b.comStatus nome = [] := List.length_eq_zero_iff.mp none_counted.symm
      rw [empty] at inside
      cases inside
    · intro shown
      have empty : b.comStatus nome = [] := List.eq_nil_iff_forall_not_mem.mpr fun e inside =>
        there (List.mem_map.mpr ⟨_, mem_pares.mpr ⟨e, (group inside).1, rfl⟩,
          (chave_eq_iff named written).mpr (shown e inside)⟩)
      rw [empty]
      rfl

/-- The numbers agree just where the groups keep names of their own. -/
theorem metricas_conferem : b.metricas.Confere ↔ b.Distingue := by
  constructor
  · intro m
    obtain ⟨semNome, proto⟩ := total_distribuicao.mp m.status
    have distinct := chaves_distintas.mpr semNome
    refine ⟨semNome, proto, ?_⟩
    simp only [List.forall_mem_cons, List.not_mem_nil, false_imp_iff, implies_true, and_true]
    exact ⟨(value_distribuicao (by decide) (by decide) (by decide) distinct).mp m.finalizado,
      (value_distribuicao (by decide) (by decide) (by decide) distinct).mp m.falha⟩
  · intro d
    have distinct := chaves_distintas.mpr d.semNome
    constructor
    case status => exact total_distribuicao.mpr ⟨d.semNome, d.proto⟩
    case entregadores => exact sum_entregadores
    case finalizado =>
      exact (value_distribuicao (by decide) (by decide) (by decide) distinct).mpr
        (d.nomes _ List.mem_cons_self)
    case falha =>
      exact (value_distribuicao (by decide) (by decide) (by decide) distinct).mpr
        (d.nomes _ (List.mem_cons_of_mem _ List.mem_cons_self))

/-- With a collation that tells all texts apart a delivery is shown with its own status. -/
theorem mostrado_exata (exata : Function.Injective b.mysql.peso) {e : EntregaMetrica}
    (member : e ∈ b.entregas) : b.mostrado e = e.status :=
  Option.map_injective exata (peso_mostrado member)

/-- Then the numbers agree just where no two of NULL, '' and 'desconhecido' occur, and
'__proto__' does not. -/
theorem distingue_exata (exata : Function.Injective b.mysql.peso) :
    b.Distingue ↔ (∀ e ∈ b.entregas, ∀ e' ∈ b.entregas, SemNome e.status → SemNome e'.status →
      e.status = e'.status) ∧ ∀ e ∈ b.entregas, e.status ≠ some "__proto__" := by
  have key (e e' : EntregaMetrica) : b.chaveStatus e = b.chaveStatus e' ↔ e.status = e'.status :=
    (Option.map_injective exata).eq_iff
  constructor
  · intro d
    refine ⟨fun e member e' member' sem sem' => (key e e').mp ?_, fun e member => ?_⟩
    · rw [← mostrado_exata exata member] at sem
      rw [← mostrado_exata exata member'] at sem'
      exact d.semNome e member e' member' sem sem'
    · exact mostrado_exata exata member ▸ d.proto e member
  · intro ⟨one, proto⟩
    constructor
    · intro e member e' member' sem sem'
      rw [mostrado_exata exata member] at sem
      rw [mostrado_exata exata member'] at sem'
      exact (key e e').mpr (one e member e' member' sem sem')
    · exact fun e member => (mostrado_exata exata member).symm ▸ proto e member
    · intro nome _ e inside
      obtain ⟨member, same⟩ := List.mem_filter.mp inside
      rw [mostrado_exata exata member]
      exact Option.map_injective exata (of_decide_eq_true same)

end Grupos

section Conferencia

/-- For every table of deliveries, of every run that answers: the numbers agree just where the
groups of the statuses keep names of their own. -/
theorem metricas_conferem_sse (b : BancoMetricas) (rejection : String) (faults : List Bool)
    (m : Metricas)
    (answered : (getEntregasMetricas.run (Faulty.exec SqlMetricas.sem rejection) ⟨b, faults⟩).1 =
      .ok (.ok m)) : m.Confere ↔ b.Distingue :=
  metricas_respondidas answered ▸ metricas_conferem

/-- Deliveries with these statuses, under a collation that tells all texts apart. -/
def BancoMetricas.comEstados (estados : List (Option String)) : BancoMetricas where
  entregas := estados.map fun status => { status }
  mysql := .primeiro id

theorem metricas_conferem_sse_tres :
    (BancoMetricas.comEstados [some "falha", none, some "falha"]).metricas.Confere := by
  have exata : Function.Injective (BancoMetricas.comEstados
    [some "falha", none, some "falha"]).mysql.peso := Function.injective_id
  exact (metricas_conferem_sse _ "" [] _ rfl).mpr ((distingue_exata exata).mpr (by
    simp [BancoMetricas.comEstados, SemNome]))

/-- A delivery without status and one with an empty status are one field of the chart. -/
theorem null_e_vazio_sobrescritos : ∃ m,
    (getEntregasMetricas.run (Reliable SqlMetricas.sem)
      (.comEstados [none, some ""])).1 = .ok (.ok m) ∧
      m.totalEntregas = 2 ∧ Fields.total m.statusDistribuicao = 1 :=
  ⟨_, rfl, by decide, by decide⟩

end Conferencia
end IceClube
