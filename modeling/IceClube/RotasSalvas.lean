import IceClube.Db
import IceClube.Keys

/-! The table `rotas_salvas` as a place for the route of each courier: `salvarRota` is to fill
it, `finalizarRota` to empty it and `obterRotaAtiva` to read it. -/
namespace IceClube

abbrev RotaOtimizada := List (Nat × String)

structure BancoDeRotas where
  rotasSalvas : Table RotaSalva := .empty
  /-- The rows of `usuarios`, to which `entregador_id` refers. -/
  usuarios : Nat → Bool
  /-- Whether the driver hands a JSON column over as text. -/
  jsonComoTexto : Bool := true
  /-- How MySQL orders rows that an `ORDER BY` leaves equal. -/
  posicao : Nat → Nat := id
  /-- Milliseconds. -/
  agora : Nat := 0

def datetime (agora : Nat) : Nat := agora / 1000

section Tabela

/-- The unique keys that `criarTabelaRotasSalvas` declares beside the generated identifier. -/
def chavesUnicas : List (RotaSalva → Nat) := []

/-- The row that `ON DUPLICATE KEY UPDATE` meets under some unique key. -/
def duplicada (t : Table RotaSalva) (nova : RotaSalva) : Option Nat :=
  (t.rows.find? fun r => chavesUnicas.any fun chave => chave r.2 = chave nova).map (·.1)

namespace BancoDeRotas

/-- An unknown courier is refused by the foreign key. -/
def salvarRota (entregadorId : Nat) (pontoInicial : String) (rota : RotaOtimizada)
    (b : BancoDeRotas) : BancoDeRotas :=
  let agora := datetime b.agora
  let nova : RotaSalva := ⟨entregadorId, pontoInicial, rota, agora, none⟩
  if !b.usuarios entregadorId then b
  else
    match duplicada b.rotasSalvas nova with
    | some id =>
      { b with rotasSalvas := b.rotasSalvas.modify id fun r =>
          { r with
            pontoInicial := pontoInicial, rota := rota, ultimaAtualizacao := agora,
            horaFim := none } }
    | none => { b with rotasSalvas := b.rotasSalvas.insert nova }

def finalizarRota (entregadorId : Nat) (b : BancoDeRotas) : BancoDeRotas :=
  { b with rotasSalvas := b.rotasSalvas.alter fun _ r =>
      if r.entregadorId = entregadorId ∧ r.horaFim = none then
        { r with horaFim := some (datetime b.agora) }
      else r }

def aberta (r : RotaSalva) : Option Nat := if r.horaFim = none then some r.entregadorId else none

def abertas (entregadorId : Nat) (b : BancoDeRotas) : List (Nat × RotaSalva) :=
  b.rotasSalvas.rows.filter fun r => aberta r.2 = some entregadorId

/-- `JSON.parse` of a value that is no text throws. -/
def obterRotaAtiva (entregadorId : Nat) (b : BancoDeRotas) :
    Except String (Option RotaOtimizada) :=
  match Table.orderDesc b.posicao (fun r => some r.ultimaAtualizacao) (b.abertas entregadorId) with
  | [] => .ok none
  | r :: _ =>
    if b.jsonComoTexto then .ok (some r.2.rota) else .error "Unexpected token in JSON at position 1"

end BancoDeRotas
end Tabela

inductive ChamadaDeRota where
  | salvarRota (entregadorId : Nat) (pontoInicial : String) (rota : RotaOtimizada)
  | finalizarRota (entregadorId : Nat)
  | espera (dt : Nat)
  deriving DecidableEq, Repr

def BancoDeRotas.chamar (b : BancoDeRotas) : ChamadaDeRota → BancoDeRotas
  | .salvarRota entregadorId pontoInicial rota => b.salvarRota entregadorId pontoInicial rota
  | .finalizarRota entregadorId => b.finalizarRota entregadorId
  | .espera dt => { b with agora := b.agora + dt }

section Lugares

/-- What the table stands for: the route of each courier since the last end of one. -/
abbrev Lugares := Nat → Option RotaOtimizada

/-- A save that is refused changes nothing. -/
def Lugares.chamar (usuarios : Nat → Bool) (l : Lugares) : ChamadaDeRota → Lugares
  | .salvarRota entregadorId _ rota =>
    if usuarios entregadorId then Function.update l entregadorId (some rota) else l
  | .finalizarRota entregadorId => Function.update l entregadorId none
  | .espera _ => l

/-- One open row for each courier at most, and the reading answers what is there. -/
structure BancoDeRotas.Guarda (b : BancoDeRotas) (l : Lugares) : Prop where
  uma : b.rotasSalvas.UniqueKey BancoDeRotas.aberta
  leitura : ∀ entregadorId, b.obterRotaAtiva entregadorId = .ok (l entregadorId)

/-- A save of a known courier finds no open row of the courier, and routes are read as text. -/
def BancoDeRotas.Livre (b : BancoDeRotas) : ChamadaDeRota → Prop
  | .salvarRota entregadorId _ _ =>
    b.usuarios entregadorId = true → b.jsonComoTexto = true ∧ b.abertas entregadorId = []
  | _ => True

variable {b : BancoDeRotas} {l : Lugares}

theorem duplicada_none (t : Table RotaSalva) (nova : RotaSalva) : duplicada t nova = none := by
  simp [duplicada, chavesUnicas]

theorem salvarRota_conhecido {entregadorId : Nat} (known : b.usuarios entregadorId = true)
    (pontoInicial : String) (rota : RotaOtimizada) :
    b.salvarRota entregadorId pontoInicial rota =
      let nova : RotaSalva := ⟨entregadorId, pontoInicial, rota, datetime b.agora, none⟩
      { b with rotasSalvas := b.rotasSalvas.insert nova } := by
  rw [BancoDeRotas.salvarRota, known, duplicada_none]
  rfl

theorem obterRotaAtiva_vazio {entregadorId : Nat} (none : b.abertas entregadorId = []) :
    b.obterRotaAtiva entregadorId = .ok .none := by
  rw [BancoDeRotas.obterRotaAtiva, none]
  rfl

theorem obterRotaAtiva_uma {entregadorId id : Nat} {r : RotaSalva}
    (one : b.abertas entregadorId = [(id, r)]) (text : b.jsonComoTexto = true) :
    b.obterRotaAtiva entregadorId = .ok (some r.rota) := by
  rw [BancoDeRotas.obterRotaAtiva, one, List.perm_singleton.mp (Table.perm_orderDesc _ _ _), text]
  rfl

/-- Courier by courier, the reading depends on the open rows alone. -/
theorem obterRotaAtiva_igual {b' : BancoDeRotas} {entregadorId : Nat}
    (rows : b'.abertas entregadorId = b.abertas entregadorId) (rank : b'.posicao = b.posicao)
    (text : b'.jsonComoTexto = b.jsonComoTexto) :
    b'.obterRotaAtiva entregadorId = b.obterRotaAtiva entregadorId := by
  rw [BancoDeRotas.obterRotaAtiva, rows, rank, text]
  rfl

theorem abertas_insert (b : BancoDeRotas) (nova : RotaSalva) (entregadorId : Nat) :
    { b with rotasSalvas := b.rotasSalvas.insert nova }.abertas entregadorId =
      b.abertas entregadorId ++
        if BancoDeRotas.aberta nova = some entregadorId then [(b.rotasSalvas.next, nova)] else [] := by
  simp only [BancoDeRotas.abertas, Table.rows_insert, List.filter_append]
  congr 1
  by_cases own : BancoDeRotas.aberta nova = some entregadorId <;> simp [own]

theorem aberta_finalizada (entregadorId agora : Nat) (r : RotaSalva) :
    BancoDeRotas.aberta (if r.entregadorId = entregadorId ∧ r.horaFim = none then
        { r with horaFim := some agora } else r) =
      if BancoDeRotas.aberta r = some entregadorId then none else BancoDeRotas.aberta r := by
  simp only [BancoDeRotas.aberta]
  by_cases still : r.horaFim = none <;> by_cases own : r.entregadorId = entregadorId <;>
    simp [still, own]

theorem abertas_finalizarRota (b : BancoDeRotas) (entregadorId outro : Nat) :
    (b.finalizarRota entregadorId).abertas outro =
      if outro = entregadorId then [] else b.abertas outro := by
  simp only [BancoDeRotas.abertas, BancoDeRotas.finalizarRota, Table.rows_alter]
  split
  next here =>
    apply List.filter_eq_nil_iff.mpr
    intro row member
    obtain ⟨r, _, rfl⟩ := List.mem_map.mp member
    simp only [aberta_finalizada, here]
    split <;> simp_all
  next other =>
    have same : ∀ r ∈ b.rotasSalvas.rows, decide (BancoDeRotas.aberta
        (if r.2.entregadorId = entregadorId ∧ r.2.horaFim = none then
          { r.2 with horaFim := some (datetime b.agora) } else r.2) = some outro) =
          decide (BancoDeRotas.aberta r.2 = some outro) := by
      intro r _
      rw [aberta_finalizada]
      split
      next own => simp [own, Ne.symm other]
      next => rfl
    have kept : ∀ r ∈ b.rotasSalvas.rows.filter (fun r => BancoDeRotas.aberta r.2 = some outro),
        (r.1, if r.2.entregadorId = entregadorId ∧ r.2.horaFim = none then
          { r.2 with horaFim := some (datetime b.agora) } else r.2) = r := by
      intro r member
      have opened := (List.mem_filter.mp member).2
      rw [if_neg]
      rintro ⟨own, still⟩
      simp [BancoDeRotas.aberta, still, own, Ne.symm other] at opened
    rw [List.filter_map]
    refine Eq.trans (congrArg _ (List.filter_congr same)) ?_
    exact (List.map_congr_left kept).trans (List.map_id _)

/-- The slot of a courier is filled again only when it is empty. -/
theorem guarda_salvarRota (guarda : b.Guarda l) {entregadorId : Nat}
    (known : b.usuarios entregadorId = true) (pontoInicial : String) (rota : RotaOtimizada) :
    (b.salvarRota entregadorId pontoInicial rota).Guarda
        (Function.update l entregadorId (some rota)) ↔
      b.jsonComoTexto = true ∧ b.abertas entregadorId = [] := by
  rw [salvarRota_conhecido known]
  generalize made : (⟨entregadorId, pontoInicial, rota, datetime b.agora, none⟩ : RotaSalva) = nova
  have opens : BancoDeRotas.aberta nova = some entregadorId := by
    subst made
    rfl
  have route : nova.rota = rota := by
    subst made
    rfl
  have rows := abertas_insert b nova
  constructor
  · intro after
    have free := (Table.uniqueKey_insert guarda.uma nova).mp after.uma entregadorId opens
    have empty : b.abertas entregadorId = [] := by
      apply List.filter_eq_nil_iff.mpr
      intro row member
      simpa using free row.1 row.2 (Table.mem_rows.mp member) (by simp)
    refine ⟨?_, empty⟩
    by_contra parsed
    have one := rows entregadorId
    rw [if_pos opens, empty, List.nil_append] at one
    have read := after.leitura entregadorId
    rw [BancoDeRotas.obterRotaAtiva, one,
      List.perm_singleton.mp (Table.perm_orderDesc _ _ _)] at read
    simp [parsed] at read
  · rintro ⟨text, empty⟩
    constructor
    · apply (Table.uniqueKey_insert guarda.uma nova).mpr
      intro k own i r found _ same
      obtain rfl : entregadorId = k := Option.some.inj (opens.symm.trans own)
      have member : (i, r) ∈ b.abertas entregadorId :=
        List.mem_filter.mpr ⟨Table.mem_rows.mpr found, by simpa using same⟩
      rw [empty] at member
      contradiction
    · intro outro
      have now := rows outro
      by_cases here : outro = entregadorId
      · subst here
        rw [if_pos opens, empty, List.nil_append] at now
        rw [obterRotaAtiva_uma now text, Function.update_self, route]
      · rw [if_neg (by simpa [opens] using Ne.symm here), List.append_nil] at now
        rw [Function.update_of_ne here, ← guarda.leitura outro]
        exact obterRotaAtiva_igual now rfl rfl

theorem guarda_finalizarRota (guarda : b.Guarda l) (entregadorId : Nat) :
    (b.finalizarRota entregadorId).Guarda (Function.update l entregadorId none) := by
  constructor
  · intro i j r s k first second left right
    simp only [BancoDeRotas.finalizarRota, Table.get_alter, Option.map_eq_some_iff] at first second
    obtain ⟨r, first, rfl⟩ := first
    obtain ⟨s, second, rfl⟩ := second
    rw [aberta_finalizada] at left right
    split at left
    · contradiction
    · split at right
      · contradiction
      · exact guarda.uma i j r s k first second left right
  · intro outro
    have rows := abertas_finalizarRota b entregadorId outro
    by_cases here : outro = entregadorId
    · subst here
      rw [if_pos rfl] at rows
      rw [Function.update_self]
      exact obterRotaAtiva_vazio rows
    · rw [if_neg here] at rows
      rw [Function.update_of_ne here, ← guarda.leitura outro]
      exact obterRotaAtiva_igual rows rfl rfl

theorem guarda_chamar (guarda : b.Guarda l) (chamada : ChamadaDeRota) :
    (b.chamar chamada).Guarda (l.chamar b.usuarios chamada) ↔ b.Livre chamada := by
  cases chamada with
  | salvarRota entregadorId pontoInicial rota =>
    simp only [BancoDeRotas.chamar, Lugares.chamar, BancoDeRotas.Livre]
    cases known : b.usuarios entregadorId with
    | true =>
      rw [if_pos rfl, guarda_salvarRota guarda known]
      simp
    | false =>
      have refused : b.salvarRota entregadorId pontoInicial rota = b := by
        rw [BancoDeRotas.salvarRota, known]
        rfl
      rw [refused]
      exact iff_of_true guarda (by simp)
  | finalizarRota entregadorId => exact iff_of_true (guarda_finalizarRota guarda entregadorId) trivial
  | espera dt =>
    have still : (b.chamar (.espera dt)).Guarda l := ⟨guarda.uma, guarda.leitura⟩
    exact iff_of_true still trivial

end Lugares

section Execucao

def BancoDeRotas.executar (b : BancoDeRotas) (chamadas : List ChamadaDeRota) : BancoDeRotas :=
  chamadas.foldl BancoDeRotas.chamar b

def Lugares.executar (usuarios : Nat → Bool) (l : Lugares) (chamadas : List ChamadaDeRota) :
    Lugares :=
  chamadas.foldl (Lugares.chamar usuarios) l

/-- After every call of the run the table is as the slots are. -/
def SempreGuarda (b : BancoDeRotas) (l : Lugares) (chamadas : List ChamadaDeRota) : Prop :=
  ∀ pre post, chamadas = pre ++ post →
    (b.executar pre).Guarda (l.executar b.usuarios pre)

/-- Every save of the run finds the slot empty. -/
def SempreLivre (b : BancoDeRotas) : List ChamadaDeRota → Prop
  | [] => True
  | chamada :: resto => b.Livre chamada ∧ SempreLivre (b.chamar chamada) resto

theorem usuarios_chamar (b : BancoDeRotas) (chamada : ChamadaDeRota) :
    (b.chamar chamada).usuarios = b.usuarios := by
  cases chamada with
  | salvarRota entregadorId pontoInicial rota =>
    rw [BancoDeRotas.chamar, BancoDeRotas.salvarRota, duplicada_none]
    split <;> rfl
  | finalizarRota entregadorId => rfl
  | espera dt => rfl

theorem sempreGuarda_iff {b : BancoDeRotas} {l : Lugares} (guarda : b.Guarda l)
    (chamadas : List ChamadaDeRota) : SempreGuarda b l chamadas ↔ SempreLivre b chamadas := by
  induction chamadas generalizing b l with
  | nil =>
    refine iff_of_true (fun pre post split => ?_) trivial
    obtain ⟨rfl, rfl⟩ := List.append_eq_nil_iff.mp split.symm
    exact guarda
  | cons chamada resto ih =>
    have known := usuarios_chamar b chamada
    constructor
    · intro always
      have next := always [chamada] resto rfl
      refine ⟨(guarda_chamar guarda chamada).mp next, (ih next).mp ?_⟩
      intro pre post split
      have same : (b.executar [chamada]).usuarios = b.usuarios := known
      rw [same]
      exact always (chamada :: pre) post (by rw [split]; rfl)
    · rintro ⟨free, rest⟩ pre post split
      have next := (guarda_chamar guarda chamada).mpr free
      cases pre with
      | nil => exact guarda
      | cons first pre =>
        obtain ⟨rfl, tail⟩ := List.cons_eq_cons.mp split
        have later := (ih next).mpr rest pre post tail
        rw [known] at later
        exact later

/-- From the empty table, whoever the couriers are and however routes are read. -/
theorem rotasSalvas_iff (b : BancoDeRotas) (chamadas : List ChamadaDeRota) :
    SempreGuarda { b with rotasSalvas := .empty } (fun _ => none) chamadas ↔
      SempreLivre { b with rotasSalvas := .empty } chamadas := by
  apply sempreGuarda_iff
  constructor
  · exact Table.uniqueKey_empty
  · intro entregadorId
    exact obterRotaAtiva_vazio rfl

/-- A courier saves a second route without ending the first. -/
theorem duas_rotas_salvas : ¬ SempreGuarda { usuarios := fun id => id = 7 } (fun _ => none)
    [.salvarRota 7 "Centro" [(1, "Rua A")], .salvarRota 7 "Centro" [(2, "Rua B")]] := by
  intro always
  have both := (always _ [] (List.append_nil _).symm).uma 1 2
    ⟨7, "Centro", [(1, "Rua A")], 0, none⟩ ⟨7, "Centro", [(2, "Rua B")], 0, none⟩ 7
    (by decide +kernel) (by decide +kernel) rfl rfl
  contradiction

end Execucao
end IceClube
