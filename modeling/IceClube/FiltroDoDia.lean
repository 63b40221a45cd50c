import IceClube.Calendar
import IceClube.Quantidade

/-! The day filter of the page where the cash is checked (`conferencia.html`): the mask of its
text field, the check of the date that was typed and the requests that the button sends. -/
namespace IceClube

open Calendar

def comBarras (v : Texto) : Texto :=
  if v.length ≤ 2 then v
  else if v.length ≤ 4 then v.take 2 ++ '/' :: v.drop 2
  else if v.length ≤ 8 then v.take 2 ++ '/' :: (v.drop 2).take 2 ++ '/' :: v.drop 4
  else v.take 2 ++ '/' :: (v.drop 2).take 2 ++ '/' :: (v.drop 4).take 4

def mascaraData (value : Texto) : Texto := comBarras (Texto.digitos value)

/-- Key after key at the end of an empty field; the mask runs at each of them. -/
def digitar (teclas : Texto) : Texto := teclas.foldl (fun value c => mascaraData (value ++ [c])) []

/-- `/^\d{2}\/\d{2}\/\d{4}$/` and the parts of `split('/')`: the day, the month and the year. -/
def partesDaData : Texto → Option (Texto × Texto × Texto)
  | [d₁, d₂, b, m₁, m₂, b', a₁, a₂, a₃, a₄] =>
    if b = '/' ∧ b' = '/' ∧ [d₁, d₂, m₁, m₂, a₁, a₂, a₃, a₄].all Char.isDigit then
      some ([d₁, d₂], [m₁, m₂], [a₁, a₂, a₃, a₄])
    else none
  | _ => none

def msPorDia : Int := 86400000

/-- `new Date('AAAA-MM-DD').getTime()`: midnight in UTC; `none` is NaN. What a text that is no
date gives is left to the browser. -/
def dataDe (navegador : Texto → Option Int) (ano mes dia : Texto) : Option Int :=
  match date? (Texto.valor ano) (Texto.valor mes) (Texto.valor dia) with
  | some d => some (msPorDia * dayNumber d)
  | none => navegador (ano ++ '-' :: mes ++ '-' :: dia)

/-- `getFullYear`, `getMonth` and `getDate`, which are local. -/
def dataLocal (offset instante : Int) : Date := ofDayNumber ((instante + offset) / msPorDia)

/-- The last `n` digits of a number. -/
def comDigitos : Nat → Nat → Texto
  | 0, _ => []
  | n + 1, valor => comDigitos n (valor / 10) ++ [Char.ofNat (48 + valor % 10)]

/-- `toISOString().split('T')[0]`; a year beyond four digits has a sign and six of them. -/
def toISODate (instante : Int) : Texto :=
  let d := ofDayNumber (instante / msPorDia)
  let ano := if 0 ≤ d.year ∧ d.year ≤ 9999 then comDigitos 4 d.year.toNat
    else (if d.year < 0 then '-' else '+') :: comDigitos 6 d.year.natAbs
  ano ++ '-' :: comDigitos 2 d.month ++ '-' :: comDigitos 2 d.day

structure FiltrosConferencia where
  dataInicio : Option Texto := none
  dataFim : Option Texto := none
  page : Option Nat := none
  deriving DecidableEq, Repr

/-- The query of `GET /api/vendas` that `atualizarMovimentacoes` sends. -/
def atualizarMovimentacoes (filtros : FiltrosConferencia) : List (String × Texto) :=
  (filtros.dataInicio.map ("data_inicio", ·)).toList ++
    (filtros.dataFim.map ("data_fim", ·)).toList ++
    [("page", (toString ((filtros.page.filter (· ≠ 0)).getD 1)).toList), ("limit", "10".toList),
      ("forma_pagamento", "dinheiro,pix+dinheiro,falha".toList), ("valido", "1".toList),
      ("conferido", "0".toList)]

/-- What a click does: the notification it shows or the requests it sends. -/
inductive Clique where
  | notificacao (message type : String)
  | requisicoes (consultas : List (List (String × Texto)))
  deriving DecidableEq, Repr

/-- The handler loads the list with the filters, and then once more without them: the call
behind the listener of `refreshBtn` stands in this handler too. -/
def carregar (filtros : FiltrosConferencia) : Clique :=
  .requisicoes [atualizarMovimentacoes filtros, atualizarMovimentacoes {}]

/-- The click on 'Filtrar', in a browser whose local time is `offset` milliseconds from UTC. -/
def filterMovimentacoes (navegador : Texto → Option Int) (offset : Int) (dataFiltro : Texto) :
    Clique :=
  if dataFiltro = [] then carregar {}
  else
    match partesDaData dataFiltro with
    | none => .notificacao "Data inválida. Use DD/MM/AAAA." "warning"
    | some (dia, mes, ano) =>
      match dataDe navegador ano mes dia with
      | none => .notificacao "Data inválida." "warning"
      | some data =>
        let aqui := dataLocal offset data
        if aqui.year ≠ Texto.valor ano ∨ aqui.month ≠ Texto.valor mes ∨
            aqui.day ≠ Texto.valor dia then .notificacao "Data inválida." "warning"
        else carregar { dataInicio := some (toISODate data), dataFim := some (toISODate data) }

section Mascara

variable {v : Texto}

theorem digitos_eq_self (digitos : ∀ c ∈ v, c.isDigit = true) : Texto.digitos v = v :=
  List.filter_eq_self.mpr digitos

/-- The parts of the mask and of the date are parts of what was typed. -/
theorem digitos_parte (digitos : ∀ c ∈ v, c.isDigit = true) {w : Texto} (part : w ⊆ v) :
    ∀ c ∈ w, c.isDigit = true := fun c member => digitos c (part member)

theorem meio_subset (v : Texto) : (v.drop 2).take 2 ⊆ v :=
  List.Subset.trans (List.take_subset ..) (List.drop_subset ..)

theorem digitos_append (w : Texto) : Texto.digitos (v ++ w) = Texto.digitos v ++ Texto.digitos w :=
  List.filter_append ..

theorem digitos_barra : Texto.digitos ('/' :: v) = Texto.digitos v := rfl

theorem tres_partes (v : Texto) : v.take 2 ++ ((v.drop 2).take 2 ++ v.drop 4) = v := by
  have last : v.drop 4 = (v.drop 2).drop 2 := by rw [List.drop_drop]
  rw [last, List.take_append_drop, List.take_append_drop]

/-- The bars take no digit away. -/
theorem digitos_comBarras (digitos : ∀ c ∈ v, c.isDigit = true) (short : v.length ≤ 8) :
    Texto.digitos (comBarras v) = v := by
  have taken (n : Nat) : Texto.digitos (v.take n) = v.take n :=
    digitos_eq_self (digitos_parte digitos (List.take_subset ..))
  have dropped (n : Nat) : Texto.digitos (v.drop n) = v.drop n :=
    digitos_eq_self (digitos_parte digitos (List.drop_subset ..))
  have middle : Texto.digitos ((v.drop 2).take 2) = (v.drop 2).take 2 :=
    digitos_eq_self (digitos_parte digitos (meio_subset v))
  rw [comBarras]
  split
  next => exact digitos_eq_self digitos
  next =>
    split
    next => rw [digitos_append, digitos_barra, taken, dropped, List.take_append_drop]
    next =>
      rw [List.append_assoc, digitos_append, List.cons_append, digitos_barra, digitos_append,
        digitos_barra, taken, middle, dropped, tres_partes]

theorem comBarras_take (v : Texto) : comBarras (v.take 8) = comBarras v := by
  rcases Nat.lt_or_ge 8 v.length with long | short
  · have eight : (v.take 8).length = 8 := by
      rw [List.length_take]
      omega
    have last : (v.take 8).drop 4 = (v.drop 4).take 4 := List.drop_take ..
    have middle : ((v.take 8).drop 2).take 2 = (v.drop 2).take 2 := by
      rw [List.drop_take, List.take_take]
      rfl
    have two : ¬v.length ≤ 2 := by omega
    have four : ¬v.length ≤ 4 := by omega
    simp [comBarras, eight, List.take_take, last, middle, two, four, Nat.not_le.mpr long]
  · rw [List.take_of_length_le short]

/-- Typed digit by digit, the field shows the digits with bars. -/
theorem digitar_digitos (digitos : ∀ c ∈ v, c.isDigit = true) : digitar v = comBarras v := by
  induction v using List.reverseRecOn with
  | nil => rfl
  | append_singleton v c ih =>
    rw [List.forall_mem_append, List.forall_mem_singleton] at digitos
    have first : ∀ c ∈ v.take 8, c.isDigit = true :=
      digitos_parte digitos.1 (List.take_subset ..)
    have key : Texto.digitos [c] = [c] := digitos_eq_self (List.forall_mem_singleton.mpr digitos.2)
    rw [digitar, List.foldl_append, List.foldl_cons, List.foldl_nil, ← digitar, ih digitos.1,
      ← comBarras_take v, mascaraData, digitos_append, key,
      digitos_comBarras first (List.length_take_le ..), ← comBarras_take (v ++ [c])]
    rcases Nat.lt_or_ge v.length 8 with more | full
    · rw [List.take_of_length_le (Nat.le_of_lt more), List.take_of_length_le (by simp; omega)]
    · rw [List.take_append_of_le_length full, ← comBarras_take (v.take 8 ++ [c]),
        List.take_append_of_le_length (by simp [full]), List.take_take]
      rfl

end Mascara
section Datas

variable {navegador : Texto → Option Int} {offset : Int} {d : Date}

theorem valor_digito (v : Texto) {c : Char} (digit : c.isDigit = true) :
    48 ≤ c.toNat ∧ c.toNat ≤ 57 ∧ Texto.valor (v ++ [c]) = 10 * Texto.valor v + (c.toNat - 48) := by
  simp only [Char.isDigit, Bool.and_eq_true, decide_eq_true_eq, UInt32.le_iff_toNat_le] at digit
  refine ⟨digit.1, digit.2, ?_⟩
  rw [Texto.valor, List.foldl_append]
  rfl

/-- A number written with as many digits as it was read from is the text it was read from. -/
theorem comDigitos_valor {v : Texto} (digitos : ∀ c ∈ v, c.isDigit = true) :
    comDigitos v.length (Texto.valor v) = v := by
  induction v using List.reverseRecOn with
  | nil => rfl
  | append_singleton v c ih =>
    rw [List.forall_mem_append, List.forall_mem_singleton] at digitos
    obtain ⟨low, high, read⟩ := valor_digito v digitos.2
    have rest : Texto.valor (v ++ [c]) / 10 = Texto.valor v := by omega
    have last : 48 + Texto.valor (v ++ [c]) % 10 = c.toNat := by omega
    rw [List.length_append, List.length_singleton, comDigitos, rest, last, ih digitos.1,
      Char.ofNat_toNat]

theorem comDigitos_lido {v : Texto} {n : Nat} (digitos : ∀ c ∈ v, c.isDigit = true)
    (size : v.length = n) : comDigitos n (Texto.valor v) = v := by
  rw [← size, comDigitos_valor digitos]

theorem valor_lt {v : Texto} (digitos : ∀ c ∈ v, c.isDigit = true) :
    Texto.valor v < 10 ^ v.length := by
  induction v using List.reverseRecOn with
  | nil => decide
  | append_singleton v c ih =>
    rw [List.forall_mem_append, List.forall_mem_singleton] at digitos
    obtain ⟨low, high, read⟩ := valor_digito v digitos.2
    have rest := ih digitos.1
    rw [List.length_append, List.length_singleton, Nat.pow_succ, read]
    omega

/-- At an offset of less than a day, midnight in UTC is on the same local day just where local
time is not behind. -/
theorem dataLocal_eq_iff (within : -msPorDia < offset) (within' : offset < msPorDia) :
    dataLocal offset (msPorDia * dayNumber d) = d ↔ 0 ≤ offset := by
  have day : dataLocal offset (msPorDia * dayNumber d) = d ↔
      (msPorDia * dayNumber d + offset) / msPorDia = dayNumber d := by
    rw [dataLocal]
    constructor
    · exact fun same => (dayNumber_ofDayNumber _).symm.trans (congrArg dayNumber same)
    · intro same
      rw [same, ofDayNumber_dayNumber]
  rw [day]
  simp only [msPorDia] at within within' ⊢
  omega

theorem toISODate_dayNumber (four : 0 ≤ d.year ∧ d.year ≤ 9999) :
    toISODate (msPorDia * dayNumber d) = comDigitos 4 d.year.toNat ++ '-' ::
      comDigitos 2 d.month ++ '-' :: comDigitos 2 d.day := by
  have day : msPorDia * dayNumber d / msPorDia = dayNumber d := by
    rw [msPorDia]
    omega
  rw [toISODate, day, ofDayNumber_dayNumber, if_pos four]

/-- Whatever the browser makes of a text that is no date, a local date is a date. -/
theorem dataLocal_date? {year : Int} {month day : Nat} {instante : Int}
    (none_there : date? year month day = none) :
    (dataLocal offset instante).year ≠ year ∨ (dataLocal offset instante).month ≠ month ∨
      (dataLocal offset instante).day ≠ day := by
  by_contra same
  simp only [not_or, not_not] at same
  rw [date?_eq_some_iff.mpr same] at none_there
  cases none_there

end Datas
section Clique

/-- The date that eight digits DDMMAAAA spell, if they spell one. -/
def diaDigitado (teclas : Texto) : Option Date :=
  date? (Texto.valor (teclas.drop 4)) (Texto.valor ((teclas.drop 2).take 2))
    (Texto.valor (teclas.take 2))

def ddmmaaaa (teclas : Texto) : Texto :=
  teclas.take 2 ++ '/' :: (teclas.drop 2).take 2 ++ '/' :: teclas.drop 4

def aaaammdd (teclas : Texto) : Texto :=
  teclas.drop 4 ++ '-' :: (teclas.drop 2).take 2 ++ '-' :: teclas.take 2

variable {navegador : Texto → Option Int} {offset : Int} {teclas : Texto} {d : Date}

theorem comBarras_oito (eight : teclas.length = 8) : comBarras teclas = ddmmaaaa teclas := by
  rw [comBarras, eight]
  rfl

theorem partesDaData_ddmmaaaa (eight : teclas.length = 8)
    (digitos : ∀ c ∈ teclas, c.isDigit = true) : partesDaData (ddmmaaaa teclas) =
      some (teclas.take 2, (teclas.drop 2).take 2, teclas.drop 4) := by
  match teclas, eight with
  | [d₁, d₂, m₁, m₂, a₁, a₂, a₃, a₄], _ =>
    have bars : ddmmaaaa [d₁, d₂, m₁, m₂, a₁, a₂, a₃, a₄] =
        [d₁, d₂, '/', m₁, m₂, '/', a₁, a₂, a₃, a₄] := rfl
    have both : '/' = '/' ∧ '/' = '/' ∧ [d₁, d₂, m₁, m₂, a₁, a₂, a₃, a₄].all Char.isDigit :=
      ⟨rfl, rfl, List.all_eq_true.mpr digitos⟩
    rw [bars, partesDaData, if_pos both]
    rfl

/-- The click on eight digits compares the local date with what they spell. -/
theorem filterMovimentacoes_oito (eight : teclas.length = 8)
    (digitos : ∀ c ∈ teclas, c.isDigit = true) :
    filterMovimentacoes navegador offset (digitar teclas) =
      match dataDe navegador (teclas.drop 4) ((teclas.drop 2).take 2) (teclas.take 2) with
      | none => .notificacao "Data inválida." "warning"
      | some data =>
        if (dataLocal offset data).year ≠ Texto.valor (teclas.drop 4) ∨
            (dataLocal offset data).month ≠ Texto.valor ((teclas.drop 2).take 2) ∨
            (dataLocal offset data).day ≠ Texto.valor (teclas.take 2) then
          .notificacao "Data inválida." "warning"
        else
          carregar { dataInicio := some (toISODate data), dataFim := some (toISODate data) } := by
  have some_key : ddmmaaaa teclas ≠ [] := by simp [ddmmaaaa]
  rw [digitar_digitos digitos, comBarras_oito eight, filterMovimentacoes, if_neg some_key,
    partesDaData_ddmmaaaa eight digitos]

/-- A text that is no date is refused, whatever the browser makes of it. -/
theorem recusada (eight : teclas.length = 8) (digitos : ∀ c ∈ teclas, c.isDigit = true)
    (none_there : diaDigitado teclas = none) :
    filterMovimentacoes navegador offset (digitar teclas) =
      .notificacao "Data inválida." "warning" := by
  rw [filterMovimentacoes_oito eight digitos]
  split
  next => rfl
  next data _ => exact if_pos (dataLocal_date? none_there)

/-- The date goes back into the digits it was read from. -/
theorem toISODate_digitado (eight : teclas.length = 8) (digitos : ∀ c ∈ teclas, c.isDigit = true)
    (spelled : diaDigitado teclas = some d) :
    toISODate (msPorDia * dayNumber d) = aaaammdd teclas := by
  obtain ⟨year, month, day⟩ := date?_eq_some_iff.mp spelled
  have four : (teclas.drop 4).length = 4 := by rw [List.length_drop, eight]
  have two : (teclas.take 2).length = 2 := by
    rw [List.length_take, eight]
    rfl
  have middle : ((teclas.drop 2).take 2).length = 2 := by
    rw [List.length_take, List.length_drop, eight]
    rfl
  have dropped := digitos_parte digitos (List.drop_subset 4 teclas)
  have small := valor_lt dropped
  rw [four] at small
  rw [toISODate_dayNumber (by omega), year, month, day, Int.toNat_natCast,
    comDigitos_lido dropped four,
    comDigitos_lido (digitos_parte digitos (meio_subset teclas)) middle,
    comDigitos_lido (digitos_parte digitos (List.take_subset 2 teclas)) two, aaaammdd]

/-- A date is accepted just where local time is not behind UTC. -/
theorem aceita_iff (eight : teclas.length = 8) (digitos : ∀ c ∈ teclas, c.isDigit = true)
    (spelled : diaDigitado teclas = some d) (within : -msPorDia < offset)
    (within' : offset < msPorDia) :
    filterMovimentacoes navegador offset (digitar teclas) =
      (if 0 ≤ offset then
        carregar { dataInicio := some (aaaammdd teclas), dataFim := some (aaaammdd teclas) }
      else .notificacao "Data inválida." "warning") := by
  have read : dataDe navegador (teclas.drop 4) ((teclas.drop 2).take 2) (teclas.take 2) =
      some (msPorDia * dayNumber d) := by
    rw [diaDigitado] at spelled
    rw [dataDe, spelled]
  have compared : ((dataLocal offset (msPorDia * dayNumber d)).year ≠ Texto.valor (teclas.drop 4) ∨
      (dataLocal offset (msPorDia * dayNumber d)).month ≠ Texto.valor ((teclas.drop 2).take 2) ∨
      (dataLocal offset (msPorDia * dayNumber d)).day ≠ Texto.valor (teclas.take 2)) ↔
        ¬0 ≤ offset := by
    have same : ((dataLocal offset (msPorDia * dayNumber d)).year = Texto.valor (teclas.drop 4) ∧
        (dataLocal offset (msPorDia * dayNumber d)).month = Texto.valor ((teclas.drop 2).take 2) ∧
        (dataLocal offset (msPorDia * dayNumber d)).day = Texto.valor (teclas.take 2)) ↔
          dataLocal offset (msPorDia * dayNumber d) = d := by
      rw [diaDigitado] at spelled
      rw [← date?_eq_some_iff, spelled, Option.some.injEq, eq_comm]
    rw [← dataLocal_eq_iff within within', ← same]
    simp only [ne_eq, not_and_or]
  rw [filterMovimentacoes_oito eight digitos, read]
  simp only [compared, toISODate_digitado eight digitos spelled, ite_not]

/-- What the filter should do with eight digits. -/
structure DiaFiltrado (navegador : Texto → Option Int) (offset : Int) (teclas : Texto) : Prop where
  mascara : digitar teclas = ddmmaaaa teclas
  /-- A date is sent as the first and the last day of the list. -/
  aceita : (diaDigitado teclas).isSome → ∃ outras,
    filterMovimentacoes navegador offset (digitar teclas) = .requisicoes (atualizarMovimentacoes
      { dataInicio := some (aaaammdd teclas), dataFim := some (aaaammdd teclas) } :: outras)
  recusa : diaDigitado teclas = none → ∃ message,
    filterMovimentacoes navegador offset (digitar teclas) = .notificacao message "warning"

/-- For every eight digits, every browser and every offset from -12 to 14 hours: the filter does
so just where the digits are no date or local time is not behind UTC. -/
theorem dia_filtrado_sse (navegador : Texto → Option Int) (offset : Int) (teclas : Texto)
    (eight : teclas.length = 8) (digitos : ∀ c ∈ teclas, c.isDigit = true)
    (west : -12 * 3600000 ≤ offset) (east : offset ≤ 14 * 3600000) :
    DiaFiltrado navegador offset teclas ↔ diaDigitado teclas = none ∨ 0 ≤ offset := by
  have masked : digitar teclas = ddmmaaaa teclas := by
    rw [digitar_digitos digitos, comBarras_oito eight]
  cases spelled : diaDigitado teclas with
  | none =>
    refine iff_of_true ⟨masked, ?_, fun _ => ⟨_, recusada eight digitos spelled⟩⟩ (.inl rfl)
    intro isDate
    rw [spelled] at isDate
    cases isDate
  | some d =>
    have less : -msPorDia < offset ∧ offset < msPorDia := by
      rw [msPorDia]
      omega
    have clicked : filterMovimentacoes navegador offset (digitar teclas) = _ :=
      aceita_iff eight digitos spelled less.1 less.2
    constructor
    · intro filtered
      obtain ⟨outras, sent⟩ := filtered.aceita (by rw [spelled]; rfl)
      rw [clicked] at sent
      split at sent
      next ahead => exact .inr ahead
      next => cases sent
    · intro ahead
      rw [if_pos (ahead.resolve_left (Option.some_ne_none d))] at clicked
      refine ⟨masked, fun _ => ⟨_, clicked⟩, fun none_there => ?_⟩
      rw [spelled] at none_there
      cases none_there

theorem dia_filtrado_sse_bissexto :
    DiaFiltrado (fun _ => none) 3600000 "29022024".toList :=
  (dia_filtrado_sse _ 3600000 _ rfl (List.all_eq_true.mp (by decide)) (by decide) (by decide)).mpr
    (.inr (by decide))

/-- Three hours behind UTC the first of January of 2024 is refused. -/
theorem dia_recusado_a_oeste : (diaDigitado "01012024".toList).isSome ∧
    filterMovimentacoes (fun _ => none) (-3 * 3600000) (digitar "01012024".toList) =
      .notificacao "Data inválida." "warning" := by
  decide

end Clique
end IceClube
