import IceClube.EntregaBot
import IceClube.Greedy
import IceClube.Ocorrencias

/-! The nearest-neighbour loop of `concluir_edicao`, round by round. -/
namespace IceClube

open Coop Prog Greedy

section Rodadas

variable (c : Chat)

inductive Responde (origem : String) : List Parada → Mundo → List (Option Texto) → Mundo → Prop
  | nada (m : Mundo) : Responde origem [] m [] m
  | outra {loc : Parada} {locs : List Parada} {m m' m'' : Mundo} {d : Option Texto}
      {ds : List (Option Texto)}
      (pergunta : (calculateDistance (enviarMensagemWrapper c) origem loc.address).run Ato.exec m =
        (.ok d, m'))
      (resto : Responde origem locs m' ds m'') : Responde origem (loc :: locs) m (d :: ds) m''

abbrev Rodada := Round String Parada (Option Texto)

/-- The rounds are what was asked and answered from the first world to the last. -/
inductive Feitas : List Rodada → Mundo → Mundo → Prop
  | nenhuma (m : Mundo) : Feitas [] m m
  | mais {rodada : Rodada} {rodadas : List Rodada} {m m' m'' : Mundo}
      (feita : Responde c rodada.place rodada.left m rodada.answers m')
      (resto : Feitas rodadas m' m'') : Feitas (rodada :: rodadas) m m''

/-- A message to the chat is not sent. -/
def NaoEnviada {α : Type} (f : Fluxo α) (m : Mundo) : Prop :=
  Ocorre (fun o m => (∃ texto teclado, o = .sendMessage c texto teclado) ∧ m.falha ≠ .nenhuma) f m

variable {c} {origem : String} {m m' : Mundo} {locs : List Parada} {ds : List (Option Texto)}

theorem Responde.length (responde : Responde c origem locs m ds m') : ds.length = locs.length := by
  induction responde with
  | nada => rfl
  | outra pergunta resto ih => exact congrArg (· + 1) ih

end Rodadas

section Falha

variable {c : Chat} {α β : Type} {m : Mundo}

/-- The program fails only where a message to the chat is not sent. -/
def SoSemEnvio (c : Chat) (f : Fluxo α) (m : Mundo) : Prop :=
  ∀ e m', f.run Ato.exec m = (.error e, m') → NaoEnviada c f m

theorem soSemEnvio_done (a : α) : SoSemEnvio c (done a : Fluxo α) m := by
  rintro e m' ⟨⟩

theorem soSemEnvio_bind {f : Fluxo α} {g : α → Fluxo β} (first : SoSemEnvio c f m)
    (rest : ∀ a m', SoSemEnvio c (g a) m') : SoSemEnvio c (f >>= g) m := by
  intro e m'' failed
  rcases run : f.run Ato.exec m with ⟨answer, m'⟩
  cases answer with
  | ok a =>
    rw [(ocorre_bind_ok (P := fun _ _ => True) run).1] at failed
    exact (ocorre_bind_ok run).2.mpr (.inr (rest a m' e m'' failed))
  | error e' => exact (ocorre_bind_error run).2.mpr (first e' m' run)

theorem soSemEnvio_handle {f : Fluxo α} {h : String → Fluxo α}
    (handler : ∀ e m', SoSemEnvio c (h e) m') : SoSemEnvio c (f.handle h) m := by
  intro e m'' failed
  rcases run : f.run Ato.exec m with ⟨answer, m'⟩
  cases answer with
  | ok a =>
    rw [(ocorre_handle_ok (P := fun _ _ => True) run).1] at failed
    cases failed
  | error e' =>
    rw [(ocorre_handle_error (P := fun _ _ => True) run).1] at failed
    exact (ocorre_handle_error run).2.mpr (.inr (handler e' m' e m'' failed))

theorem soSemEnvio_espera (ms : Nat) {f : Unit → Fluxo β} (rest : ∀ m', SoSemEnvio c (f ()) m') :
    SoSemEnvio c (faz (.setTimeout ms) >>= f) m := by
  refine soSemEnvio_bind ?_ fun _ => rest
  rintro e m' ⟨⟩

theorem soSemEnvio_wrapper (texto : String) : SoSemEnvio c (enviarMensagemWrapper c texto) m := by
  refine soSemEnvio_bind (fun e m' failed => ?_) fun _ m' => soSemEnvio_done ()
  have rough : m.falha ≠ .nenhuma := by
    intro calm
    rw [run_faz, exec_nenhuma rfl calm] at failed
    cases failed
  exact (ocorre_faz _ m).mpr ⟨⟨texto, [], rfl⟩, rough⟩

theorem soSemEnvio_calculateDistance (origem destino : String) :
    SoSemEnvio c (calculateDistance (enviarMensagemWrapper c) origem destino) m := by
  have tentar (restantes : Nat) (m : Mundo) :
      SoSemEnvio c (tentarDistancia (enviarMensagemWrapper c) origem destino restantes) m := by
    induction restantes generalizing m with
    | zero => exact soSemEnvio_done none
    | succ restantes ih =>
      refine soSemEnvio_handle fun e m' => ?_
      split
      · exact soSemEnvio_bind (soSemEnvio_wrapper _) fun _ m' => soSemEnvio_done none
      · exact soSemEnvio_espera _ ih
  exact soSemEnvio_espera _ (tentar 3)

theorem soSemEnvio_maisProxima (origem : String) (locs : List (Parada × Nat))
    (nearest : Option (Nat × Parada × ℚ)) :
    SoSemEnvio c (maisProxima (enviarMensagemWrapper c) origem locs nearest) m := by
  induction locs generalizing nearest m with
  | nil => exact soSemEnvio_done nearest
  | cons loc locs ih => exact soSemEnvio_bind (soSemEnvio_calculateDistance _ _) fun d m' => ih _

theorem soSemEnvio_rotaOtimizada (voltas : Nat) (origem : String) (locs : List Parada) :
    SoSemEnvio c (rotaOtimizada (enviarMensagemWrapper c) voltas origem locs) m := by
  induction voltas generalizing origem locs m with
  | zero => exact soSemEnvio_done []
  | succ voltas ih =>
    refine soSemEnvio_bind (soSemEnvio_maisProxima _ _ _) fun nearest m' => ?_
    cases nearest with
    | none => exact soSemEnvio_done []
    | some found => exact soSemEnvio_bind (ih _ _) fun rota m' => soSemEnvio_done _

end Falha

section Passeio

variable {c : Chat} {m m' : Mundo}

theorem melhorar_eq (i : Nat) (loc : Parada) (distancia : Option Texto)
    (nearest : Option (Nat × Parada × ℚ)) :
    melhorar i loc distancia nearest = better i loc (distanceValue distancia) nearest := by
  cases value : distanceValue distancia <;> cases nearest <;> simp [melhorar, better, value]

theorem responde_maisProxima {origem : String} {locs : List Parada} {k : Nat}
    {nearest found : Option (Nat × Parada × ℚ)}
    (run : (maisProxima (enviarMensagemWrapper c) origem (locs.zipIdx k) nearest).run Ato.exec m =
      (.ok found, m')) :
    ∃ ds, Responde c origem locs m ds m' ∧
      found = scan k (locs.zip (ds.map distanceValue)) nearest := by
  induction locs generalizing k nearest m with
  | nil =>
    cases run
    exact ⟨[], .nada _, rfl⟩
  | cons loc locs ih =>
    rw [List.zipIdx_cons, maisProxima, run_bind] at run
    rcases asked : (calculateDistance (enviarMensagemWrapper c) origem loc.address).run Ato.exec m
      with ⟨answer, m₁⟩
    rw [asked] at run
    cases answer with
    | error e => cases run
    | ok d =>
      obtain ⟨ds, responde, same⟩ := ih run
      refine ⟨d :: ds, .outra asked responde, ?_⟩
      rw [same, melhorar_eq]
      rfl

/-- What a round finds is the first of the least of its answers. -/
theorem found_maisProxima {inicio : String} {locs : List Parada}
    {nearest : Option (Nat × Parada × ℚ)}
    (run : (maisProxima (enviarMensagemWrapper c) inicio locs.zipIdx none).run Ato.exec m =
      (.ok nearest, m')) :
    ∃ ds, Responde c inicio locs m ds m' ∧ Found (locs.zip (ds.map distanceValue)) nearest := by
  obtain ⟨ds, responde, same⟩ := responde_maisProxima run
  have start : Found ([] : List (Parada × Option ℚ)) none := fun item member => by cases member
  refine ⟨ds, responde, ?_⟩
  rw [same]
  exact found_scan start

/-- However many turns the loop may take, it takes a round for each place at most. -/
theorem passeio_rotaOtimizada {voltas : Nat} {inicio : String} {locs rota : List Parada}
    (enough : locs.length ≤ voltas)
    (run : (rotaOtimizada (enviarMensagemWrapper c) voltas inicio locs).run Ato.exec m =
      (.ok rota, m')) :
    ∃ rodadas, Feitas c rodadas m m' ∧ Tour Parada.address distanceValue inicio locs rodadas rota := by
  induction voltas generalizing inicio locs rota m m' with
  | zero =>
    obtain rfl : locs = [] := List.eq_nil_of_length_eq_zero (Nat.le_zero.mp enough)
    cases run
    exact ⟨[], .nenhuma _, .ended inicio⟩
  | succ voltas ih =>
    rw [rotaOtimizada, run_bind] at run
    rcases scanned : (maisProxima (enviarMensagemWrapper c) inicio locs.zipIdx none).run Ato.exec m
      with ⟨answer, m₁⟩
    rw [scanned] at run
    cases answer with
    | error e => cases run
    | ok nearest =>
      obtain ⟨ds, responde, found⟩ := found_maisProxima scanned
      have asked := responde.length
      have round : Feitas c [⟨inicio, locs, ds⟩] m m₁ := .mais responde (.nenhuma m₁)
      cases nearest with
      | none =>
        cases run
        have missing := missing_of_found asked found
        cases locs with
        | nil =>
          cases responde
          exact ⟨[], .nenhuma _, .ended inicio⟩
        | cons loc locs => exact ⟨_, round, .stuck (List.cons_ne_nil _ _) asked missing⟩
      | some best =>
        obtain ⟨i, loc, d⟩ := best
        have first : First (locs.zip (ds.map distanceValue)) i loc d := found
        have shorter := first.length_eraseIdx
        simp only [run_bind] at run
        rcases later : (rotaOtimizada (enviarMensagemWrapper c) voltas loc.address
          (locs.eraseIdx i)).run Ato.exec m₁ with ⟨answer, m₂⟩
        rw [later] at run
        cases answer with
        | error e => cases run
        | ok resto =>
          have fewer : (locs.eraseIdx i).length ≤ voltas := by omega
          obtain ⟨rodadas, feitas, tour⟩ := ih fewer later
          cases run
          exact ⟨_, .mais responde feitas, .go asked first tour⟩

/-- 'N/A', given up by the bot or answered as such. -/
def SemResposta (d : Option Texto) : Prop := d = none ∨ d = some "N/A".toList

/-- What an answer counts as: nothing if it is 'N/A', zero if there is no number in it. -/
inductive ContaComo : Option Texto → Option ℚ → Prop
  | semResposta {d : Option Texto} (missing : SemResposta d) : ContaComo d none
  | ilegivel {t : Texto} (answered : t ≠ "N/A".toList) (unread : distanciaLida t = none) :
      ContaComo (some t) (some 0)
  | numero {t : Texto} {q : ℚ} (answered : t ≠ "N/A".toList) (read : distanciaLida t = some q)
      (finite : q ≠ Double.infinity) : ContaComo (some t) (some q)

def Finita (d : Option Texto) : Prop :=
  ∀ t, d = some t → distanciaLida t ≠ some Double.infinity

theorem contaComo_distanceValue {d : Option Texto} (finite : Finita d) :
    ContaComo d (distanceValue d) := by
  cases d with
  | none => exact .semResposta (.inl rfl)
  | some t =>
    rw [distanceValue]
    split_ifs with missing
    · exact .semResposta (.inr (congrArg some missing))
    · cases read : distanciaLida t with
      | none =>
        rw [if_neg (by decide +kernel)]
        exact .ilegivel missing read
      | some q =>
        have below : q ≠ Double.infinity := fun same => finite t rfl (same ▸ read)
        rw [Option.getD_some, if_neg below]
        exact .numero missing read below

theorem ContaComo.none_iff {d : Option Texto} {valor : Option ℚ} (conta : ContaComo d valor) :
    valor = none ↔ SemResposta d := by
  cases conta with
  | semResposta missing => exact iff_of_true rfl missing
  | ilegivel answered | numero answered =>
    exact iff_of_false (by simp) fun missing => missing.elim (by simp) fun same =>
      answered (Option.some.inj same)

structure Otimizada (c : Chat) (m m' : Mundo) (inicio : String) (locs : List Parada)
    (rodadas : List Rodada) (rota : List Parada) : Prop where
  feitas : Feitas c rodadas m m'
  valores : ∀ rodada ∈ rodadas, ∀ d ∈ rodada.answers, Finita d → ContaComo d (distanceValue d)
  passeio : Tour Parada.address distanceValue inicio locs rodadas rota
  voltas : rodadas.length ≤ locs.length
  distintas : ∃ fora, (rota ++ fora).Perm locs
  fim : rota.length < locs.length → ∃ rodada, rodadas[rota.length]? = some rodada ∧
    rodadas.length = rota.length + 1 ∧ ∀ d ∈ rodada.answers, Finita d → SemResposta d

/-- The loop returns such a route, or is left because a message is not sent. -/
def LacoCerto (c : Chat) (m : Mundo) (inicio : String) (locs : List Parada) (voltas : Nat) : Prop :=
  match (rotaOtimizada (enviarMensagemWrapper c) voltas inicio locs).run Ato.exec m with
  | (.ok rota, m') => ∃ rodadas, Otimizada c m m' inicio locs rodadas rota
  | (.error _, _) => NaoEnviada c (rotaOtimizada (enviarMensagemWrapper c) voltas inicio locs) m

/-- The loop ends by itself, however many more turns than places it may take. -/
theorem vizinhoMaisProximo (c : Chat) (m : Mundo) (inicio : String) (locs : List Parada)
    (sobra : Nat) : LacoCerto c m inicio locs (locs.length + sobra) := by
  rw [LacoCerto]
  rcases run : (rotaOtimizada (enviarMensagemWrapper c) (locs.length + sobra) inicio locs).run
    Ato.exec m with ⟨answer, m'⟩
  cases answer with
  | error e => exact soSemEnvio_rotaOtimizada _ _ _ e m' run
  | ok rota =>
    obtain ⟨rodadas, feitas, tour⟩ := passeio_rotaOtimizada (Nat.le_add_right _ _) run
    refine ⟨rodadas, feitas, fun _ _ _ _ => contaComo_distanceValue, tour, tour.length_rounds,
      tour.perm, fun shorter => ?_⟩
    obtain ⟨rodada, last, count, missing⟩ := tour.stopped shorter
    exact ⟨rodada, last, count, fun d member finite =>
      (contaComo_distanceValue finite).none_iff.mp (missing d member)⟩

/-- A text without a number counts as 0, and two distances that are one double go in their order;
the third stop is not answered. -/
example : ((rotaOtimizada (enviarMensagemWrapper 7) 3 "Rua A" [⟨1, "B"⟩, ⟨2, "C"⟩, ⟨3, "D"⟩]).run
    Ato.exec
    { acaso := [⟨1, "1,234.5 km".toList⟩, ⟨1, "abc".toList⟩, ⟨1, "3 km".toList⟩,
        ⟨1, "0.10000000000000000001 km".toList⟩, ⟨1, "0.1 km".toList⟩] }).1.toOption =
      some [⟨2, "C"⟩, ⟨1, "B"⟩] := by
  decide +kernel

end Passeio
end IceClube
