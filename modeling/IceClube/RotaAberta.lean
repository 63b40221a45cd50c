import IceClube.Execucao

/-! The rows of the table `entregador` that are still open: when a courier never has two. -/
namespace IceClube

open Coop

def UmaRota (rotas : Table Entregador) : Prop :=
  ∀ i j a b, rotas.get i = some a → rotas.get j = some b → a.entregadorId = b.entregadorId →
    a.horaFim = none → b.horaFim = none → i = j

def SemRota (rotas : Table Entregador) (entregadorId : Nat) : Prop :=
  ∀ i a, rotas.get i = some a → a.entregadorId = entregadorId → a.horaFim ≠ none

theorem umaRota_insert {rotas : Table Entregador} (law : UmaRota rotas) (row : Entregador)
    (aberta : row.horaFim = none) :
    UmaRota (rotas.insert row) ↔ SemRota rotas row.entregadorId := by
  have new : (rotas.insert row).get rotas.next = some row := by rw [Table.get_insert, if_pos rfl]
  constructor
  · intro kept i a found same opened
    have := kept i rotas.next a row (Table.get_insert_of_get row found) new same opened aberta
    exact absurd (Table.lt_next found) (by omega)
  · intro first i j a b found found' same opened opened'
    rw [Table.get_insert] at found found'
    split at found <;> split at found'
    next here there => rw [here, there]
    next here there =>
      cases found
      exact absurd opened' (first j b found' same.symm)
    next here there =>
      cases found'
      exact absurd opened (first i a found same)
    next here there => exact law i j a b found found' same opened opened'

theorem umaRota_alter {rotas : Table Entregador} (law : UmaRota rotas)
    {f : Nat → Entregador → Entregador} (courier : ∀ n a, (f n a).entregadorId = a.entregadorId)
    (closes : ∀ n a, (f n a).horaFim = none → a.horaFim = none) : UmaRota (rotas.alter f) := by
  intro i j a b found found' same opened opened'
  rw [Table.get_alter, Option.map_eq_some_iff] at found found'
  obtain ⟨a, found, rfl⟩ := found
  obtain ⟨b, found', rfl⟩ := found'
  rw [courier, courier] at same
  exact law i j a b found found' same (closes i a opened) (closes j b opened')

/-- What a statement must find: an insertion, no open row of its courier. -/
def SqlBot.PrimeiraRota (rotas : Table Entregador) : SqlBot → Prop
  | .insertEntregador _ _ usuarioId => SemRota rotas (usuarioId.getD 0)
  | _ => True

def Ato.PrimeiraRota (rotas : Table Entregador) : Ato → Prop
  | .query _ q => q.PrimeiraRota rotas
  | _ => True

theorem umaRota_sql {db : Db} (law : UmaRota db.entregador) (q : SqlBot) :
    UmaRota (q.sem db).2.entregador ↔ q.PrimeiraRota db.entregador := by
  cases q with
  | insertEntregador nome quantidade usuarioId => exact umaRota_insert law _ rfl
  | fecharEntregador id =>
    refine iff_of_true (umaRota_alter law (fun n a => ?_) fun n a => ?_) trivial
    · split <;> rfl
    · split <;> simp
  | encerrarEntregador id =>
    refine iff_of_true (umaRota_alter law (fun n a => ?_) fun n a => ?_) trivial
    · split <;> rfl
    · split <;> simp
  | updateEndereco id | receberEntrega id | falharEntrega _ id | receber _ id | justificar _ _ id =>
    refine iff_of_true ?_ trivial
    cases id <;> exact law
  | receberPedido id | falharPedido id =>
    refine iff_of_true ?_ trivial
    simp only [SqlBot.sem, Db.alterarPedidoDaEntrega]
    split <;> exact law
  | receberVenda id =>
    refine iff_of_true ?_ trivial
    simp only [SqlBot.sem, Db.alterarVendaDaEntrega]
    split <;> exact law
  | _ => exact iff_of_true law trivial

theorem umaRota_sem {m : Mundo} (law : UmaRota m.db.entregador) (o : Ato)
    (aceito : ∀ c q, o = .query c q → q.recusa = none) :
    UmaRota (o.sem m).2.db.entregador ↔ o.PrimeiraRota m.db.entregador := by
  cases o with
  | query c q =>
    rw [Ato.sem, aceito c q rfl]
    exact umaRota_sql law q
  | _ => exact iff_of_true law trivial

/-- The statement reaches the database: it is not rejected on the way. -/
def Mundo.Alcanca (m : Mundo) : Prop := ∀ erro, m.falhas.headD .nenhuma ≠ .rejeitada erro

/-- What an executed call must find. -/
def Ato.Cabe (m : Mundo) (o : Ato) : Prop := m.Alcanca → o.PrimeiraRota m.db.entregador

theorem umaRota_exec {m : Mundo} (law : UmaRota m.db.entregador) (o : Ato) :
    UmaRota (o.exec m).2.db.entregador ↔ o.Cabe m := by
  have sem (falhas : List Falha) :
      UmaRota (o.sem (m.comFalhas falhas)).2.db.entregador ↔ o.PrimeiraRota m.db.entregador := by
    cases o with
    | query c q =>
      cases refused : q.recusa with
      | none => exact umaRota_sem (m := m.comFalhas falhas) law _ (by rintro _ _ ⟨⟩; exact refused)
      | some erro =>
        rw [Ato.sem, refused]
        refine iff_of_true law ?_
        cases q with
        | insertEntregador => cases refused
        | _ => trivial
    | _ => exact iff_of_true law trivial
  rw [Ato.exec, Ato.Cabe]
  cases fixed : o.infalivel with
  | true =>
    refine (sem m.falhas).trans (iff_of_true ?_ fun _ => ?_) <;>
    · cases o with
      | query => cases fixed
      | _ => trivial
  | false =>
    rw [if_neg (by decide)]
    cases answer : m.falhas.headD .nenhuma with
    | nenhuma =>
      have reached : m.Alcanca := fun erro rejected => by
        rw [answer] at rejected
        cases rejected
      exact (sem _).trans ⟨fun first _ => first, fun fits => fits reached⟩
    | rejeitada erro => exact iff_of_true law fun reached => absurd answer (reached erro)
    | perdida =>
      have reached : m.Alcanca := fun erro rejected => by
        rw [answer] at rejected
        cases rejected
      exact (sem _).trans ⟨fun first _ => first, fun fits => fits reached⟩

/-- The bot, with nobody else at the table `entregador`. Its `ROLLBACK` undoes nothing, as in MySQL
where no statement of a block was rejected. -/
def botDasRotas : System Evento Deriva String Ato.Res Unit Mundo :=
  { bot with drift := fun d m =>
      m.derivar { d with db := { d.db with entregador := m.db.entregador } } }

abbrev Bot := Config String Ato.Res Unit Mundo

theorem entregador_sync (o : Ato) (m : Mundo) (sync : botDasRotas.sync o = true) :
    (botDasRotas.exec o m).2.db.entregador = m.db.entregador := by
  have fixed : o.infalivel = true := by
    cases o <;> first | rfl | exact sync
  rw [show botDasRotas.exec o m = o.exec m from rfl, Ato.exec_infalivel fixed]
  cases o with
  | query => cases fixed
  | _ => rfl

theorem umaRota_step (c : Bot) (a : Action Evento Deriva) (law : UmaRota c.state.db.entregador) :
    UmaRota (botDasRotas.advance a c).state.db.entregador ↔
      ∀ o, c.issued a = some o → o.Cabe c.state := by
  rw [System.advance_frame (M := botDasRotas) (fun m => m.db.entregador) entregador_sync]
  cases a with
  | drift d => exact iff_of_true law nofun
  | arrive evento => exact iff_of_true law nofun
  | step task =>
    cases issued : c.issued (.step task : Action Evento Deriva) with
    | none => exact iff_of_true law nofun
    | some o =>
      simp only [Option.some.injEq, forall_eq']
      exact umaRota_exec law o

def SempreUmaRota (c : Bot) (passos : List (Action Evento Deriva)) : Prop :=
  ∀ pre post, passos = pre ++ post → UmaRota (botDasRotas.execute pre c).state.db.entregador

theorem sempreUmaRota_iff (c : Bot) (passos : List (Action Evento Deriva)) :
    SempreUmaRota c passos ↔
      UmaRota c.state.db.entregador ∧
        botDasRotas.Runs (fun c a => ∀ o, c.issued a = some o → o.Cabe c.state) passos c :=
  System.always_iff_runs (M := botDasRotas) (I := fun m : Mundo => UmaRota m.db.entregador)
    umaRota_step

def entregadorNaRua : Mundo where
  db :=
    { pedidosDiarios :=
        .ofList [{ clienteNumero := "5511999990000", status := .rua, valido := some 1 }]
      entregas := .ofList [{ pedidoId := 1, clienteNumero := "5511999990000",
                             entregadorId := some 5, status := .rua }] }
  conversas _ :=
    { sessao := some 0
      objetos := fun _ => { setor := some .entrega, data := some 0, autenticado := true,
                            logado := true, usuarioId := some 5, cargo := some .entregador }
      proximo := 1 }

def iniciarRotaDuasVezes : List (Action Evento Deriva) :=
  let botao := .arrive (.callbackChat 7 (some "iniciar_rota".toList))
  [botao, botao] ++ List.replicate 4 (.step 0) ++ List.replicate 4 (.step 1) ++
    [.step 0, .step 0, .step 1, .step 1]

theorem iniciar_rota_duas_vezes : ¬ SempreUmaRota ⟨entregadorNaRua, []⟩ iniciarRotaDuasVezes := by
  intro always
  have same := always iniciarRotaDuasVezes [] (List.append_nil _).symm 1 2 _ _
    (by decide +kernel : _ = some ⟨"Entregador Desconhecido", 1, 0, none, 5⟩)
    (by decide +kernel : _ = some ⟨"Entregador Desconhecido", 1, 0, none, 5⟩) rfl rfl rfl
  contradiction

end IceClube
