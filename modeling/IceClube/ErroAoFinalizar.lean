import IceClube.Ocorrencias
import IceClube.Quantidade
import IceClube.Statements

/-! What a seller is told of a confirmation and what became of it. One `try` holds the
transaction, the reset of the session and the messages, so the same report follows a failure
before the commit and after it. -/
namespace IceClube

open Coop Prog

/-- The connection rolls back, the button is answered and the report arrives. -/
def Mundo.Reporta (m : Mundo) : Prop :=
  m.falha = .nenhuma ∧ m.seguida.falha = .nenhuma ∧ m.seguida.seguida.alcanca = true

section Historia

variable {c : Chat} {r : Nat}

/-- How often a commit for the session took effect. -/
def Conversa.confirmadas (r : Nat) (k : Conversa) : Nat := k.historia.count (.confirmou r)

/-- What `depois` has sold since `antes`: the calls of the procedures, if they were committed. -/
def Conversa.vendidas (r : Nat) (antes depois : Conversa) : List Chamada :=
  if depois.confirmadas r = antes.confirmadas r then []
  else depois.registradas.drop antes.registradas.length

def Ato.SemVenda : Ato → Prop
  | .call .. | .commitVenda .. => False
  | _ => True

def Ato.SemCommit : Ato → Prop
  | .commitVenda .. => False
  | _ => True

theorem confirmou_sem {o : Ato} (other : o.SemCommit) (m : Mundo) :
    ((o.sem m).2.conversas c).confirmadas r = (m.conversas c).confirmadas r := by
  have noted {c' : Chat} {f : Conversa → Conversa}
      (kept : ∀ k : Conversa, (f k).confirmadas r = k.confirmadas r) :
      ((m.conversa c' f).conversas c).confirmadas r = (m.conversas c).confirmadas r := by
    by_cases mine : c = c'
    · rw [mine, Mundo.conversas_conversa, kept]
    · rw [Mundo.conversas_conversa_ne mine]
  have append (fatos : List Fato) (none : .confirmou r ∉ fatos) (k : Conversa) :
      (k.anota fatos).confirmadas r = k.confirmadas r := by
    rw [Conversa.confirmadas, Conversa.historia_anota, List.count_append,
      List.count_eq_zero.mpr none, Nat.zero_add]
    rfl
  cases o with
  | commitVenda => exact other.elim
  | set => exact noted fun _ => rfl
  | delete c' saida => exact noted fun k => append [.apagou saida k.proximo] (by simp) k
  | novo c' inicio => exact noted fun k => append [.criou k.proximo] (by simp) k
  | atribuir c' r' campos =>
    refine noted fun k => ?_
    exact append _ (by simp) (k.troca r' ((k.objetos r').atribuirTodos campos))
  | botao | chama | call => exact noted (append _ (by simp))
  | updateComprovante => exact noted (append _ (by simp))
  | compare c' setor texto hash =>
    refine noted (append _ ?_)
    split <;> simp
  | query c' q =>
    rw [Ato.sem]
    split
    · rfl
    · refine noted (append _ ?_)
      cases q with
      | selectLogin =>
        rw [SqlBot.fatos]
        split <;> simp
      | updateSenha => simp [SqlBot.fatos]
      | _ => simp [SqlBot.fatos]
  | _ => rfl

theorem registradas_semVenda {o : Ato} (other : o.SemVenda) (m : Mundo) :
    ((o.sem m).2.conversas c).registradas = (m.conversas c).registradas := by
  by_cases mine : o.chat = some c
  · have silent : o.chamadas = [] := by cases o <;> first | rfl | exact other.elim
    rw [registradas_sem mine, silent, List.append_nil]
  · rw [Ato.conversas_sem (mt Ato.chat_of_dono mine)]

theorem confirmadas_run {α : Type} {f : Fluxo α} (calls : f.Calls Ato.SemCommit) (m : Mundo) :
    ((f.run Ato.exec m).2.conversas c).confirmadas r = (m.conversas c).confirmadas r := by
  refine trace_invariant (fun w : Mundo => (w.conversas c).confirmadas r =
    (m.conversas c).confirmadas r) (fun x member kept => ?_) rfl
  have effect (falhas : List Falha) :=
    (confirmou_sem (c := c) (r := r) (calls_trace calls m x member)
      (x.2.comFalhas falhas)).trans kept
  exact Ato.exec_regra
    (R := fun _ w => (w.conversas c).confirmadas r = (m.conversas c).confirmadas r)
    effect (fun _ _ _ => kept) fun _ falhas _ => effect falhas

theorem registradas_run {α : Type} {f : Fluxo α} (calls : f.Calls Ato.SemVenda) (m : Mundo) :
    ((f.run Ato.exec m).2.conversas c).registradas = (m.conversas c).registradas := by
  refine trace_invariant (fun w : Mundo => (w.conversas c).registradas =
    (m.conversas c).registradas) (fun x member kept => ?_) rfl
  have effect (falhas : List Falha) :=
    (registradas_semVenda (c := c) (calls_trace calls m x member)
      (x.2.comFalhas falhas)).trans kept
  exact Ato.exec_regra (R := fun _ w => (w.conversas c).registradas = (m.conversas c).registradas)
    effect (fun _ _ _ => kept) fun _ falhas _ => effect falhas

end Historia

section Mensagens

variable (c : Chat) (r : Nat)

/-- A message that begins so reaches the chat. -/
def Mostra (inicio : String) (o : Ato) (m : Mundo) : Prop :=
  ∃ texto teclado, o = .sendMessage c texto teclado ∧ inicio.toList <+: texto.toList ∧
    m.alcanca = true

def Ato.anuncia (inicio : String) (m : Mundo) : Ato → Bool
  | .sendMessage c' texto _ => c' = c && inicio.toList.isPrefixOf texto.toList && m.alcanca
  | _ => false

theorem anuncia_iff (inicio : String) (o : Ato) (m : Mundo) :
    o.anuncia c inicio m = true ↔ Mostra c inicio o m := by
  cases o with
  | sendMessage c' texto teclado =>
    rw [Ato.anuncia, Bool.and_eq_true, Bool.and_eq_true, decide_eq_true_iff,
      List.isPrefixOf_iff_prefix]
    constructor
    · rintro ⟨⟨rfl, begins⟩, arrives⟩
      exact ⟨texto, teclado, rfl, begins, arrives⟩
    · rintro ⟨_, _, same, begins, arrives⟩
      cases same
      exact ⟨⟨rfl, begins⟩, arrives⟩
  | _ => simp [Ato.anuncia, Mostra]

instance (inicio : String) (o : Ato) (m : Mundo) : Decidable (Mostra c inicio o m) :=
  decidable_of_iff _ (anuncia_iff c inicio o m)

def inicioDoErro : String := "⚠️ *Erro ao finalizar venda"

def inicioDoSucesso : String := "✅ *Venda finalizada com sucesso"

/-- Nothing was sold, and the sale can be confirmed again. -/
structure Intacta (antes depois : Conversa) : Prop where
  vendidas : antes.vendidas r depois = []
  carrinho : (depois.objetos r).carrinho = (antes.objetos r).carrinho
  metodo : (depois.objetos r).metodoPagamento = (antes.objetos r).metodoPagamento
  comprovante : (depois.objetos r).comprovantePagamento = (antes.objetos r).comprovantePagamento
  numero : (depois.objetos r).numeroCliente = (antes.objetos r).numeroCliente

/-- Every line was sold once. -/
def VendidaInteira (antes depois : Conversa) : Prop :=
  ∃ itens, (antes.objetos r).carrinho = some itens ∧
    antes.vendidas r depois = (emOrdem itens).map (antes.objetos r).chamada

structure Relata (f : Fluxo Unit) (m : Mundo) : Prop where
  erro : Ocorre (Mostra c inicioDoErro) f m →
    Intacta r (m.conversas c) ((f.run Ato.exec m).2.conversas c)
  sucesso : Ocorre (Mostra c inicioDoSucesso) f m →
    VendidaInteira r (m.conversas c) ((f.run Ato.exec m).2.conversas c)

/-- The answer to the commit is lost only for an empty cart, and the answer to the button goes
through after the commit, unless the report of the error fails as well. -/
def CommitSeguro (m : Mundo) : Prop :=
  match m.falha with
  | .rejeitada _ => True
  | .perdida => ((m.conversas c).objetos r).carrinho.getD [] = [] ∨ ¬ m.seguida.Reporta
  | .nenhuma => m.seguida.falha = .nenhuma ∨ ¬ m.seguida.seguida.Reporta

end Mensagens

section Partes

variable (c : Chat) (r : Nat)

def ateOCommit : Fluxo Unit := do
  faz .beginTransaction
  let sessao ← faz (.ler c r)
  match sessao.carrinho with
  | none => fail indefinida
  | some carrinho => do
    let itensNormais := carrinho.filter fun item => !item.isCombo
    let combos := carrinho.filter ItemCarrinho.isCombo
    each (registrarItem c r) itensNormais
    each (registrarItem c r) combos
    salvarComprovante c r (itensNormais.length + combos.length)

/-- What follows the commit in the `try`. -/
def fimDaVenda : Fluxo Unit := do
  atualizar c r limparVenda
  faz (.answerCallbackQuery c)
  enviarVenda c "✅ *Venda finalizada com sucesso! Pedido registrado.*"
  showInitialMenu c r

/-- The `catch`. -/
def relatarErro (erro : String) : Fluxo Unit := do
  faz .rollbackVenda
  faz (.answerCallbackQuery c)
  enviarVenda c s!"⚠️ *Erro ao finalizar venda: {erro}. Tente novamente.*"

theorem registrarCarrinho_eq : registrarCarrinho c r = (do
    ateOCommit c r
    faz (.commitVenda c r)
    fimDaVenda c r) := by
  rw [ateOCommit, bind_assoc, registrarCarrinho]
  congr 1
  funext begun
  rw [bind_assoc]
  congr 1
  funext sessao
  cases sessao.carrinho with
  | none => rfl
  | some carrinho => simp only [bind_assoc, fimDaVenda]

variable {c r}

theorem ocorre_enviarVenda {P : Ato → Mundo → Prop} (mensagem : String) (m : Mundo) :
    Ocorre P (enviarVenda c mensagem) m ↔ P (.sendMessage c mensagem []) m := by
  rw [enviarVenda, ocorre_handle, ocorre_bind, ocorre_faz]
  simp [pure_eq]

theorem mudo_rollback : Ato.Mudo .rollbackVenda () := ⟨rfl, fun _ => rfl⟩

theorem mudo_answer : Ato.Mudo (.answerCallbackQuery c) () := ⟨rfl, fun _ => rfl⟩

theorem mudo_getConnection : Ato.Mudo .getConnection () := ⟨rfl, fun _ => rfl⟩

theorem ocorre_relatarErro {P : Ato → Mundo → Prop} (erro : String) (m : Mundo)
    (rollback : ∀ m, ¬ P .rollbackVenda m) (answer : ∀ m, ¬ P (.answerCallbackQuery c) m) :
    Ocorre P (relatarErro c erro) m ↔ m.falha = .nenhuma ∧ m.seguida.falha = .nenhuma ∧
      P (.sendMessage c s!"⚠️ *Erro ao finalizar venda: {erro}. Tente novamente.*" [])
        m.seguida.seguida := by
  rw [relatarErro, ocorre_mudo mudo_rollback, ocorre_mudo mudo_answer, ocorre_enviarVenda]
  simp only [rollback, answer, false_or]

theorem mostra_relatarErro (erro : String) (m : Mundo) :
    Ocorre (Mostra c inicioDoErro) (relatarErro c erro) m ↔ m.Reporta := by
  rw [ocorre_relatarErro erro m (by rintro w ⟨_, _, same, -⟩; cases same)
    (by rintro w ⟨_, _, same, -⟩; cases same), Mundo.Reporta]
  apply and_congr_right'
  apply and_congr_right'
  constructor
  · rintro ⟨_, _, -, -, arrives⟩
    exact arrives
  · intro arrives
    refine ⟨_, [], rfl, ?_, arrives⟩
    rw [String.toList_append, String.toList_append, List.append_assoc]
    have literal : inicioDoErro.toList <+: (toString "⚠️ *Erro ao finalizar venda: ").toList := by
      decide +kernel
    exact literal.trans (List.prefix_append _ _)

theorem not_mostra {inicio texto : String} {m : Mundo}
    (apart : inicio.toList.head? ≠ texto.toList.head?) (begins : inicio.toList ≠ []) :
    ¬ Mostra c inicio (.sendMessage c texto []) m := by
  rintro ⟨_, _, same, ⟨resto, begun⟩, -⟩
  cases same
  apply apart
  obtain ⟨x, xs, start⟩ := List.exists_cons_of_ne_nil begins
  rw [← begun, start]
  rfl

theorem not_mostra_sucesso (erro : String) (m : Mundo) :
    ¬ Ocorre (Mostra c inicioDoSucesso) (relatarErro c erro) m := by
  rw [ocorre_relatarErro erro m (by rintro w ⟨_, _, same, -⟩; cases same)
    (by rintro w ⟨_, _, same, -⟩; cases same)]
  rintro ⟨-, -, shown⟩
  refine not_mostra ?_ (by decide +kernel) shown
  have first : (toString "⚠️ *Erro ao finalizar venda: ").toList.head? = some '⚠' := by
    decide +kernel
  rw [String.toList_append, String.toList_append, List.append_assoc, List.head?_append, first,
    Option.some_or]
  decide +kernel

theorem not_mostra_menu {inicio : String} (apart : inicio.toList.head? ≠ some '👋')
    (begins : inicio.toList ≠ []) (m : Mundo) :
    ¬ Ocorre (Mostra c inicio) (showInitialMenu c r) m := by
  have greeting (sessao : Sessao) : inicio.toList.head? ≠
      (s!"👋 *Bem-vindo às vendas, {escapeMarkdown (nomeOuUsuario sessao.nome)}!* 😊\n" ++
        "Escolha uma opção:").toList.head? := by
    have first : (toString "👋 *Bem-vindo às vendas, ").toList.head? = some '👋' := by
      decide +kernel
    simp only [String.toList_append, List.append_assoc]
    rw [List.head?_append, first, Option.some_or]
    exact apart
  rw [showInitialMenu, ocorre_bind]
  rintro (read | ⟨sessao, m', -, shown⟩)
  · obtain ⟨_, _, same, -⟩ := (ocorre_faz _ _).mp read
    cases same
  · rw [ocorre_enviarVenda] at shown
    exact not_mostra (greeting sessao) begins shown

theorem calls_ateOCommit {P : Ato → Prop} (begins : P .beginTransaction) (reads : P (.ler c r))
    (sells : ∀ chamada, P (.call c chamada))
    (lists : ∀ numero limite, P (.selectVendasRecentes numero limite))
    (stores : ∀ imagem venda, P (.updateComprovante c imagem venda)) :
    (ateOCommit c r).Calls P := by
  refine calls_bind ((calls_ask _).mpr begins) fun _ => calls_bind ((calls_ask _).mpr reads)
    fun sessao => ?_
  have item (x : ItemCarrinho) : (registrarItem c r x).Calls P :=
    calls_bind ((calls_ask _).mpr reads) fun _ => (calls_ask _).mpr (sells _)
  cases sessao.carrinho with
  | none => exact calls_fail _
  | some carrinho =>
    exact calls_bind (calls_each item _) fun _ => calls_bind (calls_each item _) fun _ =>
      calls_salvarComprovante reads lists stores _

/-- A transaction that reaches its commit has registered every line. -/
theorem meets_ateOCommit (s : Sessao) (feitas : List Chamada) :
    Meets (caixa c r False) (ateOCommit c r) (fun answer v => answer = .ok () →
      ∃ itens, s.carrinho = some itens ∧ v.2 = feitas ++ (emOrdem itens).map s.chamada)
      (some s, feitas) := by
  rw [ateOCommit, meets_bind]
  refine (meets_ask ..).mpr ⟨trivial, fun answer v post => ?_⟩
  obtain ⟨rfl, -⟩ := post
  cases answer with
  | error e => exact fun done => by cases done
  | ok _ =>
    rw [then_ok, meets_bind]
    refine (meets_ask ..).mpr ⟨⟨rfl, rfl⟩, fun answer v post => ?_⟩
    obtain ⟨rfl, seen⟩ := post
    rw [seen s rfl, then_ok]
    cases cart : s.carrinho with
    | none => exact fun done => by cases done
    | some itens =>
      refine (meets_bind ..).mpr (meets_mono (registrou_itens _ _ rfl) ?_)
      rintro answer ⟨_, _⟩ ⟨rfl, normais, rfl, -, whole, -⟩
      cases answer with
      | error e => exact fun done => by cases done
      | ok _ =>
        rw [whole rfl]
        refine (meets_bind ..).mpr (meets_mono (registrou_itens _ _ rfl) ?_)
        rintro answer ⟨_, _⟩ ⟨rfl, combos, rfl, -, whole, -⟩
        cases answer with
        | error e => exact fun done => by cases done
        | ok _ =>
          rw [whole rfl]
          have sold : Registrou True feitas ((emOrdem itens).map s.chamada) (some s,
              feitas ++ (itens.filter fun item => !item.isCombo).map s.chamada ++
                (itens.filter ItemCarrinho.isCombo).map s.chamada) := by
            refine ⟨(emOrdem itens).map s.chamada, ?_, List.prefix_rfl, fun _ => rfl⟩
            rw [emOrdem, List.map_append, List.append_assoc]
          refine meets_mono (registrou_parado (parado_comprovante _) sold) ?_
          rintro answer v ⟨novas, made, -, all⟩ -
          exact ⟨itens, rfl, all trivial ▸ made⟩

/-- The report of an error changes nothing. -/
theorem relatarErro_run (erro : String) (m : Mundo) :
    let depois := ((relatarErro c erro).run Ato.exec m).2.conversas c
    depois.objetos = (m.conversas c).objetos ∧
      depois.confirmadas r = (m.conversas c).confirmadas r ∧
      depois.registradas = (m.conversas c).registradas := by
  have calls {P : Ato → Prop} (rollback : P .rollbackVenda) (answer : P (.answerCallbackQuery c))
      (sends : ∀ texto, P (.sendMessage c texto [])) : (relatarErro c erro).Calls P :=
    calls_bind ((calls_ask _).mpr rollback) fun _ => calls_aviso sends answer _
  exact ⟨objetos_run (calls rfl rfl fun _ => rfl) m,
    confirmadas_run (calls trivial trivial fun _ => trivial) m,
    registradas_run (calls trivial trivial fun _ => trivial) m⟩

theorem ateOCommit_run (m : Mundo) :
    let depois := ((ateOCommit c r).run Ato.exec m).2.conversas c
    let s := (m.conversas c).objetos r
    depois.objetos = (m.conversas c).objetos ∧
      depois.confirmadas r = (m.conversas c).confirmadas r ∧
      (((ateOCommit c r).run Ato.exec m).1 = .ok () → ∃ itens, s.carrinho = some itens ∧
        depois.registradas = (m.conversas c).registradas ++ (emOrdem itens).map s.chamada) := by
  have start : NaCaixa c r False m
      (some ((m.conversas c).objetos r), (m.conversas c).registradas) :=
    ⟨rfl, fun s found => Option.some.inj found, fun calm => calm.elim⟩
  obtain ⟨v, sold, seen⟩ := meets_run _ (fun _ _ _ => naCaixa_exec)
    (meets_ateOCommit ((m.conversas c).objetos r) (m.conversas c).registradas) start
  refine ⟨objetos_run (calls_ateOCommit rfl rfl (fun _ => rfl) (fun _ _ => rfl) fun _ _ => rfl) m,
    confirmadas_run (calls_ateOCommit trivial trivial (fun _ => trivial) (fun _ _ => trivial)
      fun _ _ => trivial) m, fun done => ?_⟩
  obtain ⟨itens, cart, made⟩ := sold done
  exact ⟨itens, cart, seen.registradas.trans made⟩

end Partes

section Relato

variable {c : Chat} {r : Nat} {m m1 : Mundo}

/-- A commit that would make the report false. -/
def Perigo (c : Chat) (r : Nat) (o : Ato) (m : Mundo) : Prop :=
  o = .commitVenda c r ∧ ¬ CommitSeguro c r m

def Ato.visivel : Ato → Bool
  | .sendMessage .. | .commitVenda .. => true
  | _ => false

def Visivel (P : Ato → Mundo → Prop) : Prop := ∀ o w, P o w → o.visivel = true

theorem visivel_mostra {inicio : String} : Visivel (Mostra c inicio) := by
  rintro _ _ ⟨texto, teclado, rfl, -⟩
  rfl

theorem visivel_perigo : Visivel (Perigo c r) := by
  rintro _ _ ⟨rfl, -⟩
  rfl

theorem Visivel.fora {P : Ato → Mundo → Prop} (only : Visivel P) {o : Ato}
    (quiet : o.visivel = false) (w : Mundo) : ¬ P o w := by
  intro holds
  rw [only o w holds] at quiet
  cases quiet

/-- Before the commit nothing is told. -/
theorem not_ocorre_ateOCommit {P : Ato → Mundo → Prop}
    (only : Visivel P) (m : Mundo) : ¬ Ocorre P (ateOCommit c r) m := by
  have quiet : (ateOCommit c r).Calls fun o => o.visivel = false :=
    calls_ateOCommit rfl rfl (fun _ => rfl) (fun _ _ => rfl) fun _ _ => rfl
  exact ocorre_calls (calls_mono (fun _ hidden => only.fora hidden) quiet) m

theorem not_perigo_relatarErro (erro : String) (m : Mundo) :
    ¬ Ocorre (Perigo c r) (relatarErro c erro) m := by
  rw [ocorre_relatarErro erro m (fun w risky => by cases risky.1)
    fun w risky => by cases risky.1]
  rintro ⟨-, -, same, -⟩
  cases same

theorem vendidas_igual {antes k k' : Conversa} (commits : k'.confirmadas r = k.confirmadas r)
    (calls : k'.registradas = k.registradas) : antes.vendidas r k' = antes.vendidas r k := by
  rw [Conversa.vendidas, Conversa.vendidas, commits, calls]

theorem intacta_relatarErro {antes : Conversa} (erro : String) (m1 : Mundo) :
    Intacta r antes (((relatarErro c erro).run Ato.exec m1).2.conversas c) ↔
      Intacta r antes (m1.conversas c) := by
  obtain ⟨same, commits, calls⟩ := relatarErro_run (c := c) (r := r) erro m1
  have sold : antes.vendidas r (((relatarErro c erro).run Ato.exec m1).2.conversas c) =
      antes.vendidas r (m1.conversas c) := vendidas_igual commits calls
  constructor
  · intro untouched
    exact ⟨sold ▸ untouched.vendidas, same ▸ untouched.carrinho, same ▸ untouched.metodo,
      same ▸ untouched.comprovante, same ▸ untouched.numero⟩
  · intro untouched
    exact ⟨sold.trans untouched.vendidas, same.symm ▸ untouched.carrinho,
      same.symm ▸ untouched.metodo, same.symm ▸ untouched.comprovante,
      same.symm ▸ untouched.numero⟩

/-- The report of a `try` that failed is true if and only if nothing came of it. -/
theorem relata_erro {f : Fluxo Unit} {erro : String} (run : f.run Ato.exec m = (.error erro, m1))
    (quiet : ∀ inicio, ¬ Ocorre (Mostra c inicio) f m) :
    Relata c r (f.handle (relatarErro c)) m ↔
      (m1.Reporta → Intacta r (m.conversas c) (m1.conversas c)) := by
  have told (inicio : String) : Ocorre (Mostra c inicio) (f.handle (relatarErro c)) m ↔
      Ocorre (Mostra c inicio) (relatarErro c erro) m1 := by
    rw [(ocorre_handle_error run).2]
    simp only [quiet, false_or]
  have final := (ocorre_handle_error (P := fun _ _ => True) (h := relatarErro c) run).1
  constructor
  · intro honest reported
    apply (intacta_relatarErro erro m1).mp
    rw [← final]
    exact honest.erro ((told _).mpr ((mostra_relatarErro erro m1).mpr reported))
  · intro untouched
    refine ⟨fun shown => ?_, fun shown => ?_⟩
    · rw [final]
      apply (intacta_relatarErro erro m1).mpr
      exact untouched ((mostra_relatarErro erro m1).mp ((told _).mp shown))
    · exact absurd ((told _).mp shown) (not_mostra_sucesso erro m1)

theorem intacta_objetos {antes depois : Conversa} (objects : depois.objetos = antes.objetos)
    (sold : antes.vendidas r depois = []) : Intacta r antes depois :=
  ⟨sold, by rw [objects], by rw [objects], by rw [objects], by rw [objects]⟩

/-- The `try` with its `catch`. -/
abbrev corpoDaConfirmacao (c : Chat) (r : Nat) : Fluxo Unit :=
  (registrarCarrinho c r).handle (relatarErro c)

theorem relata_antes {erro : String} (run : (ateOCommit c r).run Ato.exec m = (.error erro, m1)) :
    Relata c r (corpoDaConfirmacao c r) m ∧ ¬ Ocorre (Perigo c r) (corpoDaConfirmacao c r) m := by
  obtain ⟨objects, commits, -⟩ := ateOCommit_run (c := c) (r := r) m
  rw [run] at objects commits
  have reg : (registrarCarrinho c r).run Ato.exec m = (.error erro, m1) := by
    rw [registrarCarrinho_eq]
    exact (ocorre_bind_error (P := fun _ _ => True) run).1
  have quiet {P : Ato → Mundo → Prop} (only : Visivel P) :
      ¬ Ocorre P (registrarCarrinho c r) m := by
    rw [registrarCarrinho_eq, (ocorre_bind_error run).2]
    exact not_ocorre_ateOCommit only m
  constructor
  · apply (relata_erro reg fun _ => quiet visivel_mostra).mpr
    intro _
    exact intacta_objetos objects (by rw [Conversa.vendidas, if_pos commits])
  · rw [(ocorre_handle_error reg).2]
    rintro (before | report)
    · exact quiet visivel_perigo before
    · exact not_perigo_relatarErro erro m1 report

def confirmado (c : Chat) (r : Nat) (m : Mundo) : Mundo := m.conversa c (·.anota [.confirmou r])

def limpo (c : Chat) (r : Nat) (m : Mundo) : Mundo :=
  m.conversa c (·.atribui r (limparVenda ++ [.lastUpdated m.db.agora]))

theorem vendidas_confirmado {antes : Conversa} {novas : List Chamada}
    (commits : (m1.conversas c).confirmadas r = antes.confirmadas r)
    (calls : (m1.conversas c).registradas = antes.registradas ++ novas) :
    antes.vendidas r ((confirmado c r m1).conversas c) = novas := by
  have more : ((confirmado c r m1).conversas c).confirmadas r = antes.confirmadas r + 1 := by
    rw [← commits, confirmado, Mundo.conversas_conversa, Conversa.confirmadas,
      Conversa.historia_anota, List.singleton_append, List.count_cons_self]
    rfl
  have same : ((confirmado c r m1).conversas c).registradas = (m1.conversas c).registradas := by
    rw [confirmado, Mundo.conversas_conversa]
    rfl
  rw [Conversa.vendidas, if_neg (by omega), same, calls, List.drop_left]

theorem fimDaVenda_limpa {P : Ato → Mundo → Prop} (only : Visivel P)
    (w : Mundo) :
    let avisos : Fluxo Unit := do
      faz (.answerCallbackQuery c)
      enviarVenda c "✅ *Venda finalizada com sucesso! Pedido registrado.*"
      showInitialMenu c r
    (fimDaVenda c r).run Ato.exec w = avisos.run Ato.exec (limpo c r w) ∧
      (Ocorre P (fimDaVenda c r) w ↔ Ocorre P avisos (limpo c r w)) := by
  intro avisos
  have clock : Ato.exec .dateNow w = (.ok w.db.agora, w) := Ato.exec_infalivel rfl w
  have assigned : Ato.exec (.atribuir c r (limparVenda ++ [.lastUpdated w.db.agora])) w =
      (.ok (), limpo c r w) := Ato.exec_infalivel rfl w
  have first := faz_ok (P := P) clock
    (fun agora => faz (.atribuir c r (limparVenda ++ [.lastUpdated agora])) >>= fun _ => avisos)
  have second := faz_ok (P := P) assigned fun _ => avisos
  have whole : fimDaVenda c r = faz .dateNow >>= fun agora =>
      faz (.atribuir c r (limparVenda ++ [.lastUpdated agora])) >>= fun _ => avisos := by
    rw [fimDaVenda, atualizar, bind_assoc]
  constructor
  · rw [whole, first.1, second.1]
  · rw [whole, first.2, second.2]
    simp [only.fora (o := .dateNow) rfl, only.fora (o := .atribuir c r _) rfl]

/-- A message of the sector never fails its caller. -/
theorem enviarVenda_volta (mensagem : String) (m : Mundo) :
    ∃ m', (enviarVenda c mensagem).run Ato.exec m = (.ok (), m') := handle_volta _ m

theorem showInitialMenu_volta (m : Mundo) :
    ∃ m', (showInitialMenu c r).run Ato.exec m = (.ok (), m') := by
  have read : Ato.exec (.ler c r) m = (.ok ((m.conversas c).objetos r), m) :=
    Ato.exec_infalivel rfl m
  rw [showInitialMenu, (faz_ok (P := fun _ _ => True) read _).1]
  exact enviarVenda_volta _ m

/-- If the button is answered, then no later call fails the `try`. -/
theorem fimDaVenda_calmo {w : Mundo} (calm : w.falha = .nenhuma) :
    ((fimDaVenda c r).run Ato.exec w).1 = .ok () ∧
      ¬ Ocorre (Mostra c inicioDoErro) (fimDaVenda c r) w := by
  have answer : Ato.exec (.answerCallbackQuery c) (limpo c r w) =
      (.ok (), (limpo c r w).seguida) := exec_nenhuma rfl calm
  obtain ⟨run, occurs⟩ := fimDaVenda_limpa (c := c) (r := r)
    (P := Mostra c inicioDoErro) visivel_mostra w
  obtain ⟨sent, told⟩ := faz_ok (P := Mostra c inicioDoErro) answer fun _ => do
    enviarVenda c "✅ *Venda finalizada com sucesso! Pedido registrado.*"
    showInitialMenu c r
  obtain ⟨w1, success⟩ := enviarVenda_volta (c := c)
    "✅ *Venda finalizada com sucesso! Pedido registrado.*" (limpo c r w).seguida
  obtain ⟨w2, menu⟩ := showInitialMenu_volta (c := c) (r := r) w1
  obtain ⟨next, shown⟩ := ocorre_bind_ok (P := Mostra c inicioDoErro)
    (g := fun _ => showInitialMenu c r) success
  constructor
  · rw [run, sent, next, menu]
  · rw [occurs, told, shown, ocorre_enviarVenda]
    rintro (button | success | menu)
    · obtain ⟨_, _, same, -⟩ := button
      cases same
    · exact not_mostra (by decide +kernel) (by decide +kernel) success
    · exact not_mostra_menu (by decide +kernel) (by decide +kernel) w1 menu

/-- Otherwise the `catch` finds the session emptied. -/
theorem fimDaVenda_falha {w : Mundo} (rough : w.falha ≠ .nenhuma) :
    ∃ erro, (fimDaVenda c r).run Ato.exec w = (.error erro, (limpo c r w).seguida) ∧
      ∀ {P : Ato → Mundo → Prop}, Visivel P →
        ¬ Ocorre P (fimDaVenda c r) w := by
  rcases exec_mudo (mudo_answer (c := c)) (limpo c r w) with ⟨calm, -⟩ | ⟨-, erro, answer⟩
  · exact absurd calm rough
  · let avisos : Unit → Fluxo Unit := fun _ => do
      enviarVenda c "✅ *Venda finalizada com sucesso! Pedido registrado.*"
      showInitialMenu c r
    have stopped {P : Ato → Mundo → Prop} := faz_error (P := P) answer avisos
    have emptied {P : Ato → Mundo → Prop} (only : Visivel P) :=
      fimDaVenda_limpa (c := c) (r := r) only w
    have run := (emptied (P := fun _ _ => False) fun _ _ none => none.elim).1
    refine ⟨erro, run.trans (stopped (P := fun _ _ => False)).1, fun only shown => ?_⟩
    have button := stopped.2.mp ((emptied only).2.mp shown)
    cases only _ _ button

theorem calls_fimDaVenda {P : Ato → Prop} (clock : P .dateNow)
    (assigns : ∀ campos, P (.atribuir c r campos)) (reads : P (.ler c r))
    (answers : P (.answerCallbackQuery c)) (sends : ∀ texto, P (.sendMessage c texto [])) :
    (fimDaVenda c r).Calls P := by
  refine calls_bind ?_ fun _ => ?_
  · exact calls_bind ((calls_ask _).mpr clock) fun _ => (calls_ask _).mpr (assigns _)
  · refine calls_bind ((calls_ask _).mpr answers) fun _ => ?_
    refine calls_bind (calls_enviarVenda sends _) fun _ => ?_
    exact calls_bind ((calls_ask _).mpr reads) fun _ => calls_enviarVenda sends _

theorem not_perigo_fimDaVenda (w : Mundo) : ¬ Ocorre (Perigo c r) (fimDaVenda c r) w := by
  have calls : (fimDaVenda c r).Calls Ato.SemCommit :=
    calls_fimDaVenda trivial (fun _ => trivial) trivial trivial fun _ => trivial
  apply ocorre_calls (calls_mono (fun o other w risky => ?_) calls)
  rw [risky.1] at other
  exact other

theorem fimDaVenda_run (w : Mundo) :
    let depois := ((fimDaVenda c r).run Ato.exec w).2.conversas c
    depois.confirmadas r = (w.conversas c).confirmadas r ∧
      depois.registradas = (w.conversas c).registradas :=
  ⟨confirmadas_run
      (calls_fimDaVenda trivial (fun _ => trivial) trivial trivial fun _ => trivial) w,
    registradas_run
      (calls_fimDaVenda trivial (fun _ => trivial) trivial trivial fun _ => trivial) w⟩

/-- The emptied session cannot be confirmed again. -/
theorem not_intacta_limpo {antes : Conversa} (w : Mundo)
    (number : (antes.objetos r).numeroCliente ≠ none) :
    ¬ Intacta r antes ((limpo c r w).conversas c) := by
  intro untouched
  have gone : (((limpo c r w).conversas c).objetos r).numeroCliente = none := by
    rw [limpo, Mundo.conversas_conversa, Conversa.objetos_atribui]
    rfl
  exact number (untouched.numero ▸ gone)

theorem emOrdem_eq_nil {itens : List ItemCarrinho} (empty : emOrdem itens = []) : itens = [] := by
  obtain ⟨noItem, noCombo⟩ := List.append_eq_nil_iff.mp empty
  apply List.eq_nil_iff_forall_not_mem.mpr
  intro item member
  cases kind : item.isCombo with
  | true =>
    have listed := List.mem_filter.mpr ⟨member, kind⟩
    simp [noCombo] at listed
  | false =>
    have listed : item ∈ itens.filter fun item => !item.isCombo :=
      List.mem_filter.mpr ⟨member, by rw [kind]; rfl⟩
    simp [noItem] at listed

/-- A transaction that stands at its commit with every line registered. -/
structure NoCommit (c : Chat) (r : Nat) (m m1 : Mundo) (itens : List ItemCarrinho) : Prop where
  run : (ateOCommit c r).run Ato.exec m = (.ok (), m1)
  carrinho : ((m.conversas c).objetos r).carrinho = some itens
  objetos : (m1.conversas c).objetos = (m.conversas c).objetos
  confirmadas : (m1.conversas c).confirmadas r = (m.conversas c).confirmadas r
  registradas : (m1.conversas c).registradas = (m.conversas c).registradas ++
    (emOrdem itens).map ((m.conversas c).objetos r).chamada

theorem noCommit_of (run : (ateOCommit c r).run Ato.exec m = (.ok (), m1)) :
    ∃ itens, NoCommit c r m m1 itens := by
  obtain ⟨objects, commits, sold⟩ := ateOCommit_run (c := c) (r := r) m
  rw [run] at objects commits sold
  obtain ⟨itens, cart, calls⟩ := sold rfl
  exact ⟨itens, run, cart, objects, commits, calls⟩

theorem not_mostra_commit {inicio : String} {w : Mundo} :
    ¬ Mostra c inicio (.commitVenda c r) w := by
  rintro ⟨_, _, same, -⟩
  cases same

namespace NoCommit

variable {itens : List ItemCarrinho}

/-- What is left is the commit and what follows it. -/
theorem resto (h : NoCommit c r m m1 itens) :
    (registrarCarrinho c r).run Ato.exec m =
        (faz (.commitVenda c r) >>= fun _ => fimDaVenda c r).run Ato.exec m1 ∧
      ∀ inicio, Ocorre (Mostra c inicio) (registrarCarrinho c r) m ↔
        Ocorre (Mostra c inicio) (faz (.commitVenda c r) >>= fun _ => fimDaVenda c r) m1 := by
  constructor
  · rw [registrarCarrinho_eq]
    exact (ocorre_bind_ok (P := fun _ _ => True) h.run).1
  · intro inicio
    rw [registrarCarrinho_eq, (ocorre_bind_ok h.run).2]
    simp only [not_ocorre_ateOCommit visivel_mostra, false_or]

theorem vendidas (h : NoCommit c r m m1 itens) :
    (m.conversas c).vendidas r ((confirmado c r m1.seguida).conversas c) =
      (emOrdem itens).map ((m.conversas c).objetos r).chamada :=
  vendidas_confirmado h.confirmadas h.registradas

theorem erro (h : NoCommit c r m m1 itens) {erro : String} {w : Mundo}
    (answer : Ato.exec (.commitVenda c r) m1 = (.error erro, w)) :
    Relata c r (corpoDaConfirmacao c r) m ↔
      (w.Reporta → Intacta r (m.conversas c) (w.conversas c)) := by
  have failed := (faz_error (P := fun _ _ => True) answer fun _ => fimDaVenda c r).1
  apply relata_erro (h.resto.1.trans failed)
  intro inicio
  rw [h.resto.2, (faz_error answer _).2]
  exact not_mostra_commit

/-- A commit whose answer was lost has changed nothing only if there was nothing to sell. -/
theorem intacta_perdida (h : NoCommit c r m m1 itens) :
    Intacta r (m.conversas c) ((confirmado c r m1.seguida).conversas c) ↔ itens = [] := by
  have sold := h.vendidas
  constructor
  · intro untouched
    rw [untouched.vendidas] at sold
    exact emOrdem_eq_nil (List.map_eq_nil_iff.mp sold.symm)
  · rintro rfl
    have same : ((confirmado c r m1.seguida).conversas c).objetos = (m.conversas c).objetos := by
      rw [confirmado, Mundo.conversas_conversa]
      exact h.objetos
    exact intacta_objetos same sold

/-- A commit that is answered, and what follows it. -/
theorem confirmada (h : NoCommit c r m m1 itens) (met : m1.falha = .nenhuma) :
    (registrarCarrinho c r).run Ato.exec m =
        (fimDaVenda c r).run Ato.exec (confirmado c r m1.seguida) ∧
      ∀ inicio, Ocorre (Mostra c inicio) (registrarCarrinho c r) m ↔
        Ocorre (Mostra c inicio) (fimDaVenda c r) (confirmado c r m1.seguida) := by
  have done : Ato.exec (.commitVenda c r) m1 = (.ok (), confirmado c r m1.seguida) :=
    exec_nenhuma rfl met
  have next := (faz_ok (P := fun _ _ => True) done fun _ => fimDaVenda c r).1
  refine ⟨h.resto.1.trans next, fun inicio => ?_⟩
  rw [h.resto.2, (faz_ok done _).2]
  simp only [not_mostra_commit, false_or]

/-- The button is answered: the success is told, and it is true. -/
theorem calmo (h : NoCommit c r m m1 itens) (met : m1.falha = .nenhuma)
    (calm : m1.seguida.falha = .nenhuma) : Relata c r (corpoDaConfirmacao c r) m := by
  obtain ⟨run, told⟩ := h.confirmada met
  obtain ⟨ok, noError⟩ := fimDaVenda_calmo (c := c) (r := r)
    (w := confirmado c r m1.seguida) calm
  have whole : (registrarCarrinho c r).run Ato.exec m =
      (.ok (), ((fimDaVenda c r).run Ato.exec (confirmado c r m1.seguida)).2) := by
    rw [run, ← ok]
  refine ⟨fun wrong => ?_, fun _ => ?_⟩
  · rw [(ocorre_handle_ok whole).2, told] at wrong
    exact absurd wrong noError
  · rw [(ocorre_handle_ok (P := fun _ _ => True) whole).1]
    obtain ⟨commits, calls⟩ := fimDaVenda_run (c := c) (r := r) (confirmado c r m1.seguida)
    exact ⟨itens, h.carrinho, (vendidas_igual commits calls).trans h.vendidas⟩

/-- It is not: the error is told of a sale that was made. -/
theorem rompido (h : NoCommit c r m m1 itens) (met : m1.falha = .nenhuma)
    (rough : m1.seguida.falha ≠ .nenhuma)
    (number : ((m.conversas c).objetos r).numeroCliente ≠ none) :
    Relata c r (corpoDaConfirmacao c r) m ↔ ¬ m1.seguida.seguida.Reporta := by
  obtain ⟨run, told⟩ := h.confirmada met
  obtain ⟨erro, failed, quiet⟩ := fimDaVenda_falha (c := c) (r := r)
    (w := confirmado c r m1.seguida) rough
  have changed : ¬ Intacta r (m.conversas c)
      ((limpo c r (confirmado c r m1.seguida)).seguida.conversas c) :=
    not_intacta_limpo _ number
  rw [relata_erro (run.trans failed) fun inicio => by
    rw [told]
    exact quiet visivel_mostra]
  simp only [changed]
  rfl

end NoCommit

/-- A transaction that reaches its commit: what the commit meets decides. -/
theorem relata_depois (number : ((m.conversas c).objetos r).numeroCliente ≠ none)
    (run : (ateOCommit c r).run Ato.exec m = (.ok (), m1)) :
    Relata c r (corpoDaConfirmacao c r) m ↔ CommitSeguro c r m1 := by
  obtain ⟨itens, h⟩ := noCommit_of run
  cases met : m1.falha with
  | rejeitada erro =>
    have untouched : Intacta r (m.conversas c) (m1.seguida.conversas c) :=
      intacta_objetos h.objetos (by rw [Conversa.vendidas]; exact if_pos h.confirmadas)
    rw [h.erro (exec_rejeitada rfl met)]
    simp only [CommitSeguro, met, untouched, implies_true]
  | perdida =>
    have here : ((m1.conversas c).objetos r).carrinho = some itens := by
      rw [h.objetos, h.carrinho]
    rw [h.erro (w := confirmado c r m1.seguida) (exec_perdida rfl met), h.intacta_perdida]
    simp only [CommitSeguro, met, here, Option.getD_some]
    rw [imp_iff_or_not]
    rfl
  | nenhuma =>
    by_cases calm : m1.seguida.falha = .nenhuma
    · simp only [h.calmo met calm, CommitSeguro, met, calm, true_or]
    · rw [h.rompido met calm number]
      simp only [CommitSeguro, met, calm, false_or]

theorem perigo_depois (run : (ateOCommit c r).run Ato.exec m = (.ok (), m1)) :
    Ocorre (Perigo c r) (corpoDaConfirmacao c r) m ↔ ¬ CommitSeguro c r m1 := by
  rw [ocorre_handle, registrarCarrinho_eq, (ocorre_bind_ok run).2, ocorre_bind, ocorre_faz]
  constructor
  · rintro ((before | ⟨-, unsafe_⟩ | ⟨_, w, -, after⟩) | ⟨erro, w, -, report⟩)
    · exact absurd before (not_ocorre_ateOCommit visivel_perigo m)
    · exact unsafe_
    · exact absurd after (not_perigo_fimDaVenda w)
    · exact absurd report (not_perigo_relatarErro erro w)
  · intro risky
    exact .inl (.inr (.inl ⟨rfl, risky⟩))

theorem relata_corpo (number : ((m.conversas c).objetos r).numeroCliente ≠ none) :
    Relata c r (corpoDaConfirmacao c r) m ↔
      ¬ Ocorre (Perigo c r) (corpoDaConfirmacao c r) m := by
  rcases run : (ateOCommit c r).run Ato.exec m with ⟨answer, m1⟩
  cases answer with
  | error erro =>
    obtain ⟨honest, safe⟩ := relata_antes run
    exact iff_of_true honest safe
  | ok _ => rw [relata_depois number run, perigo_depois run, not_not]

/-- What the report is about is told by the rest of a program that has told nothing yet. -/
theorem relata_resto {f g : Fluxo Unit} (run : f.run Ato.exec m = g.run Ato.exec m1)
    (told : ∀ {P : Ato → Mundo → Prop}, Visivel P →
      (Ocorre P f m ↔ Ocorre P g m1)) (same : m1.conversas = m.conversas)
    (rest : Relata c r g m1 ↔ ¬ Ocorre (Perigo c r) g m1) :
    Relata c r f m ↔ ¬ Ocorre (Perigo c r) f m := by
  have shown (inicio : String) := told (P := Mostra c inicio) visivel_mostra
  rw [told visivel_perigo, ← rest]
  constructor
  · intro honest
    refine ⟨fun erro => ?_, fun sucesso => ?_⟩
    · have untouched := honest.erro ((shown _).mpr erro)
      rwa [run, ← same] at untouched
    · have sold := honest.sucesso ((shown _).mpr sucesso)
      rwa [run, ← same] at sold
  · intro honest
    refine ⟨fun erro => ?_, fun sucesso => ?_⟩
    · rw [run, ← same]
      exact honest.erro ((shown _).mp erro)
    · rw [run, ← same]
      exact honest.sucesso ((shown _).mp sucesso)

/-- Nothing is told before the client is known. -/
theorem not_mostra_aviso {inicio : String} (w : Mundo)
    (apart : ¬ inicio.toList <+:
      "⚠️ *Por favor, envie o número do cliente antes de confirmar.*".toList) :
    ¬ Ocorre (Mostra c inicio) (do
      faz (.answerCallbackQuery c)
      enviarVenda c "⚠️ *Por favor, envie o número do cliente antes de confirmar.*") w := by
  rw [ocorre_mudo mudo_answer, ocorre_enviarVenda]
  rintro (⟨_, _, same, -⟩ | ⟨-, _, _, same, begins, -⟩)
  · cases same
  · cases same
    exact apart begins

/-- The seller is told the truth if and only if the commit, when it is called, is rejected, or
loses its answer with nothing to sell, or is followed by an answer to the button, or else the
report of the error fails as well. -/
theorem relata_iff (c : Chat) (r : Nat) (m : Mundo) :
    Relata c r (confirmarPedido c r) m ↔ ∀ m',
      (Ato.commitVenda c r, m') ∈ (confirmarPedido c r).trace Ato.exec m → CommitSeguro c r m' := by
  have risky : (∀ m', (Ato.commitVenda c r, m') ∈ (confirmarPedido c r).trace Ato.exec m →
      CommitSeguro c r m') ↔ ¬ Ocorre (Perigo c r) (confirmarPedido c r) m := by
    simp only [Ocorre, Perigo, Prod.exists, not_exists, not_and, not_not]
    constructor
    · rintro safe _ m' member rfl
      exact safe m' member
    · intro safe m' member
      exact safe _ m' member rfl
  rw [risky]
  have read : Ato.exec (.ler c r) m = (.ok ((m.conversas c).objetos r), m) :=
    Ato.exec_infalivel rfl m
  refine relata_resto (faz_ok (P := fun _ _ => True) read _).1 (fun only => ?_) rfl ?_
  · rw [confirmarPedido, (faz_ok read _).2]
    simp only [only.fora (o := .ler c r) rfl, false_or]
  by_cases number : ((m.conversas c).objetos r).numeroCliente.getD [] = []
  · rw [if_pos number]
    have calls : Calls Ato.SemCommit (do
        faz (.answerCallbackQuery c)
        enviarVenda c "⚠️ *Por favor, envie o número do cliente antes de confirmar.*") :=
      calls_aviso (fun _ => trivial) trivial _
    refine iff_of_true ⟨fun erro => ?_, fun sucesso => ?_⟩ (ocorre_calls (calls_mono ?_ calls) m)
    · exact absurd erro (not_mostra_aviso m (by decide +kernel))
    · exact absurd sucesso (not_mostra_aviso m (by decide +kernel))
    · intro o other w danger
      rw [danger.1] at other
      exact other
  · rw [if_neg number]
    rcases exec_mudo mudo_getConnection m with ⟨-, answer⟩ | ⟨-, erro, answer⟩
    · refine relata_resto (faz_ok (P := fun _ _ => True) answer _).1 (fun only => ?_) rfl
        (relata_corpo (m := m.seguida) ?_)
      · rw [(faz_ok answer _).2]
        simp only [only.fora (o := .getConnection) rfl, false_or]
      · intro none
        apply number
        have same : ((m.conversas c).objetos r).numeroCliente = .none := none
        rw [same]
        rfl
    · have stopped {P : Ato → Mundo → Prop} (only : Visivel P) :
          ¬ Ocorre P (faz .getConnection >>= fun _ => corpoDaConfirmacao c r) m := by
        rw [(faz_error answer _).2]
        exact only.fora rfl m
      exact iff_of_true ⟨fun erro => absurd erro (stopped visivel_mostra),
        fun sucesso => absurd sucesso (stopped visivel_mostra)⟩ (stopped visivel_perigo)

/-- One kiwi, ready to be confirmed; the first answer to the button after the commit fails. -/
def vendaDeKiwi : Mundo where
  conversas _ :=
    { sessao := some 0
      objetos _ :=
        { carrinho := some [⟨some 1, "Kiwi".toList, "1 un".toList, 5, 5⟩]
          numeroCliente := some "5511999999999".toList
          metodoPagamento := some .pix } }
  falhas := [.nenhuma, .nenhuma, .nenhuma, .nenhuma, .rejeitada "EFATAL: socket hang up"]

theorem erro_depois_da_venda : ¬ Relata 0 0 (confirmarPedido 0 0) vendaDeKiwi := by
  intro honest
  have shown : Ocorre (Mostra 0 inicioDoErro) (confirmarPedido 0 0) vendaDeKiwi := by
    decide +kernel
  have untouched := (honest.erro shown).carrinho
  have emptied : ((((confirmarPedido 0 0).run Ato.exec vendaDeKiwi).2.conversas 0).objetos
      0).carrinho = some [] := by
    decide +kernel
  rw [emptied] at untouched
  exact absurd untouched (by decide +kernel)

end Relato
end IceClube
