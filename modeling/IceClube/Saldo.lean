import Mathlib.Tactic.Linarith
import IceClube.Almoxarifado

/-! The quantities in stock over a run of the stock routes: when none of them ever becomes
negative, and when every movement is still in them. -/
namespace IceClube

open Coop

section Passo

/-- What a call adds to the quantity of a product as a movement. -/
def OpEstoque.acrescimo (db : Db) (id : Nat) : OpEstoque → ℚ
  | .rota (.sql (.somaEstoque quantidade i)) => if id = i then quantidade else 0
  | .rota (.tx (.lancamento corpo)) =>
    match naoZero corpo.pedidoId with
    | some pedidoId => somaItens (db.itensDe pedidoId) id
    | none => 0
  | _ => 0

def OpEstoque.resultado (db : Db) (id : Nat) (quantidade : ℚ) : OpEstoque → ℚ
  | .tela (.updateItem i nova _) => if id = i then nova else quantidade
  | o => quantidade + o.acrescimo db id

def Db.saldo (db : Db) (id : Nat) : Option ℚ := (db.estoque.get id).map (·.quantidade)

variable {c : Almoxarifado} {a : PassoEstoque}

theorem saldo_modify (t : Table Estoque) (id i : Nat) {f : Estoque → Estoque} {g : ℚ → ℚ}
    (quantity : ∀ e, (f e).quantidade = g e.quantidade) :
    ((t.modify i f).get id).map (·.quantidade) =
      ((t.get id).map (·.quantidade)).map fun x => if id = i then g x else x := by
  rw [Table.get_modify]
  split <;> simp [Function.comp_def, quantity]

theorem mais_zero (saldo : Option ℚ) : saldo = saldo.map (· + 0) := by simp

theorem saldo_lancamento (corpo : CorpoLancamento) (db : Db) (id : Nat) :
    (db.comLancamento corpo).saldo id =
      (db.saldo id).map (· + (OpEstoque.rota (.tx (.lancamento corpo))).acrescimo db id) := by
  simp only [Db.saldo, Db.comLancamento, OpEstoque.acrescimo]
  cases naoZero corpo.pedidoId with
  | none => exact mais_zero _
  | some pedidoId =>
    simp only [estoque_devolvido, Option.map_map]
    rfl

/-- The other transactions leave the stock alone. -/
theorem estoque_tx {t : Tx} {db db' : Db} (written : t.Grava db db')
    (other : ∀ corpo, t ≠ .lancamento corpo) : db'.estoque = db.estoque := by
  cases t with
  | valido corpo =>
    rw [show db' = _ from written]
    rfl
  | lancamento corpo => exact absurd rfl (other corpo)
  | pedidoManual corpo =>
    obtain ⟨total, rfl⟩ := written
    exact estoque_comPedido corpo total db

theorem saldo_tx {t : Tx} {w : Faulty Db} (success : (t.executar w).1.status = 200) (id : Nat) :
    (t.executar w).2.state.saldo id =
      (w.state.saldo id).map (· + (OpEstoque.rota (.tx t)).acrescimo w.state id) := by
  have written := (Tx.executar_confirma ((Tx.status_executar t w).mp success)).2
  cases t with
  | lancamento corpo =>
    rw [show (Tx.executar (.lancamento corpo) w).2.state = _ from written]
    exact saldo_lancamento corpo w.state id
  | valido corpo =>
    rw [Db.saldo, estoque_tx written nofun]
    exact mais_zero _
  | pedidoManual corpo =>
    rw [Db.saldo, estoque_tx written nofun]
    exact mais_zero _

theorem saldo_sql (q : Sql) (db : Db) (id : Nat) :
    (q.sem db).2.saldo id =
      (db.saldo id).map (· + (OpEstoque.rota (.sql q)).acrescimo db id) := by
  cases q with
  | somaEstoque quantidade i =>
    refine (saldo_modify db.estoque id i (g := (· + quantidade)) fun _ => rfl).trans ?_
    congr 1
    funext x
    simp only [OpEstoque.acrescimo]
    split <;> simp
  | insertEntregaSelect entregadorId i =>
    simp only [Sql.sem]
    split <;> exact mais_zero _
  | _ => exact mais_zero _

theorem saldo_tela (q : SqlTela) (db : Db) (id : Nat) :
    (q.sem db).2.saldo id =
      (db.saldo id).map fun x => OpEstoque.resultado db id x (.tela q) := by
  cases q with
  | selectItem i => simp [SqlTela.sem, OpEstoque.resultado, OpEstoque.acrescimo]
  | updateItem i nova edicao =>
    exact saldo_modify db.estoque id i (g := fun _ => (nova : ℚ)) fun _ => rfl

theorem saldo_advance (c : Almoxarifado) (a : PassoEstoque) (id : Nat) :
    (Almoxarifado.db (almoxarifado.advance a c)).saldo id =
      (c.db.saldo id).map fun x =>
        (c.efeito a).elim x fun o => o.resultado c.db id x := by
  have step := Almoxarifado.estoque_advance c a
  rw [Db.saldo, step, Almoxarifado.depois]
  cases effect : c.efeito a with
  | none => exact Option.map_id'.symm
  | some o =>
    rcases o with (q | t) | q
    · exact saldo_sql q c.db id
    · have success := (Option.filter_eq_some_iff.mp effect).2
      exact saldo_tx (of_decide_eq_true success) id
    · exact saldo_tela q c.db id

end Passo

section NaoNegativo

def NaoNegativo (db : Db) : Prop := ∀ id x, db.saldo id = some x → 0 ≤ x

/-- What a call must find in stock for nothing to become negative. -/
def OpEstoque.Suficiente (db : Db) : OpEstoque → Prop
  | .rota (.sql (.somaEstoque quantidade id)) => ∀ x, db.saldo id = some x → -quantidade ≤ x
  | .rota (.tx (.lancamento corpo)) => ∀ pedidoId, naoZero corpo.pedidoId = some pedidoId →
    ∀ id x, db.saldo id = some x → -somaItens (db.itensDe pedidoId) id ≤ x
  | .tela (.updateItem id quantidade _) => (db.saldo id).isSome → 0 ≤ quantidade
  | _ => True

theorem resultado_iff {db : Db} (law : NaoNegativo db) (o : OpEstoque) :
    (∀ id x, db.saldo id = some x → 0 ≤ o.resultado db id x) ↔ o.Suficiente db := by
  have still : ∀ id x, db.saldo id = some x → 0 ≤ x + 0 := fun id x found =>
    (law id x found).trans_eq (add_zero x).symm
  rcases o with (q | t) | q
  · cases q with
    | somaEstoque quantidade i =>
      simp only [OpEstoque.resultado, OpEstoque.acrescimo, OpEstoque.Suficiente]
      constructor
      · intro all x found
        have := all i x found
        rw [if_pos rfl] at this
        linarith
      · intro enough id x found
        split
        next here =>
          have := enough x (here ▸ found)
          linarith
        next => exact still id x found
    | _ => exact iff_of_true still trivial
  · cases t with
    | lancamento corpo =>
      simp only [OpEstoque.resultado, OpEstoque.acrescimo, OpEstoque.Suficiente]
      cases naoZero corpo.pedidoId with
      | none => exact iff_of_true still nofun
      | some pedidoId =>
        simp only [Option.some.injEq, forall_eq', neg_le_iff_add_nonneg]
    | _ => exact iff_of_true still trivial
  · cases q with
    | selectItem i => exact iff_of_true still trivial
    | updateItem i nova edicao =>
      simp only [OpEstoque.resultado, OpEstoque.Suficiente, Option.isSome_iff_exists]
      constructor
      · rintro all ⟨x, found⟩
        simpa using all i x found
      · intro enough id x found
        split
        next here => exact_mod_cast enough ⟨x, here ▸ found⟩
        next => exact law id x found

theorem naoNegativo_step (c : Almoxarifado) (a : PassoEstoque) (law : NaoNegativo c.db) :
    NaoNegativo (Almoxarifado.db (almoxarifado.advance a c)) ↔
      ∀ o, c.efeito a = some o → o.Suficiente c.db := by
  simp only [NaoNegativo, saldo_advance, Option.map_eq_some_iff, forall_exists_index, and_imp,
    forall_apply_eq_imp_iff₂]
  cases c.efeito a with
  | none => exact iff_of_true law nofun
  | some o =>
    simp only [Option.elim_some, Option.some.injEq, forall_eq']
    exact resultado_iff law o

def SempreNaoNegativo (c : Almoxarifado) (passos : List PassoEstoque) : Prop :=
  ∀ pre post, passos = pre ++ post → NaoNegativo (Almoxarifado.db (almoxarifado.execute pre c))

theorem sempreNaoNegativo_iff (c : Almoxarifado) (passos : List PassoEstoque) :
    SempreNaoNegativo c passos ↔
      NaoNegativo c.state.state ∧
        almoxarifado.Runs (fun c a => ∀ o, Almoxarifado.efeito c a = some o →
          o.Suficiente c.state.state) passos c :=
  System.always_iff_runs (M := almoxarifado) (I := fun s : Faulty Db => NaoNegativo s.state)
    naoNegativo_step

def dezEmEstoque : Db :=
  { estoque := .ofList [{ nome := "Kiwi", quantidade := 10, medida := "un", valorUnitario := 5 }] }

/-- Two withdrawals of six: both look at the stock before either takes from it. -/
def duasSaidas : List PassoEstoque :=
  [.arrive (.saida ⟨1, 6, ""⟩), .arrive (.saida ⟨1, 6, ""⟩), .step 0, .step 1, .step 0, .step 1]

theorem duas_saidas : ¬ SempreNaoNegativo ⟨⟨dezEmEstoque, []⟩, []⟩ duasSaidas := by
  intro always
  have final := always duasSaidas [] rfl 1 (-2) (by decide +kernel)
  contradiction

end NaoNegativo

section SemPerda

/-- All that the movements of a run add to the quantity of a product. -/
def movimentado (id : Nat) : List PassoEstoque → Almoxarifado → ℚ
  | [], _ => 0
  | a :: resto, c =>
    (c.efeito a).elim 0 (·.acrescimo c.db id) + movimentado id resto (almoxarifado.advance a c)

/-- At every moment of the run each quantity is the initial one with all movements. -/
def SemPerda (c : Almoxarifado) (passos : List PassoEstoque) : Prop :=
  ∀ pre post, passos = pre ++ post → ∀ id,
    (Almoxarifado.db (almoxarifado.execute pre c)).saldo id =
      (c.db.saldo id).map (· + movimentado id pre c)

def SalvaAtual (c : Almoxarifado) (a : PassoEstoque) : Prop :=
  ∀ id quantidade edicao, c.efeito a = some (.tela (.updateItem id quantidade edicao)) →
    ∀ x, c.db.saldo id = some x → x = quantidade

theorem semPerda_step (c : Almoxarifado) (a : PassoEstoque) :
    (∀ id, (Almoxarifado.db (almoxarifado.advance a c)).saldo id =
      (c.db.saldo id).map (· + (c.efeito a).elim 0 (·.acrescimo c.db id))) ↔ SalvaAtual c a := by
  simp only [saldo_advance, SalvaAtual]
  cases effect : c.efeito a with
  | none => exact iff_of_true (fun id => by simp) nofun
  | some o =>
    rcases o with o | q
    · exact iff_of_true (fun id => rfl) nofun
    cases q with
    | selectItem i => exact iff_of_true (fun id => rfl) nofun
    | updateItem i nova edicao =>
      simp only [Option.elim_some, OpEstoque.resultado, OpEstoque.acrescimo, add_zero,
        Option.some.injEq, OpEstoque.tela.injEq]
      constructor
      · rintro same _ _ _ ⟨⟩ x found
        simpa [found, eq_comm] using same i
      · intro current id
        have current := current i nova edicao rfl
        cases found : c.db.saldo id with
        | none => rfl
        | some x =>
          simp only [Option.map_some, Option.some.injEq]
          split
          next here => exact (current x (here ▸ found)).symm
          next => rfl

theorem semPerda_iff (c : Almoxarifado) (passos : List PassoEstoque) :
    SemPerda c passos ↔ almoxarifado.Runs SalvaAtual passos c := by
  induction passos generalizing c with
  | nil =>
    refine iff_of_true (fun pre post split id => ?_) trivial
    obtain ⟨rfl, rfl⟩ := List.append_eq_nil_iff.mp split.symm
    simp [System.execute, movimentado]
  | cons a resto ih =>
    rw [System.Runs, ← semPerda_step, ← ih]
    constructor
    · intro all
      have first (id : Nat) : (Almoxarifado.db (almoxarifado.advance a c)).saldo id =
          (c.db.saldo id).map (· + (c.efeito a).elim 0 (·.acrescimo c.db id)) := by
        simpa [System.execute, movimentado] using all [a] resto rfl id
      refine ⟨first, fun pre post split id => ?_⟩
      have whole := all (a :: pre) post (by rw [split]; rfl) id
      rw [first, Option.map_map]
      refine whole.trans (Option.map_congr fun x _ => ?_)
      simp [movimentado, add_assoc]
    · rintro ⟨first, rest⟩ pre post split id
      cases pre with
      | nil => simp [System.execute, movimentado]
      | cons b pre =>
        obtain ⟨rfl, tail⟩ := List.cons_eq_cons.mp split
        have later := rest pre post tail id
        rw [first, Option.map_map] at later
        refine later.trans (Option.map_congr fun x _ => ?_)
        simp [movimentado, add_assoc]

/-- The window is loaded, five units come in, and the name is saved. -/
def edicaoDemorada : List PassoEstoque :=
  [.arrive (.editar 1 ⟨"Kiwi ouro", 5, "Frutas"⟩), .step 0,
    .arrive (.entrada ⟨1, 5, ""⟩), .step 1, .step 0]

theorem edicao_demorada : ¬ SemPerda ⟨⟨dezEmEstoque, []⟩, []⟩ edicaoDemorada := by
  intro all
  have final := all edicaoDemorada [] rfl 1
  revert final
  decide +kernel

end SemPerda
end IceClube
