import IceClube.Rotas
import IceClube.Efeitos

/-! The stock routes `/entrada` and `/saida`, the returns of `/api/lancamentos` and the edit
window of the stock page, which loads an item and saves it some time later. -/
namespace IceClube

open Coop Prog

/-- What the user leaves in the fields of the edit window; the quantity is as loaded. -/
structure Edicao where
  nome : String
  preco : ℚ
  categoria : String
  deriving DecidableEq, Repr

inductive SqlTela where
  | selectItem (id : Nat)
  | updateItem (id : Nat) (quantidade : ℤ) (edicao : Edicao)

@[reducible] def SqlTela.Res : SqlTela → Type
  | .selectItem _ => Option Estoque
  | .updateItem .. => Nat

/-- The categories of a product are kept apart from its row. -/
def Db.editarItem (id : Nat) (quantidade : ℤ) (edicao : Edicao) (db : Db) : Db :=
  { db with estoque := db.estoque.modify id fun e =>
      { e with nome := edicao.nome, quantidade := quantidade, valorUnitario := edicao.preco } }

def SqlTela.sem : (q : SqlTela) → Db → q.Res × Db
  | .selectItem id, db => (db.estoque.get id, db)
  | .updateItem id quantidade edicao, db =>
    (if (db.estoque.get id).isSome then (1 : Nat) else (0 : Nat),
      db.editarItem id quantidade edicao)

inductive OpEstoque where
  | rota (o : Op)
  | tela (q : SqlTela)

@[reducible] def OpEstoque.Res : OpEstoque → Type
  | .rota o => o.Res
  | .tela q => q.Res

def OpEstoque.exec : Exec String OpEstoque.Res (Faulty Db)
  | .rota o, w => Op.exec o w
  | .tela q, w => Faulty.exec SqlTela.sem Tx.rejeicao q w

/-- The call takes effect: it is not rejected, or it is a transaction that commits. -/
def OpEstoque.aceita (w : Faulty Db) : OpEstoque → Bool
  | .rota (.sql _) => !w.faults.headD false
  | .rota (.tx t) => (t.executar w).1.status = 200
  | .tela _ => !w.faults.headD false

abbrev RotaEstoque := Prog String OpEstoque.Res

abbrev sqlEstoque (q : Sql) : RotaEstoque q.Res := ask (OpEstoque.rota (.sql q))

abbrev sqlTela (q : SqlTela) : RotaEstoque q.Res := ask (OpEstoque.tela q)

def noEstoque {α : Type} : Rota α → RotaEstoque α
  | .done a => .done a
  | .fail e => .fail e
  | .call o next => .call (.rota o) fun answer => noEstoque (next answer)

/-- The body of `/api/estoque/entrada` and `/saida`; a missing number is zero. -/
structure CorpoMovimento where
  id : Nat
  quantidade : ℚ
  descricao : String := ""
  deriving DecidableEq, Repr

/-- The posting of a movement; the date is the statement's own `NOW()`. -/
def CorpoMovimento.lancamento (corpo : CorpoMovimento) (tipo padrao : String) : Lancamento where
  descricao := if corpo.descricao = "" then padrao else corpo.descricao
  categoria := some "estoque"
  dataLancamento := "NOW()"
  tipo := some tipo

section Rotas

/-- Unlike `/saida`, it accepts a negative quantity. -/
def entrada (corpo : CorpoMovimento) : RotaEstoque Resposta :=
  if corpo.id = 0 ∨ corpo.quantidade = 0 then pure ⟨400, "Dados inválidos", none⟩
  else
    let gravar : RotaEstoque Resposta := do
      sqlEstoque (.somaEstoque corpo.quantidade corpo.id)
      let _ ← sqlEstoque (.insertLancamento
        (corpo.lancamento "entrada" s!"Entrada de estoque ID {corpo.id}"))
      pure ⟨200, "Estoque atualizado com sucesso", none⟩
    gravar.handle fun _ => pure ⟨500, "Erro ao atualizar estoque", none⟩

/-- `quantidade - ?` is a sum with the amount's negative. -/
def baixar (corpo : CorpoMovimento) (item : Estoque) : RotaEstoque Resposta := do
  if item.quantidade < corpo.quantidade then
    pure ⟨400, "Quantidade insuficiente no estoque", none⟩
  else do
    sqlEstoque (.somaEstoque (-corpo.quantidade) corpo.id)
    let _ ← sqlEstoque (.insertLancamento (corpo.lancamento "saida"
      s!"Baixa de {textoNumero corpo.quantidade} do item {item.nome}"))
    pure ⟨200, "Baixa de estoque realizada com sucesso", none⟩

def saida (corpo : CorpoMovimento) : RotaEstoque Resposta :=
  if corpo.id = 0 ∨ corpo.quantidade ≤ 0 then pure ⟨400, "Dados inválidos", none⟩
  else
    let gravar : RotaEstoque Resposta := do
      match ← sqlEstoque (.selectEstoque (some corpo.id)) with
      | none => pure ⟨404, "Item não encontrado", none⟩
      | some item => baixar corpo item
    gravar.handle fun _ => pure ⟨500, "Erro ao realizar baixa", none⟩

/-- `parseInt` of a number's decimal digits. -/
def inteiro (q : ℚ) : ℤ := q.num.tdiv q.den

/-- `PATCH /api/estoque/:id`, with a body that names no new identifier. -/
def patchEstoque (id : Nat) (quantidade : ℤ) (edicao : Edicao) : RotaEstoque Resposta :=
  if edicao.nome = "" ∨ edicao.categoria = "" then
    pure ⟨400, "Nome, quantidade, preço e categoria são obrigatórios", none⟩
  else
    let gravar : RotaEstoque Resposta := do
      let affectedRows ← sqlTela (.updateItem id quantidade edicao)
      if affectedRows = 0 then pure ⟨404, "Item não encontrado", none⟩
      else pure ⟨200, "Item atualizado com sucesso", none⟩
    gravar.handle fun _ => pure ⟨500, "Erro ao atualizar item", none⟩

/-- The edit window of one item: `GET /api/estoque`, then `salvarEdicao`. -/
def editarNaTela (id : Nat) (edicao : Edicao) : RotaEstoque Resposta := do
  match ← sqlTela (.selectItem id) with
  | none => pure ⟨404, "Item não encontrado", none⟩
  | some item => patchEstoque id (inteiro item.quantidade) edicao

end Rotas

inductive ReqEstoque where
  | entrada (corpo : CorpoMovimento)
  | saida (corpo : CorpoMovimento)
  | lancamentos (corpo : CorpoLancamento)
  | editar (id : Nat) (edicao : Edicao)
  deriving DecidableEq, Repr

def ReqEstoque.rota : ReqEstoque → RotaEstoque Resposta
  | .entrada corpo => IceClube.entrada corpo
  | .saida corpo => IceClube.saida corpo
  | .lancamentos corpo => noEstoque (IceClube.lancamentos corpo)
  | .editar id edicao => editarNaTela id edicao

def almoxarifado : System ReqEstoque Nat String OpEstoque.Res Resposta (Faulty Db) where
  exec := OpEstoque.exec
  sync _ := false
  listeners requisicao := [requisicao.rota]
  drift dt w := ⟨{ w.state with agora := w.state.agora + dt }, w.faults⟩

abbrev Almoxarifado := Config String OpEstoque.Res Resposta (Faulty Db)

abbrev PassoEstoque := Action ReqEstoque Nat

namespace Almoxarifado

variable {c : Almoxarifado} {a : PassoEstoque}

abbrev db (c : Almoxarifado) : Db := c.state.state

/-- The call that a step executes without rejection, if any. -/
def efeito (c : Almoxarifado) (a : PassoEstoque) : Option OpEstoque :=
  (c.issued a).filter (OpEstoque.aceita c.state)

theorem advance_state (c : Almoxarifado) (a : PassoEstoque) :
    (almoxarifado.advance a c).state =
      match a, c.issued a with
      | .drift dt, _ => ⟨{ c.db with agora := c.db.agora + dt }, c.state.faults⟩
      | _, some o => (OpEstoque.exec o c.state).2
      | _, none => c.state := by
  rw [System.advance_state_async (M := almoxarifado) fun _ => rfl]
  cases a <;> cases Config.issued c _ <;> rfl

theorem issued_step {o : OpEstoque} (issued : c.issued a = some o) :
    (almoxarifado.advance a c).state = (OpEstoque.exec o c.state).2 := by
  rw [advance_state, issued]
  cases a with
  | drift dt => simp [Config.issued] at issued
  | arrive _ => rfl
  | step _ => rfl

/-- What a step does to the stock: what the call that takes effect does to it. -/
def depois (c : Almoxarifado) (a : PassoEstoque) : Table Estoque :=
  match c.efeito a with
  | some (.rota (.sql q)) => (q.sem c.db).2.estoque
  | some (.rota (.tx t)) => (t.executar c.state).2.state.estoque
  | some (.tela q) => (q.sem c.db).2.estoque
  | none => c.db.estoque

theorem estoque_advance (c : Almoxarifado) (a : PassoEstoque) :
    (db (almoxarifado.advance a c)).estoque = c.depois a := by
  rw [depois, efeito]
  cases issued : c.issued a with
  | none =>
    rw [db, advance_state, issued]
    cases a <;> rfl
  | some o =>
    rw [db, issued_step issued]
    rcases o with (q | t) | q
    · cases fault : c.state.faults.headD false with
      | true =>
        rw [OpEstoque.exec, Op.exec, Faulty.exec_rejected q fault, Option.filter_some,
          OpEstoque.aceita, fault]
        rfl
      | false =>
        rw [OpEstoque.exec, Op.exec, Faulty.exec_answered q fault, Option.filter_some,
          OpEstoque.aceita, fault]
        rfl
    · rw [OpEstoque.exec, Op.exec, Option.filter_some, OpEstoque.aceita]
      by_cases success : (t.executar c.state).1.status = 200
      · rw [if_pos (decide_eq_true success)]
      · have refused := mt (Tx.status_executar t c.state).mpr success
        obtain ⟨depois, same⟩ := (Tx.executar_recusa refused).2
        rw [same, if_neg (by simpa using success)]
        rfl
    · cases fault : c.state.faults.headD false with
      | true =>
        rw [OpEstoque.exec, Faulty.exec_rejected q fault, Option.filter_some, OpEstoque.aceita,
          fault]
        rfl
      | false =>
        rw [OpEstoque.exec, Faulty.exec_answered q fault, Option.filter_some, OpEstoque.aceita,
          fault]
        rfl

end Almoxarifado
end IceClube
