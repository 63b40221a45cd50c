import IceClube.Transacoes

/-! What a transaction commits, as a function of the database it meets, and when it does. -/
namespace IceClube

open Coop Prog

section Valido

theorem run_corpoValido (corpo : CorpoValido) (db : Db) :
    (corpoValido corpo).run (Reliable Sql.sem) db =
      if corpo.valido = some 0 then
        (.ok (.commit ⟨200, "OK", none⟩), db.setValido corpo.valido .finalizado corpo.id)
      else if (db.pedidosDiarios.get corpo.id).isNone then
        (.ok (.rollback ⟨404, "Pedido não encontrado", none⟩), db)
      else
        match insuficiente (db.itensEmEstoque corpo.id) with
        | some item =>
          (.ok (.rollback ⟨400,
            s!"Estoque insuficiente para o produto {item.nome} (ID: {item.produtoId})", none⟩), db)
        | none => (.ok (.commit ⟨200, "OK", none⟩), db.setValido corpo.valido .novo corpo.id) := by
  simp only [corpoValido, ask, bind_call, run_reliable, answered_ok, bind_done, Sql.sem]
  split
  · rfl
  · simp only [run_reliable, answered_ok, bind_done, Sql.sem]
    split
    · rfl
    · simp only [run_reliable, answered_ok, bind_done, Sql.sem]
      cases insuficiente (db.itensEmEstoque corpo.id) <;> rfl

end Valido

section Lancamento

def Db.comRetorno (data : String) (pedidoId : Nat) (db : Db) (item : PedidoItem) : Db :=
  (db.somaEstoque item.quantidade item.produtoId).novoLancamento (retorno data pedidoId item)

theorem somaEstoque_isSome (quantidade : ℚ) (id other : Nat) (db : Db) :
    ((db.somaEstoque quantidade id).estoque.get other).isSome = (db.estoque.get other).isSome := by
  simp only [Db.somaEstoque, Table.get_modify]
  split <;> simp

/-- The items are put back when each of them has a product row. -/
theorem run_retornar (data : String) (pedidoId : Nat) (itens : List PedidoItem) (db : Db) :
    ((each (retornar data pedidoId) itens).run (Reliable Sql.sem) db =
        (.ok (), itens.foldl (Db.comRetorno data pedidoId) db) ∧
      ∀ item ∈ itens, (db.estoque.get item.produtoId).isSome) ∨
    ((∃ e, ((each (retornar data pedidoId) itens).run (Reliable Sql.sem) db).1 = .error e) ∧
      ¬ ∀ item ∈ itens, (db.estoque.get item.produtoId).isSome) := by
  induction itens generalizing db with
  | nil => exact .inl ⟨rfl, by simp⟩
  | cons item itens ih =>
    have turn : (retornar data pedidoId item).run (Reliable Sql.sem) db =
        if (db.estoque.get item.produtoId).isNone then
          (.error s!"Produto com ID {item.produtoId} não encontrado no estoque.", db)
        else (.ok (), db.comRetorno data pedidoId item) := by
      simp only [retornar, ask, bind_call, run_reliable, answered_ok, bind_done, Sql.sem,
        Option.bind_some]
      split <;> rfl
    rw [each, run_bind, turn]
    cases row : db.estoque.get item.produtoId with
    | none =>
      refine .inr ⟨⟨_, rfl⟩, fun all => ?_⟩
      simpa [row] using all item (by simp)
    | some e =>
      have same : ∀ other,
          ((db.comRetorno data pedidoId item).estoque.get other).isSome =
            (db.estoque.get other).isSome :=
        fun other => somaEstoque_isSome item.quantidade item.produtoId other db
      rcases ih (db.comRetorno data pedidoId item) with ⟨run, rows⟩ | ⟨failed, missing⟩
      · refine .inl ⟨run, ?_⟩
        simp only [List.forall_mem_cons, row, Option.isSome_some, true_and]
        intro other member
        rw [← same]
        exact rows other member
      · refine .inr ⟨failed, fun all => missing fun other member => ?_⟩
        rw [same]
        exact all other (List.mem_cons_of_mem _ member)

/-- An order that can be returned exists, has items, and all its products are stocked. -/
def Devolvivel (db : Db) (pedidoId : Nat) : Prop :=
  (db.pedidosDiarios.get pedidoId).isSome ∧ db.itensDe pedidoId ≠ [] ∧
    ∀ item ∈ db.itensDe pedidoId, (db.estoque.get item.produtoId).isSome

instance (db : Db) (pedidoId : Nat) : Decidable (Devolvivel db pedidoId) :=
  inferInstanceAs (Decidable (_ ∧ _ ∧ _))

def Db.devolvido (data : String) (pedidoId : Nat) (db : Db) : Db :=
  (db.itensDe pedidoId).foldl (Db.comRetorno data pedidoId) (db.setStatus .devolvido pedidoId)

theorem run_devolver (data : String) (pedidoId : Nat) (db : Db) :
    ((devolver data pedidoId).run (Reliable Sql.sem) db = (.ok (), db.devolvido data pedidoId) ∧
      Devolvivel db pedidoId) ∨
    ((∃ e, ((devolver data pedidoId).run (Reliable Sql.sem) db).1 = .error e) ∧
      ¬ Devolvivel db pedidoId) := by
  simp only [devolver, ask, bind_call, run_reliable, answered_ok, bind_done, Sql.sem]
  cases found : db.pedidosDiarios.get pedidoId with
  | none =>
    refine .inr ⟨⟨_, rfl⟩, fun ok => ?_⟩
    rw [Devolvivel, found] at ok
    exact absurd ok.1 (by simp)
  | some pedido =>
    simp only [Option.isNone_some, Bool.false_eq_true, ↓reduceIte, run_reliable, answered_ok,
      bind_done, Sql.sem]
    have itens : (db.setStatus .devolvido pedidoId).itensDe pedidoId = db.itensDe pedidoId := rfl
    rw [itens]
    cases empty : (db.itensDe pedidoId).isEmpty with
    | true =>
      rw [List.isEmpty_iff] at empty
      exact .inr ⟨⟨_, rfl⟩, fun ok => ok.2.1 empty⟩
    | false =>
      have some_item : db.itensDe pedidoId ≠ [] := by
        rintro nil
        simp [nil] at empty
      simp only [Bool.false_eq_true, ↓reduceIte]
      rcases run_retornar data pedidoId (db.itensDe pedidoId) (db.setStatus .devolvido pedidoId)
        with ⟨run, rows⟩ | ⟨failed, missing⟩
      · exact .inl ⟨run, by simp [found], some_item, rows⟩
      · exact .inr ⟨failed, fun ok => missing ok.2.2⟩

def Db.comLancamento (corpo : CorpoLancamento) (db : Db) : Db :=
  match naoZero corpo.pedidoId with
  | some pedidoId =>
    (db.novoLancamento corpo.lancamento).devolvido corpo.dataLancamento pedidoId
  | none => db.novoLancamento corpo.lancamento

def Lancavel (corpo : CorpoLancamento) (db : Db) : Prop :=
  ∀ pedidoId, naoZero corpo.pedidoId = some pedidoId → Devolvivel db pedidoId

theorem run_corpoLancamento (corpo : CorpoLancamento) (db : Db) :
    ((corpoLancamento corpo).run (Reliable Sql.sem) db =
        (.ok (.commit ⟨200, "Lançamento cadastrado com sucesso.", some db.lancamentos.next⟩),
          db.comLancamento corpo) ∧ Lancavel corpo db) ∨
    ((∃ e, ((corpoLancamento corpo).run (Reliable Sql.sem) db).1 = .error e) ∧
      ¬ Lancavel corpo db) := by
  simp only [corpoLancamento, ask, bind_call, run_reliable, answered_ok, bind_done, Sql.sem]
  cases named : naoZero corpo.pedidoId with
  | none =>
    refine .inl ⟨?_, fun pedidoId eq => by rw [named] at eq; contradiction⟩
    simp only [Db.comLancamento, named]
    rfl
  | some pedidoId =>
    have lancavel : Lancavel corpo db ↔ Devolvivel (db.novoLancamento corpo.lancamento) pedidoId := by
      simp only [Lancavel, named, Option.some.injEq, forall_eq']
      rfl
    rw [lancavel, Db.comLancamento, named]
    rw [run_bind]
    rcases run_devolver corpo.dataLancamento pedidoId (db.novoLancamento corpo.lancamento) with
      ⟨run, ok⟩ | ⟨⟨e, failed⟩, no⟩
    · rw [run]
      exact .inl ⟨rfl, ok⟩
    · refine .inr ⟨⟨e, ?_⟩, no⟩
      rw [← Prod.eta (Prog.run _ (devolver _ _) _), failed]

end Lancamento

section PedidoManual

/-- The line passes the check of the loop: its product is stocked and it fits alone. -/
def Linha.cabe (db : Db) (linha : Linha) : Bool :=
  (linha.produtoId.bind db.estoque.get).any fun e => !linha.excede e

def recusaEstoque (linha : Linha) : Resposta :=
  ⟨400, s!"Estoque insuficiente para o produto {textoProduto linha.produtoId}", none⟩

theorem run_verificarEstoque (linhas : List Linha) (db : Db) :
    (verificarEstoque linhas).run (Reliable Sql.sem) db =
      (.ok ((linhas.find? fun linha => !linha.cabe db).map recusaEstoque), db) := by
  induction linhas with
  | nil => rfl
  | cons linha linhas ih =>
    simp only [verificarEstoque, ask, bind_call, run_reliable, answered_ok, bind_done, Sql.sem]
    rw [List.find?_cons]
    change Prog.run _ (if linha.cabe db = true then _ else _) db = _
    cases linha.cabe db with
    | true => exact ih
    | false => rfl

/-- The total of lines whose products are all stocked; `none` is NaN. -/
def valorTotal (db : Db) : Option ℚ → List Linha → Option ℚ
  | total, [] => total
  | total, linha :: linhas =>
    let produto := linha.produtoId.bind db.estoque.get
    let parcela := produto.bind fun e => linha.quantidade.map (e.valorUnitario * ·)
    valorTotal db (total.bind fun t => parcela.map (t + ·)) linhas

theorem run_calcularTotal (linhas : List Linha) (total : Option ℚ) (db : Db)
    (stocked : ∀ linha ∈ linhas, (linha.produtoId.bind db.estoque.get).isSome) :
    (calcularTotal total linhas).run (Reliable Sql.sem) db =
      (.ok (valorTotal db total linhas), db) := by
  induction linhas generalizing total with
  | nil => rfl
  | cons linha linhas ih =>
    rw [List.forall_mem_cons, Option.isSome_iff_exists] at stocked
    obtain ⟨⟨e, row⟩, others⟩ := stocked
    simp only [calcularTotal, ask, bind_call, run_reliable, answered_ok, bind_done, Sql.sem, row]
    rw [ih _ others, valorTotal, row]
    rfl

theorem valorTotal_isSome (linhas : List Linha) (total : Option ℚ) (db : Db)
    (stocked : ∀ linha ∈ linhas, (linha.produtoId.bind db.estoque.get).isSome) :
    (valorTotal db total linhas).isSome ↔
      total.isSome ∧ ∀ linha ∈ linhas, linha.quantidade.isSome := by
  induction linhas generalizing total with
  | nil => simp [valorTotal]
  | cons linha linhas ih =>
    rw [List.forall_mem_cons, Option.isSome_iff_exists] at stocked
    obtain ⟨⟨e, row⟩, others⟩ := stocked
    rw [valorTotal, ih _ others, row, List.forall_mem_cons]
    cases total <;> cases linha.quantidade <;> simp

def Linha.item (pedidoId : Nat) (linha : Linha) : PedidoItem :=
  ⟨pedidoId, linha.produtoId.getD 0, linha.quantidade.getD 0⟩

theorem run_inserirItem (pedidoId : Nat) (linhas : List Linha) (db : Db)
    (complete : ∀ linha ∈ linhas, linha.produtoId.isSome ∧ linha.quantidade.isSome) :
    (each (inserirItem pedidoId) linhas).run (Reliable Sql.sem) db =
      (.ok (), linhas.foldl (fun db linha => db.novoItem (linha.item pedidoId)) db) := by
  induction linhas generalizing db with
  | nil => rfl
  | cons linha linhas ih =>
    rw [List.forall_mem_cons] at complete
    obtain ⟨⟨product, quantity⟩, others⟩ := complete
    rw [Option.isSome_iff_exists] at product quantity
    obtain ⟨produtoId, product⟩ := product
    obtain ⟨quantidade, quantity⟩ := quantity
    have head : linha.item pedidoId = ⟨pedidoId, produtoId, quantidade⟩ := by
      rw [Linha.item, product, quantity]
      rfl
    simp only [each, inserirItem, product, quantity, ask, bind_call, run_reliable, answered_ok,
      bind_done, Sql.sem, List.foldl_cons]
    rw [ih _ others, head]

/-- What the transaction of a manual order requires of its lines and its receipt. -/
def Aceitavel (corpo : CorpoPedido) (db : Db) : Prop :=
  (∀ linha ∈ corpo.linhas, linha.cabe db ∧ linha.quantidade.isSome) ∧ corpo.comprovanteValido

/-- The database after an accepted manual order of total `total`. -/
def Db.comPedido (corpo : CorpoPedido) (total : ℚ) (db : Db) : Db :=
  corpo.linhas.foldl (fun d linha => d.novoItem (linha.item db.pedidosDiarios.next))
    ((db.novaVenda (corpo.venda total)).novoPedido corpo.clienteNumero db.vendas.next)

theorem cabe_stocked {db : Db} {linha : Linha} (fits : linha.cabe db) :
    (linha.produtoId.bind db.estoque.get).isSome := by
  rw [Linha.cabe] at fits
  cases row : linha.produtoId.bind db.estoque.get with
  | none => simp [row] at fits
  | some e => rfl

theorem run_corpoPedido (corpo : CorpoPedido) (db : Db) :
    ((∃ total, valorTotal db (some 0) corpo.linhas = some total ∧
        (corpoPedido corpo).run (Reliable Sql.sem) db =
          (.ok (.commit ⟨200, "Pedido criado com sucesso!", some db.pedidosDiarios.next⟩),
            db.comPedido corpo total)) ∧ Aceitavel corpo db) ∨
    ((∃ e, ((corpoPedido corpo).run (Reliable Sql.sem) db).1 = .error e ∨
        ((corpoPedido corpo).run (Reliable Sql.sem) db).1 = .ok (.rollback ⟨400, e, none⟩)) ∧
      ¬ Aceitavel corpo db) := by
  rw [corpoPedido, run_bind, run_verificarEstoque]
  cases refused : corpo.linhas.find? fun linha => !linha.cabe db with
  | some linha =>
    refine .inr ⟨⟨_, .inr rfl⟩, fun ok => ?_⟩
    have misfit := List.find?_some refused
    simp [(ok.1 linha (List.mem_of_find?_eq_some refused)).1] at misfit
  | none =>
    have fit : ∀ linha ∈ corpo.linhas, linha.cabe db := by simpa using refused
    have stocked := fun linha member => cabe_stocked (fit linha member)
    simp only [Option.map_none]
    rw [run_bind, run_calcularTotal _ _ _ stocked]
    have quantities := valorTotal_isSome corpo.linhas (some 0) db stocked
    cases receipt : corpo.comprovanteValido with
    | false => exact .inr ⟨⟨_, .inr rfl⟩, fun ok => by simp [ok.2] at receipt⟩
    | true =>
      simp only [↓reduceIte]
      cases value : valorTotal db (some 0) corpo.linhas with
      | none =>
        refine .inr ⟨⟨_, .inl rfl⟩, fun ok => ?_⟩
        rw [value] at quantities
        exact absurd (quantities.mpr ⟨rfl, fun linha member => (ok.1 linha member).2⟩) (by simp)
      | some total =>
        rw [value] at quantities
        have quantities := (quantities.mp rfl).2
        refine .inl ⟨⟨total, rfl, ?_⟩,
          fun linha member => ⟨fit linha member, quantities linha member⟩, receipt⟩
        simp only [salvarPedido, ask, bind_call, run_reliable, answered_ok, bind_done, Sql.sem]
        rw [run_bind, run_inserirItem]
        · rfl
        · intro linha member
          refine ⟨?_, quantities linha member⟩
          have row := stocked linha member
          cases product : linha.produtoId with
          | none => simp [product] at row
          | some _ => rfl

end PedidoManual

namespace Tx

/-- What the transaction requires of the database to commit. -/
def Aceita : Tx → Db → Prop
  | valido corpo, db =>
    corpo.valido = some 0 ∨
      ((db.pedidosDiarios.get corpo.id).isSome ∧ insuficiente (db.itensEmEstoque corpo.id) = none)
  | lancamento corpo, db => Lancavel corpo db
  | pedidoManual corpo, db => Aceitavel corpo db

/-- What it writes when it commits. -/
def Grava : Tx → Db → Db → Prop
  | valido corpo, db, db' =>
    db' = db.setValido corpo.valido (if corpo.valido = some 0 then .finalizado else .novo) corpo.id
  | lancamento corpo, db, db' => db' = db.comLancamento corpo
  | pedidoManual corpo, db, db' => ∃ total, db' = db.comPedido corpo total

/-- It commits: its requirements hold and none of its statements is rejected. -/
def Confirma (t : Tx) (w : Faulty Db) : Prop :=
  Calm (t.corpo.steps Sql.sem w.state) w.faults ∧ t.Aceita w.state

theorem corpo_run (t : Tx) (db : Db) :
    (t.Aceita db ∧ ∃ r db', t.corpo.run (Reliable Sql.sem) db = (.ok (.commit r), db') ∧
      r.status = 200 ∧ t.Grava db db') ∨
    (¬ t.Aceita db ∧ ((∃ e, (t.corpo.run (Reliable Sql.sem) db).1 = .error e) ∨
      ∃ r, (t.corpo.run (Reliable Sql.sem) db).1 = .ok (.rollback r) ∧ r.status ≠ 200)) := by
  cases t with
  | valido corpo =>
    simp only [Aceita, Grava, Tx.corpo, run_corpoValido]
    by_cases denied : corpo.valido = some 0
    · simp [denied]
    · simp only [denied, ↓reduceIte, false_or]
      cases found : db.pedidosDiarios.get corpo.id with
      | none => exact .inr ⟨by simp, .inr ⟨_, rfl, by decide⟩⟩
      | some pedido =>
        cases short : insuficiente (db.itensEmEstoque corpo.id) with
        | none => exact .inl ⟨by simp, _, _, rfl, rfl, rfl⟩
        | some item => exact .inr ⟨by simp, .inr ⟨_, rfl, by simp⟩⟩
  | lancamento corpo =>
    rcases run_corpoLancamento corpo db with ⟨run, ok⟩ | ⟨failed, no⟩
    · exact .inl ⟨ok, _, _, run, rfl, rfl⟩
    · exact .inr ⟨no, .inl failed⟩
  | pedidoManual corpo =>
    rcases run_corpoPedido corpo db with ⟨⟨total, _, run⟩, ok⟩ | ⟨⟨e, failed | refused⟩, no⟩
    · exact .inl ⟨ok, _, _, run, rfl, total, rfl⟩
    · exact .inr ⟨no, .inl ⟨e, failed⟩⟩
    · exact .inr ⟨no, .inr ⟨_, refused, by simp⟩⟩

end Tx

section Fragil

theorem fragile_valido (corpo : CorpoValido) : (corpoValido corpo).Fragile := by
  refine fragile_bind (fragile_ask _) fun _ => fragile_bind (fragile_ask _) fun _ => ?_
  split
  · exact fragile_bind (fragile_ask _) fun _ => fragile_bind (fragile_ask _) fun _ => trivial
  refine fragile_bind (fragile_ask _) fun pedido => ?_
  split
  · trivial
  refine fragile_bind (fragile_ask _) fun itens => ?_
  split
  · trivial
  · exact fragile_bind (fragile_ask _) fun _ => fragile_bind (fragile_ask _) fun _ => trivial

theorem fragile_retornar (data : String) (pedidoId : Nat) (item : PedidoItem) :
    (retornar data pedidoId item).Fragile := by
  refine fragile_bind (fragile_ask _) fun estoque => ?_
  split
  · trivial
  · exact fragile_bind (fragile_ask _) fun _ => fragile_bind (fragile_ask _) fun _ => trivial

theorem fragile_devolver (data : String) (pedidoId : Nat) : (devolver data pedidoId).Fragile := by
  refine fragile_bind (fragile_ask _) fun pedido => ?_
  split
  · trivial
  refine fragile_bind (fragile_ask _) fun _ => fragile_bind (fragile_ask _) fun itens => ?_
  split
  · trivial
  · exact fragile_each (fragile_retornar data pedidoId) _

theorem fragile_lancamento (corpo : CorpoLancamento) : (corpoLancamento corpo).Fragile := by
  refine fragile_bind (fragile_ask _) fun _ => fragile_bind (fragile_ask _) fun id => ?_
  have rest : ∀ _ : Unit, Prog.Fragile (do
      query .commit
      pure (Fim.commit ⟨200, "Lançamento cadastrado com sucesso.", some id⟩) : Consulta Fim) :=
    fun _ => fragile_bind (fragile_ask _) fun _ => trivial
  cases naoZero corpo.pedidoId with
  | none => exact rest ()
  | some pedidoId => exact fragile_bind (fragile_devolver _ _) rest

theorem fragile_verificarEstoque (linhas : List Linha) : (verificarEstoque linhas).Fragile := by
  induction linhas with
  | nil => trivial
  | cons linha linhas ih =>
    refine fragile_bind (fragile_ask _) fun estoque => ?_
    split
    · exact ih
    · trivial

theorem fragile_calcularTotal (linhas : List Linha) (total : Option ℚ) :
    (calcularTotal total linhas).Fragile := by
  induction linhas generalizing total with
  | nil => trivial
  | cons linha linhas ih =>
    refine fragile_bind (fragile_ask _) fun produto => ?_
    cases produto with
    | none => trivial
    | some produto => exact ih _

theorem fragile_inserirItem (pedidoId : Nat) (linha : Linha) :
    (inserirItem pedidoId linha).Fragile := by
  rw [inserirItem]
  split
  · exact fragile_ask _
  · trivial

theorem fragile_pedido (corpo : CorpoPedido) : (corpoPedido corpo).Fragile := by
  refine fragile_bind (fragile_verificarEstoque _) fun recusa => ?_
  cases recusa with
  | some resposta => trivial
  | none =>
    refine fragile_bind (fragile_calcularTotal _ _) fun total => ?_
    split
    · cases total with
      | none => trivial
      | some total =>
        refine fragile_bind (fragile_ask _) fun vendaId =>
          fragile_bind (fragile_ask _) fun pedidoId =>
          fragile_bind (fragile_each (fragile_inserirItem pedidoId) _) fun _ => ?_
        exact fragile_bind (fragile_ask _) fun _ => trivial
    · trivial

theorem Tx.fragile (t : Tx) : t.corpo.Fragile := by
  cases t with
  | valido corpo => exact fragile_valido corpo
  | lancamento corpo => exact fragile_lancamento corpo
  | pedidoManual corpo => exact fragile_pedido corpo

end Fragil

/-- Nothing was written; identifiers may be used up. -/
def Db.MesmasLinhas (db db' : Db) : Prop := ∃ depois, db' = db.desfeito depois

theorem Db.MesmasLinhas.refl (db : Db) : db.MesmasLinhas db := ⟨db, db.desfeito_self.symm⟩

namespace Tx

theorem executar_confirma {t : Tx} {w : Faulty Db} (commits : t.Confirma w) :
    (t.executar w).1.status = 200 ∧ t.Grava w.state (t.executar w).2.state := by
  obtain ⟨calm, accepted⟩ := commits
  obtain ⟨answer, state⟩ := run_calm rejeicao w calm
  rcases t.corpo_run w.state with ⟨_, r, db', run, success, written⟩ | ⟨no, _⟩
  · rw [run] at answer state
    rw [executar, ← Prod.eta (t.corpo.run _ w), answer]
    exact ⟨success, by rw [state]; exact written⟩
  · contradiction

/-- What a manual order wrote, the total included. -/
theorem executar_pedidoManual {corpo : CorpoPedido} {w : Faulty Db}
    (commits : (Tx.pedidoManual corpo).Confirma w) :
    ∃ total, valorTotal w.state (some 0) corpo.linhas = some total ∧
      ((Tx.pedidoManual corpo).executar w).2.state = w.state.comPedido corpo total := by
  obtain ⟨calm, accepted⟩ := commits
  obtain ⟨answer, state⟩ := run_calm rejeicao w calm
  rcases run_corpoPedido corpo w.state with ⟨⟨total, value, run⟩, -⟩ | ⟨-, refused⟩
  · have run' : (Tx.pedidoManual corpo).corpo.run (Reliable Sql.sem) w.state = _ := run
    rw [run'] at answer state
    refine ⟨total, value, ?_⟩
    rw [executar, ← Prod.eta ((Tx.pedidoManual corpo).corpo.run _ w), answer]
    exact state
  · exact absurd accepted refused

/-- A transaction that does not commit says so and leaves the rows as they were. -/
theorem executar_recusa {t : Tx} {w : Faulty Db} (refused : ¬ t.Confirma w) :
    (t.executar w).1.status ≠ 200 ∧ w.state.MesmasLinhas (t.executar w).2.state := by
  have failure : ∀ e, (t.corpo.run (Faulty.exec Sql.sem rejeicao) w).1 = .error e →
      (t.executar w).1.status ≠ 200 ∧ w.state.MesmasLinhas (t.executar w).2.state := by
    intro e failed
    rw [executar, ← Prod.eta (t.corpo.run _ w), failed]
    exact ⟨by cases t <;> simp [erro], _, rfl⟩
  cases answer : (t.corpo.run (Faulty.exec Sql.sem rejeicao) w).1 with
  | error e => exact failure e answer
  | ok fim =>
    obtain ⟨calm, reliable⟩ := (run_fragile t.fragile w fim).mp answer
    have declined : ¬ t.Aceita w.state := fun accepted => refused ⟨calm, accepted⟩
    rcases t.corpo_run w.state with ⟨accepted, _⟩ | ⟨_, ⟨e, failed⟩ | ⟨r, rolled, status⟩⟩
    · contradiction
    · rw [failed] at reliable
      contradiction
    · rw [rolled, Except.ok.injEq] at reliable
      subst reliable
      rw [executar, ← Prod.eta (t.corpo.run _ w), answer]
      exact ⟨status, _, rfl⟩

theorem status_executar (t : Tx) (w : Faulty Db) :
    (t.executar w).1.status = 200 ↔ t.Confirma w := by
  constructor
  · intro success
    by_contra refused
    exact (executar_recusa refused).1 success
  · exact fun commits => (executar_confirma commits).1

end Tx

section Quadros

theorem foldl_frame {β γ : Type} {f : Db → β → Db} (field : Db → γ)
    (turn : ∀ db x, field (f db x) = field db) (xs : List β) (db : Db) :
    field (xs.foldl f db) = field db := by
  induction xs generalizing db with
  | nil => rfl
  | cons x xs ih => rw [List.foldl_cons, ih, turn]

theorem pedidos_devolvido (data : String) (pedidoId : Nat) (db : Db) :
    (db.devolvido data pedidoId).pedidosDiarios =
      db.pedidosDiarios.modify pedidoId fun p => { p with status := .devolvido } :=
  foldl_frame (f := Db.comRetorno data pedidoId) Db.pedidosDiarios (fun _ _ => rfl) _ _

theorem entregas_devolvido (data : String) (pedidoId : Nat) (db : Db) :
    (db.devolvido data pedidoId).entregas = db.entregas :=
  foldl_frame (f := Db.comRetorno data pedidoId) Db.entregas (fun _ _ => rfl) _ _

def somaItens (itens : List PedidoItem) (produtoId : Nat) : ℚ :=
  ((itens.filter (·.produtoId = produtoId)).map (·.quantidade)).sum

theorem estoque_comRetorno (data : String) (pedidoId : Nat) (itens : List PedidoItem) (db : Db)
    (produtoId : Nat) :
    (itens.foldl (Db.comRetorno data pedidoId) db).estoque.get produtoId =
      (db.estoque.get produtoId).map fun e =>
        { e with quantidade := e.quantidade + somaItens itens produtoId } := by
  induction itens generalizing db with
  | nil => simp [somaItens]
  | cons item itens ih =>
    have turn : (db.comRetorno data pedidoId item).estoque.get produtoId =
        if produtoId = item.produtoId then
          (db.estoque.get produtoId).map fun e =>
            { e with quantidade := e.quantidade + item.quantidade }
        else db.estoque.get produtoId := Table.get_modify _ _ _ _
    rw [List.foldl_cons, ih, turn]
    by_cases here : produtoId = item.produtoId
    · simp [somaItens, here, Function.comp_def, add_assoc]
    · simp [somaItens, here, Ne.symm here]

theorem estoque_devolvido (data : String) (pedidoId : Nat) (db : Db) (produtoId : Nat) :
    (db.devolvido data pedidoId).estoque.get produtoId =
      (db.estoque.get produtoId).map fun e =>
        { e with quantidade := e.quantidade + somaItens (db.itensDe pedidoId) produtoId } :=
  estoque_comRetorno data pedidoId (db.itensDe pedidoId) _ produtoId

theorem pedidos_comLancamento (corpo : CorpoLancamento) (db : Db) :
    (db.comLancamento corpo).pedidosDiarios =
      match naoZero corpo.pedidoId with
      | some pedidoId =>
        db.pedidosDiarios.modify pedidoId fun p => { p with status := .devolvido }
      | none => db.pedidosDiarios := by
  rw [Db.comLancamento]
  cases naoZero corpo.pedidoId with
  | none => rfl
  | some pedidoId => exact pedidos_devolvido _ _ _

theorem entregas_comLancamento (corpo : CorpoLancamento) (db : Db) :
    (db.comLancamento corpo).entregas = db.entregas := by
  rw [Db.comLancamento]
  cases naoZero corpo.pedidoId with
  | none => rfl
  | some pedidoId => exact entregas_devolvido _ _ _

section ComPedido

variable (corpo : CorpoPedido) (total : ℚ) (db : Db)

theorem foldl_novoItem (item : Linha → PedidoItem) (linhas : List Linha) (db : Db) :
    linhas.foldl (fun d linha => d.novoItem (item linha)) db =
      { db with pedidoItens := db.pedidoItens ++ linhas.map item } := by
  induction linhas generalizing db with
  | nil => simp
  | cons linha linhas ih =>
    rw [List.foldl_cons, ih]
    simp [Db.novoItem]

theorem comPedido_eq : db.comPedido corpo total =
    { (db.novaVenda (corpo.venda total)).novoPedido corpo.clienteNumero db.vendas.next with
      pedidoItens := db.pedidoItens ++ corpo.linhas.map (Linha.item db.pedidosDiarios.next) } :=
  foldl_novoItem _ corpo.linhas _

theorem pedidos_comPedido :
    (db.comPedido corpo total).pedidosDiarios =
      ((db.novaVenda (corpo.venda total)).novoPedido corpo.clienteNumero
        db.vendas.next).pedidosDiarios := by
  rw [comPedido_eq]

theorem vendas_comPedido :
    (db.comPedido corpo total).vendas = db.vendas.insert (corpo.venda total) := by
  rw [comPedido_eq]
  rfl

theorem pedidoItens_comPedido :
    (db.comPedido corpo total).pedidoItens =
      db.pedidoItens ++ corpo.linhas.map (Linha.item db.pedidosDiarios.next) := by
  rw [comPedido_eq]

theorem entregas_comPedido : (db.comPedido corpo total).entregas = db.entregas := by
  rw [comPedido_eq]
  rfl

theorem estoque_comPedido : (db.comPedido corpo total).estoque = db.estoque := by
  rw [comPedido_eq]
  rfl

end ComPedido

theorem entregas_tx (t : Tx) {db db' : Db} (written : t.Grava db db') :
    db'.entregas = db.entregas := by
  cases t with
  | valido corpo =>
    rw [show db' = _ from written]
    rfl
  | lancamento corpo =>
    exact (congrArg Db.entregas written).trans (entregas_comLancamento corpo db)
  | pedidoManual corpo =>
    obtain ⟨total, rfl⟩ := written
    exact entregas_comPedido corpo total db
end Quadros
end IceClube
