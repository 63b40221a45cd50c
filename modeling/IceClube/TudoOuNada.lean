import IceClube.Keys
import IceClube.Passos

/-! The routes with a transaction of their own, from the answer's side: an error leaves the rows
as they were, a success writes the whole return or the whole order and nothing else. -/
namespace IceClube

open Coop Prog

/-- A route that throws is answered with an error. -/
def Sucesso : Except String Resposta → Prop
  | .ok resposta => resposta.status = 200
  | .error _ => False

instance : (answer : Except String Resposta) → Decidable (Sucesso answer)
  | .ok resposta => inferInstanceAs (Decidable (resposta.status = 200))
  | .error _ => inferInstanceAs (Decidable False)

/-- The route writes nothing and says so, or it succeeds and changes the database as `R` says. -/
def Inteira (R : Db → Db → Prop) (rota : Rota Resposta) (w : Faulty Db) : Prop :=
  (¬ Sucesso (rota.run Op.exec w).1 ∧ w.state.MesmasLinhas (rota.run Op.exec w).2.state) ∨
    (Sucesso (rota.run Op.exec w).1 ∧ R w.state (rota.run Op.exec w).2.state)

section Inteira

variable {R : Db → Db → Prop} {w : Faulty Db}

theorem Inteira.mono {rota : Rota Resposta} {R' : Db → Db → Prop} (inteira : Inteira R rota w)
    (weaker : R w.state (rota.run Op.exec w).2.state → R' w.state (rota.run Op.exec w).2.state) :
    Inteira R' rota w :=
  inteira.imp_right fun done => ⟨done.1, weaker done.2⟩

theorem inteira_recusa {resposta : Resposta} (refused : resposta.status ≠ 200) :
    Inteira R (pure resposta) w := .inl ⟨refused, .refl _⟩

/-- A statement that changes nothing may be rejected too. -/
theorem inteira_query {q : Sql} {f : q.Res → Rota Resposta} (quiet : (q.sem w.state).2 = w.state)
    (rest : Inteira R (f (q.sem w.state).1) ⟨w.state, w.faults.tail⟩) :
    Inteira R (dbQuery q >>= f) w := by
  cases fault : w.faults.headD false with
  | true =>
    have run := run_rejeitada q f fault
    exact .inl ⟨by rw [run]; exact id, by rw [run]; exact .refl _⟩
  | false =>
    have run := run_respondida q f fault
    rw [quiet] at run
    simp only [Inteira, run]
    exact rest

theorem inteira_transacao {t : Tx}
    (writes : t.Confirma w → R w.state (t.executar w).2.state) : Inteira R (transacao t) w := by
  by_cases commits : t.Confirma w
  · exact .inr ⟨(Tx.executar_confirma commits).1, writes commits⟩
  · obtain ⟨status, same⟩ := Tx.executar_recusa commits
    exact .inl ⟨status, same⟩

end Inteira

section Devolucao

/-- What a return writes: the stock, the order's status and the postings. -/
structure Devolvido (corpo : CorpoLancamento) (pedidoId : Nat) (db db' : Db) : Prop where
  estoque : ∀ produtoId, db'.estoque.get produtoId = (db.estoque.get produtoId).map fun e =>
    { e with quantidade := e.quantidade + somaItens (db.itensDe pedidoId) produtoId }
  existe : (db.pedidosDiarios.get pedidoId).isSome
  pedidos : db'.pedidosDiarios =
    db.pedidosDiarios.modify pedidoId fun p => { p with status := .devolvido }
  lancamentos : db'.lancamentos.rows.map Prod.snd = db.lancamentos.rows.map Prod.snd ++
    corpo.lancamento :: (db.itensDe pedidoId).map (retorno corpo.dataLancamento pedidoId)
  antigos : ∀ id row, db.lancamentos.get id = some row → db'.lancamentos.get id = some row
  resto : db' = { db with
    estoque := db'.estoque, pedidosDiarios := db'.pedidosDiarios, lancamentos := db'.lancamentos }

variable {pedidoId : Nat}

theorem foldl_comRetorno (data : String) (pedidoId : Nat) (itens : List PedidoItem) (db : Db) :
    itens.foldl (Db.comRetorno data pedidoId) db = { db with
      estoque := (itens.foldl (Db.comRetorno data pedidoId) db).estoque
      lancamentos := (itens.map (retorno data pedidoId)).foldl Table.insert db.lancamentos } := by
  induction itens generalizing db with
  | nil => rfl
  | cons item itens ih =>
    simp only [List.foldl_cons, List.map_cons]
    rw [ih]
    rfl

theorem devolvido_comLancamento {corpo : CorpoLancamento} {db : Db}
    (named : naoZero corpo.pedidoId = some pedidoId) (ready : Lancavel corpo db) :
    Devolvido corpo pedidoId db (db.comLancamento corpo) := by
  have written : db.comLancamento corpo =
      (db.novoLancamento corpo.lancamento).devolvido corpo.dataLancamento pedidoId := by
    rw [Db.comLancamento, named]
  have loop := foldl_comRetorno corpo.dataLancamento pedidoId (db.itensDe pedidoId)
    ((db.novoLancamento corpo.lancamento).setStatus .devolvido pedidoId)
  have postings : (db.comLancamento corpo).lancamentos =
      (corpo.lancamento :: (db.itensDe pedidoId).map
        (retorno corpo.dataLancamento pedidoId)).foldl Table.insert db.lancamentos := by
    rw [written]
    exact congrArg Db.lancamentos loop
  have orders : (db.comLancamento corpo).pedidosDiarios =
      db.pedidosDiarios.modify pedidoId fun p => { p with status := .devolvido } := by
    rw [written]
    exact pedidos_devolvido _ _ _
  refine ⟨fun produtoId => ?_, (ready pedidoId named).1, orders, ?_, fun id row old => ?_, ?_⟩
  · rw [written]
    exact estoque_devolvido _ _ _ _
  · rw [postings]
    exact Table.rows_insertAll _ _
  · rw [postings]
    exact Table.get_insertAll_of_get _ old
  · rw [orders, postings, written]
    exact loop

/-- A return is all or nothing, and exact. -/
theorem devolucao_inteira (corpo : CorpoLancamento) (pedidoId : Nat)
    (named : naoZero corpo.pedidoId = some pedidoId) (w : Faulty Db) :
    Inteira (Devolvido corpo pedidoId) (lancamentos corpo) w := by
  rw [lancamentos]
  split
  · exact inteira_recusa (by decide)
  · apply inteira_query rfl
    apply inteira_transacao
    intro commits
    have written : (Tx.executar (.lancamento corpo) _).2.state = w.state.comLancamento corpo :=
      (Tx.executar_confirma commits).2
    rw [written]
    exact devolvido_comLancamento named commits.2

end Devolucao

def pedidoDeDois : Db :=
  { estoque := .ofList [{ nome := "Picolé", quantidade := 10, medida := "un", valorUnitario := 5 },
      { nome := "Kiwi", quantidade := 3, medida := "un", valorUnitario := 7 }]
    pedidosDiarios := .ofList [{ clienteNumero := "5511999990000", status := .falha }]
    pedidoItens := [⟨1, 1, 2⟩, ⟨1, 2, 1⟩, ⟨1, 1, 3⟩] }

def devolucaoDeDois : CorpoLancamento where
  descricao := "Sabor trocado"
  dataLancamento := "2025-05-01"
  pedidoId := some 1

theorem devolucao_de_dois : naoZero devolucaoDeDois.pedidoId = some 1 ∧
    Inteira (Devolvido devolucaoDeDois 1) (lancamentos devolucaoDeDois) ⟨pedidoDeDois, []⟩ :=
  ⟨rfl, devolucao_inteira devolucaoDeDois 1 rfl ⟨pedidoDeDois, []⟩⟩

section Pedido

def Linha.parcela (db : Db) (linha : Linha) : ℚ :=
  ((linha.produtoId.bind db.estoque.get).map (·.valorUnitario)).getD 0 * linha.quantidade.getD 0

/-- What a manual order writes: a sale, its order and the items of the request. -/
structure PedidoCriado (corpo : CorpoPedido) (db db' : Db) : Prop where
  linhas : ∀ linha ∈ corpo.linhas,
    (linha.produtoId.bind db.estoque.get).isSome ∧ linha.quantidade.isSome
  vendas : db'.vendas =
    db.vendas.insert (corpo.venda (corpo.linhas.map (Linha.parcela db)).sum)
  pedidos : db'.pedidosDiarios = db.pedidosDiarios.insert
    { clienteNumero := corpo.clienteNumero, status := .novo, vendaId := some db.vendas.next,
      data := db.hoje }
  itens : db'.pedidoItens =
    db.pedidoItens ++ corpo.linhas.map (Linha.item db.pedidosDiarios.next)
  resto : db' = { db with
    vendas := db'.vendas, pedidosDiarios := db'.pedidosDiarios, pedidoItens := db'.pedidoItens }

theorem valorTotal_sum {db : Db} (linhas : List Linha) (inicial : ℚ)
    (complete : ∀ linha ∈ linhas,
      (linha.produtoId.bind db.estoque.get).isSome ∧ linha.quantidade.isSome) :
    valorTotal db (some inicial) linhas =
      some (inicial + (linhas.map (Linha.parcela db)).sum) := by
  induction linhas generalizing inicial with
  | nil => simp [valorTotal]
  | cons linha linhas ih =>
    obtain ⟨⟨stocked, counted⟩, others⟩ := List.forall_mem_cons.mp complete
    obtain ⟨e, row⟩ := Option.isSome_iff_exists.mp stocked
    obtain ⟨quantidade, quantity⟩ := Option.isSome_iff_exists.mp counted
    have parcela : linha.parcela db = e.valorUnitario * quantidade := by
      simp [Linha.parcela, row, quantity]
    have turn : valorTotal db (some inicial) (linha :: linhas) =
        valorTotal db (some (inicial + e.valorUnitario * quantidade)) linhas := by
      simp [valorTotal, row, quantity]
    rw [turn, ih _ others, List.map_cons, List.sum_cons, parcela, add_assoc]

theorem pedidoCriado_comPedido {corpo : CorpoPedido} {db : Db} {total : ℚ}
    (ready : Aceitavel corpo db) (value : valorTotal db (some 0) corpo.linhas = some total) :
    PedidoCriado corpo db (db.comPedido corpo total) := by
  have complete : ∀ linha ∈ corpo.linhas,
      (linha.produtoId.bind db.estoque.get).isSome ∧ linha.quantidade.isSome :=
    fun linha member => ⟨cabe_stocked (ready.1 linha member).1, (ready.1 linha member).2⟩
  rw [valorTotal_sum corpo.linhas 0 complete, zero_add, Option.some.injEq] at value
  rw [comPedido_eq, ← value]
  exact ⟨complete, rfl, rfl, rfl, rfl⟩

theorem recusa_status {corpo : CorpoPedido} {resposta : Resposta}
    (refused : corpo.recusa = some resposta) : resposta.status ≠ 200 := by
  unfold CorpoPedido.recusa at refused
  split_ifs at refused <;> cases refused <;> decide

/-- The order passed the checks and every step of its transaction was answered. -/
def Db.RecebePedido (corpo : CorpoPedido) (db db' : Db) : Prop :=
  corpo.recusa = none ∧ Aceitavel corpo db ∧
    ∃ total, valorTotal db (some 0) corpo.linhas = some total ∧ db' = db.comPedido corpo total

theorem inteira_pedidoManual (corpo : CorpoPedido) (w : Faulty Db) :
    Inteira (Db.RecebePedido corpo) (pedidoManual corpo) w := by
  rw [pedidoManual]
  cases refused : corpo.recusa with
  | some resposta => exact inteira_recusa (recusa_status refused)
  | none =>
    apply inteira_query rfl
    apply inteira_query rfl
    apply inteira_transacao
    intro commits
    obtain ⟨total, value, written⟩ := Tx.executar_pedidoManual commits
    exact ⟨refused, commits.2, total, value, written⟩

/-- A manual order is all or nothing, and exact. -/
theorem pedido_inteiro (corpo : CorpoPedido) (w : Faulty Db) :
    Inteira (PedidoCriado corpo) (pedidoManual corpo) w := by
  apply (inteira_pedidoManual corpo w).mono
  rintro ⟨-, ready, total, value, written⟩
  rw [written]
  exact pedidoCriado_comPedido ready value

end Pedido
end IceClube
