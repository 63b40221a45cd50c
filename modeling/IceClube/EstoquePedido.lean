import IceClube.Passos

/-! Acceptance against the stock. The two checks compare line by line; when they keep each
product of an accepted order within its stock. -/
namespace IceClube

open Coop Prog

/-- How much of a product the lines of a request name. -/
def somaLinhas (linhas : List Linha) (produtoId : Nat) : ℚ :=
  ((linhas.filter (·.produtoId = some produtoId)).map fun linha => linha.quantidade.getD 0).sum

/-- The stock of a product, zero without a row. -/
def Db.emEstoque (db : Db) (produtoId : Nat) : ℚ :=
  match db.estoque.get produtoId with
  | some e => e.quantidade
  | none => 0

def Requisicao.Cabe (db : Db) : Requisicao → Prop
  | .pedidoManual corpo =>
    ∀ produtoId, (∃ linha ∈ corpo.linhas, linha.produtoId = some produtoId) →
      somaLinhas corpo.linhas produtoId ≤ db.emEstoque produtoId
  | .valido corpo =>
    corpo.valido = some 1 →
      ∀ produtoId, (∃ item ∈ db.itensDe corpo.id, item.produtoId = produtoId) →
        somaItens (db.itensDe corpo.id) produtoId ≤ db.emEstoque produtoId
  | _ => True

/-- Whatever statements are rejected, an answer of success keeps the order in the stock. -/
def Requisicao.Respeita (db : Db) (requisicao : Requisicao) : Prop :=
  ∀ faults resposta, (requisicao.rota.run Op.exec ⟨db, faults⟩).1 = .ok resposta →
    resposta.status = 200 → requisicao.Cabe db

/-- If the request passes the checks line by line, a product on several lines still fits,
and an approved order names no product without a row beyond nothing. -/
def Requisicao.Separavel (db : Db) : Requisicao → Prop
  | .pedidoManual corpo =>
    corpo.recusa = none → Aceitavel corpo db →
      ∀ produtoId, 2 ≤ (corpo.linhas.filter (·.produtoId = some produtoId)).length →
        somaLinhas corpo.linhas produtoId ≤ db.emEstoque produtoId
  | .valido corpo =>
    corpo.valido = some 1 → corpo.id ≠ 0 → (Tx.valido corpo).Aceita db →
      ∀ produtoId, 2 ≤ ((db.itensDe corpo.id).filter (·.produtoId = produtoId)).length ∨
          ((∃ item ∈ db.itensDe corpo.id, item.produtoId = produtoId) ∧
            db.estoque.get produtoId = none) →
        somaItens (db.itensDe corpo.id) produtoId ≤ db.emEstoque produtoId
  | _ => True

section Resposta

theorem run_dbQuery {α : Type} {q : Sql} {f : q.Res → Rota α} {w : Faulty Db} {a : α}
    (answer : ((dbQuery q >>= f).run Op.exec w).1 = .ok a) :
    ((f (q.sem w.state).1).run Op.exec ⟨(q.sem w.state).2, w.faults.tail⟩).1 = .ok a := by
  cases fault : w.faults.headD false with
  | true =>
    rw [run_rejeitada q f fault] at answer
    contradiction
  | false => rwa [run_respondida q f fault] at answer

theorem transacao_aceita {t : Tx} {w : Faulty Db} {resposta : Resposta}
    (answer : ((transacao t).run Op.exec w).1 = .ok resposta) (success : resposta.status = 200) :
    t.Aceita w.state := by
  have same : (t.executar w).1 = resposta := Except.ok.inj answer
  rw [← same] at success
  exact ((Tx.status_executar t w).mp success).2

/-- A manual order is accepted exactly when it passes its checks, statements permitting. -/
theorem pedidoManual_aceito (corpo : CorpoPedido) (db : Db) :
    (∃ faults resposta, ((pedidoManual corpo).run Op.exec ⟨db, faults⟩).1 = .ok resposta ∧
      resposta.status = 200) ↔ corpo.recusa = none ∧ Aceitavel corpo db := by
  rw [pedidoManual]
  cases refused : corpo.recusa with
  | some recusa =>
    have client : recusa.status = 400 := by
      rw [CorpoPedido.recusa] at refused
      split_ifs at refused <;> cases refused <;> rfl
    simp only [reduceCtorEq, false_and, iff_false, not_exists, not_and]
    intro faults resposta answer success
    rw [← Except.ok.inj answer, client] at success
    contradiction
  | none =>
    simp only [true_and]
    constructor
    · rintro ⟨faults, resposta, answer, success⟩
      exact transacao_aceita (run_dbQuery (run_dbQuery answer)) success
    · intro accepted
      refine ⟨[], ((Tx.pedidoManual corpo).executar ⟨db, []⟩).1, rfl, ?_⟩
      exact (Tx.status_executar _ _).mpr ⟨calm_nil _, accepted⟩

theorem valido_aceito (corpo : CorpoValido) (db : Db) :
    (∃ faults resposta, ((valido corpo).run Op.exec ⟨db, faults⟩).1 = .ok resposta ∧
      resposta.status = 200) ↔ corpo.id ≠ 0 ∧ (Tx.valido corpo).Aceita db := by
  rw [valido]
  by_cases missing : corpo.id = 0
  · simp only [missing, ↓reduceIte, ne_eq, not_true_eq_false, false_and, iff_false, not_exists,
      not_and]
    intro faults resposta answer success
    rw [← Except.ok.inj answer] at success
    contradiction
  · simp only [missing, ↓reduceIte, ne_eq, not_false_eq_true, true_and]
    constructor
    · rintro ⟨faults, resposta, answer, success⟩
      exact transacao_aceita answer success
    · intro accepted
      refine ⟨[], ((Tx.valido corpo).executar ⟨db, []⟩).1, rfl, ?_⟩
      exact (Tx.status_executar _ _).mpr ⟨calm_nil _, accepted⟩

end Resposta

section Linhas

/-- A line that fits is at most the stock of its product. -/
theorem cabe_le {db : Db} {linha : Linha} {produtoId : Nat} {quantidade : ℚ}
    (fits : linha.cabe db) (product : linha.produtoId = some produtoId)
    (quantity : linha.quantidade = some quantidade) : quantidade ≤ db.emEstoque produtoId := by
  rw [Linha.cabe, product, Option.bind_some] at fits
  rw [Db.emEstoque]
  cases row : db.estoque.get produtoId with
  | none => simp [row] at fits
  | some e => simpa [row, Linha.excede, quantity] using fits

/-- A product on one line only is checked as a whole. -/
theorem umaLinha {db : Db} {linhas : List Linha} {produtoId : Nat}
    (fit : ∀ linha ∈ linhas, linha.cabe db ∧ linha.quantidade.isSome)
    (named : ∃ linha ∈ linhas, linha.produtoId = some produtoId)
    (single : (linhas.filter (·.produtoId = some produtoId)).length < 2) :
    somaLinhas linhas produtoId ≤ db.emEstoque produtoId := by
  obtain ⟨linha, member, product⟩ := named
  have kept : linha ∈ linhas.filter (·.produtoId = some produtoId) := by
    simp [member, product]
  have positive := List.length_pos_of_mem kept
  obtain ⟨only, all⟩ := List.length_eq_one_iff.mp (by omega :
    (linhas.filter (·.produtoId = some produtoId)).length = 1)
  rw [all, List.mem_singleton] at kept
  obtain ⟨quantidade, quantity⟩ := Option.isSome_iff_exists.mp (fit linha member).2
  rw [somaLinhas, all, ← kept]
  simpa [quantity] using cabe_le (fit linha member).1 product quantity

theorem insuficiente_none {db : Db} {id : Nat}
    (enough : insuficiente (db.itensEmEstoque id) = none) :
    ∀ item ∈ db.itensDe id, ∀ e, db.estoque.get item.produtoId = some e →
      item.quantidade ≤ e.quantidade := by
  intro item member e row
  have joined : (⟨item.produtoId, item.quantidade, e.quantidade, e.nome⟩ : ItemEmEstoque) ∈
      db.itensEmEstoque id :=
    List.mem_filterMap.mpr ⟨item, member, by rw [row, Option.map_some]⟩
  simpa using List.find?_eq_none.mp enough _ joined

/-- A stocked product on one item only is checked as a whole. -/
theorem umItem {db : Db} {id produtoId : Nat}
    (enough : insuficiente (db.itensEmEstoque id) = none)
    (named : ∃ item ∈ db.itensDe id, item.produtoId = produtoId)
    (stocked : db.estoque.get produtoId ≠ none)
    (single : ((db.itensDe id).filter (·.produtoId = produtoId)).length < 2) :
    somaItens (db.itensDe id) produtoId ≤ db.emEstoque produtoId := by
  obtain ⟨item, member, product⟩ := named
  have kept : item ∈ (db.itensDe id).filter (·.produtoId = produtoId) := by
    simp [member, product]
  have positive := List.length_pos_of_mem kept
  obtain ⟨only, all⟩ := List.length_eq_one_iff.mp (by omega :
    ((db.itensDe id).filter (·.produtoId = produtoId)).length = 1)
  rw [all, List.mem_singleton] at kept
  obtain ⟨e, row⟩ := Option.ne_none_iff_exists'.mp stocked
  rw [somaItens, all, ← kept, Db.emEstoque, row]
  simpa using insuficiente_none enough item member e (product ▸ row)

end Linhas

theorem respeita_iff (db : Db) (requisicao : Requisicao) :
    requisicao.Respeita db ↔ requisicao.Separavel db := by
  have accepted : requisicao.Respeita db ↔
      ((∃ faults resposta, (requisicao.rota.run Op.exec ⟨db, faults⟩).1 = .ok resposta ∧
        resposta.status = 200) → requisicao.Cabe db) := by
    constructor
    · rintro respects ⟨faults, resposta, answer, success⟩
      exact respects faults resposta answer success
    · exact fun respects faults resposta answer success =>
        respects ⟨faults, resposta, answer, success⟩
  rw [accepted]
  cases requisicao with
  | pedidoManual corpo =>
    rw [Requisicao.rota, pedidoManual_aceito, Requisicao.Separavel, and_imp]
    refine imp_congr_right fun _ => imp_congr_right fun acceptable => ?_
    constructor
    · intro fits produtoId several
      obtain ⟨linha, kept⟩ := List.exists_mem_of_length_pos (by omega :
        0 < (corpo.linhas.filter (·.produtoId = some produtoId)).length)
      have member := List.mem_filter.mp kept
      exact fits produtoId ⟨linha, member.1, by simpa using member.2⟩
    · intro several produtoId named
      by_cases single : (corpo.linhas.filter (·.produtoId = some produtoId)).length < 2
      · exact umaLinha acceptable.1 named single
      · exact several produtoId (by omega)
  | valido corpo =>
    rw [Requisicao.rota, valido_aceito, Requisicao.Separavel]
    constructor
    · intro fits approved given acceptable produtoId delicate
      refine fits ⟨given, acceptable⟩ approved produtoId ?_
      rcases delicate with several | ⟨named, _⟩
      · obtain ⟨item, kept⟩ := List.exists_mem_of_length_pos (by omega :
          0 < ((db.itensDe corpo.id).filter (·.produtoId = produtoId)).length)
        have member := List.mem_filter.mp kept
        exact ⟨item, member.1, by simpa using member.2⟩
      · exact named
    · rintro delicate ⟨given, acceptable⟩ approved produtoId named
      by_cases single : ((db.itensDe corpo.id).filter (·.produtoId = produtoId)).length < 2
      · by_cases stocked : db.estoque.get produtoId = none
        · exact delicate approved given acceptable produtoId (.inr ⟨named, stocked⟩)
        · rcases acceptable with denied | ⟨_, enough⟩
          · rw [approved] at denied
            exact absurd denied (by decide)
          · exact umItem enough named stocked single
      · exact delicate approved given acceptable produtoId (.inl (by omega))
  | alterarStatus corpo => exact ⟨fun _ => trivial, fun _ _ => trivial⟩
  | lancamentos corpo => exact ⟨fun _ => trivial, fun _ _ => trivial⟩
  | editarItens corpo => exact ⟨fun _ => trivial, fun _ _ => trivial⟩
  | enviarParaEntrega rota => exact ⟨fun _ => trivial, fun _ _ => trivial⟩
  | atribuirEntregas corpo => exact ⟨fun _ => trivial, fun _ _ => trivial⟩

/-- Ten ice creams, and order 1 for two products that are no longer sold. -/
def freezer : Db :=
  { estoque := .ofList [{ nome := "Picolé", quantidade := 10, medida := "un", valorUnitario := 5 }]
    pedidosDiarios := .ofList [{ clienteNumero := "5511999990000", status := .novo }]
    pedidoItens := [⟨1, 7, 2⟩] }

def linhasRepetidas : CorpoPedido where
  clienteNumero := "5511999990000"
  formaPagamento := "pix"
  itens := .lista [⟨some 1, some 6⟩, ⟨some 1, some 6⟩]

theorem linhas_repetidas :
    ¬ (Requisicao.pedidoManual linhasRepetidas).Respeita freezer ∧
      ¬ (Requisicao.valido ⟨1, some 1⟩).Respeita freezer := by
  constructor
  · intro respects
    have fits := respects [] ⟨200, "Pedido criado com sucesso!", some 2⟩ (by decide +kernel) rfl
      1 ⟨_, List.mem_cons_self, rfl⟩
    exact absurd fits (by decide +kernel)
  · intro respects
    have fits := respects [] ⟨200, "OK", none⟩ (by decide +kernel) rfl rfl 7
      ⟨_, List.mem_cons_self, rfl⟩
    exact absurd fits (by decide +kernel)

end IceClube
