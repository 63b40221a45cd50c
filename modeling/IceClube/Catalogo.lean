import IceClube.Almoxarifado
import IceClube.Linked
import IceClube.PrecoDoPedido
import IceClube.Translation

/-! The routes that add products to the stock, delete them and give them other identifiers, beside
the routes of the orders, whose items name the products. -/
namespace IceClube

open Coop Prog

/-- The body of `POST /api/estoque`; a missing text is empty. -/
structure CorpoItem where
  nome : String
  quantidade : Option ℚ
  medida : String
  descricao : String
  preco : Option ℚ
  categoria : String
  deriving DecidableEq, Repr

/-- The field `id` in the body of `PATCH /api/estoque/:id`, a number or the text of one. -/
inductive IdNovo where
  | numero (n : Nat)
  | texto (n : Nat)
  deriving DecidableEq, Repr

inductive SqlCatalogo where
  | insertEstoque (item : Estoque)
  | selectId (id : Nat)
  | updateEstoque (currentId id : Nat) (quantidade : ℚ) (edicao : Edicao)
  | deleteEstoque (id : Nat)

/-- The identifier inserted, whether there is a row, or the number of affected rows; `none` is an
identifier in use. -/
@[reducible] def SqlCatalogo.Res : SqlCatalogo → Type
  | .insertEstoque _ => Nat
  | .selectId _ => Bool
  | .updateEstoque .. => Option Nat
  | .deleteEstoque _ => Nat

def Edicao.item (edicao : Edicao) (quantidade : ℚ) (e : Estoque) : Estoque :=
  { e with nome := edicao.nome, quantidade := quantidade, valorUnitario := edicao.preco }

/-- The row keeps its identifier, or it takes a free one. -/
def Db.trocarItem (currentId id : Nat) (quantidade : ℚ) (edicao : Edicao) (db : Db) : Db :=
  if (db.estoque.get currentId).isNone then db
  else if id = currentId then
    { db with estoque := db.estoque.modify id (edicao.item quantidade) }
  else if (db.estoque.get id).isSome then db
  else { db with estoque := db.estoque.move currentId id (edicao.item quantidade) }

def SqlCatalogo.sem : (q : SqlCatalogo) → Db → q.Res × Db
  | .insertEstoque item, db =>
    (db.estoque.next, { db with estoque := db.estoque.insert item })
  | .selectId id, db => ((db.estoque.get id).isSome, db)
  | .updateEstoque currentId id quantidade edicao, db =>
    let affectedRows : Option Nat :=
      if (db.estoque.get currentId).isNone then some 0
      else if id ≠ currentId ∧ (db.estoque.get id).isSome then none
      else some 1
    (affectedRows, db.trocarItem currentId id quantidade edicao)
  | .deleteEstoque id, db =>
    (if (db.estoque.get id).isSome then (1 : Nat) else (0 : Nat),
      { db with estoque := db.estoque.erase id })

inductive OpCatalogo where
  | estoque (o : OpEstoque)
  | catalogo (q : SqlCatalogo)

@[reducible] def OpCatalogo.Res : OpCatalogo → Type
  | .estoque o => o.Res
  | .catalogo q => q.Res

def OpCatalogo.exec : Exec String OpCatalogo.Res (Faulty Db)
  | .estoque o, w => OpEstoque.exec o w
  | .catalogo q, w => Faulty.exec SqlCatalogo.sem Tx.rejeicao q w

def OpCatalogo.aceita (w : Faulty Db) : OpCatalogo → Bool
  | .estoque o => o.aceita w
  | .catalogo _ => !w.faults.headD false

section Rotas

abbrev RotaCatalogo := Prog String OpCatalogo.Res

abbrev sqlCatalogo (q : SqlCatalogo) : RotaCatalogo q.Res := ask (OpCatalogo.catalogo q)

def noCatalogo {α : Type} (rota : RotaEstoque α) : RotaCatalogo α :=
  through (fun o => attempt (OpCatalogo.estoque o)) rota

def CorpoItem.item (corpo : CorpoItem) (quantidade preco : ℚ) : Estoque :=
  ⟨corpo.nome, quantidade, corpo.medida, preco⟩

/-- `POST /api/estoque`; the description is stored in a column that nothing here reads. -/
def postEstoque (corpo : CorpoItem) : RotaCatalogo Resposta :=
  let faltam : RotaCatalogo Resposta := pure ⟨400, "Todos os campos são obrigatórios", none⟩
  if corpo.nome = "" ∨ corpo.categoria = "" ∨ corpo.descricao = "" ∨ corpo.medida = "" then faltam
  else
    match corpo.quantidade, corpo.preco with
    | some quantidade, some preco =>
      let gravar : RotaCatalogo Resposta := do
        let insertId ← sqlCatalogo (.insertEstoque (corpo.item quantidade preco))
        pure ⟨201, "Item adicionado com sucesso", some insertId⟩
      gravar.handle fun _ => pure ⟨500, "Erro ao adicionar item", none⟩
    | _, _ => faltam

/-- `newId && newId !== currentId`; the identifier in the path is a text, so that a number never
equals it. -/
def IdNovo.outro (currentId : Nat) : IdNovo → Bool
  | numero n => n ≠ 0
  | texto n => n ≠ currentId

/-- `newId || currentId`. -/
def idGravado (currentId : Nat) : Option IdNovo → Nat
  | none | some (.numero 0) => currentId
  | some (.numero n) | some (.texto n) => n

/-- `PATCH /api/estoque/:id`, whatever identifier its body names. -/
def patchEstoqueComId (currentId : Nat) (newId : Option IdNovo) (quantidade : ℚ)
    (edicao : Edicao) : RotaCatalogo Resposta :=
  if edicao.nome = "" ∨ edicao.categoria = "" then
    pure ⟨400, "Nome, quantidade, preço e categoria são obrigatórios", none⟩
  else
    let id := idGravado currentId newId
    let gravar : RotaCatalogo Resposta := do
      match ← sqlCatalogo (.updateEstoque currentId id quantidade edicao) with
      | none => fail "ER_DUP_ENTRY"
      | some 0 => pure ⟨404, "Item não encontrado", none⟩
      | some _ => pure ⟨200, "Item atualizado com sucesso", none⟩
    let conferir : RotaCatalogo Resposta :=
      if newId.any (IdNovo.outro currentId) then do
        let existing ← sqlCatalogo (.selectId id)
        if existing then pure ⟨400, "Novo ID já está em uso", none⟩ else gravar
      else gravar
    conferir.handle fun _ => pure ⟨500, "Erro ao atualizar item", none⟩

/-- `DELETE /api/estoque/:id`. -/
def deleteEstoque (id : Nat) : RotaCatalogo Resposta :=
  let apagar : RotaCatalogo Resposta := do
    let affectedRows ← sqlCatalogo (.deleteEstoque id)
    if affectedRows = 0 then pure ⟨404, "Item não encontrado", none⟩
    else pure ⟨200, "Item deletado com sucesso", none⟩
  apagar.handle fun _ => pure ⟨500, "Erro ao deletar item", none⟩

end Rotas

inductive ReqCatalogo where
  | pedidos (requisicao : Requisicao)
  | estoque (requisicao : ReqEstoque)
  | postEstoque (corpo : CorpoItem)
  | patchEstoque (currentId : Nat) (newId : Option IdNovo) (quantidade : ℚ) (edicao : Edicao)
  | deleteEstoque (id : Nat)
  deriving DecidableEq, Repr

def ReqCatalogo.rota : ReqCatalogo → RotaCatalogo Resposta
  | pedidos requisicao => noCatalogo (noEstoque requisicao.rota)
  | estoque requisicao => noCatalogo requisicao.rota
  | postEstoque corpo => IceClube.postEstoque corpo
  | patchEstoque currentId newId quantidade edicao =>
    patchEstoqueComId currentId newId quantidade edicao
  | deleteEstoque id => IceClube.deleteEstoque id

/-- A transaction is one step: its plain SELECTs take no lock, so that in the database a deletion can
come between its check of the stock and its items. Runs are those where none does. -/
def catalogo : System ReqCatalogo Nat String OpCatalogo.Res Resposta (Faulty Db) where
  exec := OpCatalogo.exec
  sync _ := false
  listeners requisicao := [requisicao.rota]
  drift dt w := ⟨{ w.state with agora := w.state.agora + dt }, w.faults⟩

abbrev Catalogo := Config String OpCatalogo.Res Resposta (Faulty Db)

abbrev PassoCatalogo := Action ReqCatalogo Nat

namespace Catalogo

variable {c : Catalogo} {a : PassoCatalogo}

abbrev db (c : Catalogo) : Db := c.state.state

/-- The call that takes effect in a step: issued and not rejected. -/
def Efetua (c : Catalogo) (a : PassoCatalogo) (o : OpCatalogo) : Prop :=
  c.issued a = some o ∧ o.aceita c.state = true

def Faz (db db' : Db) : OpCatalogo → Prop
  | .estoque (.rota (.sql q)) => db' = (q.sem db).2
  | .estoque (.rota (.tx t)) => t.Aceita db ∧ t.Grava db db'
  | .estoque (.tela q) => db' = (q.sem db).2
  | .catalogo q => db' = (q.sem db).2

theorem exec_aceita {o : OpCatalogo} {w : Faulty Db} (accepted : o.aceita w = true) :
    Faz w.state (o.exec w).2.state o := by
  rcases o with ((q | t) | q) | q
  · have fault : w.faults.headD false = false := (Bool.not_eq_true' _).mp accepted
    simp only [OpCatalogo.exec, OpEstoque.exec, Op.exec, Faulty.exec_answered q fault]
    rfl
  · have commits := (Tx.status_executar t w).mp (of_decide_eq_true accepted)
    exact ⟨commits.2, (Tx.executar_confirma commits).2⟩
  · have fault : w.faults.headD false = false := (Bool.not_eq_true' _).mp accepted
    simp only [OpCatalogo.exec, OpEstoque.exec, Faulty.exec_answered q fault]
    rfl
  · have fault : w.faults.headD false = false := (Bool.not_eq_true' _).mp accepted
    simp only [OpCatalogo.exec, Faulty.exec_answered q fault]
    rfl

theorem exec_recusada {o : OpCatalogo} {w : Faulty Db} (refused : o.aceita w = false) :
    w.state.MesmasLinhas (o.exec w).2.state := by
  rcases o with ((q | t) | q) | q
  · have fault : w.faults.headD false = true := (Bool.not_eq_false' _).mp refused
    simp only [OpCatalogo.exec, OpEstoque.exec, Op.exec, Faulty.exec_rejected q fault]
    exact .refl _
  · have declined := mt (Tx.status_executar t w).mpr (of_decide_eq_false refused)
    exact (Tx.executar_recusa declined).2
  · have fault : w.faults.headD false = true := (Bool.not_eq_false' _).mp refused
    simp only [OpCatalogo.exec, OpEstoque.exec, Faulty.exec_rejected q fault]
    exact .refl _
  · have fault : w.faults.headD false = true := (Bool.not_eq_false' _).mp refused
    simp only [OpCatalogo.exec, Faulty.exec_rejected q fault]
    exact .refl _

/-- A property of the rows holds after a step exactly when the call that takes effect establishes
it. -/
theorem step_iff {P : Db → Prop} {C : OpCatalogo → Prop}
    (still : ∀ agora depois, P (Db.desfeito { c.db with agora := agora } depois))
    (effect : ∀ o db', Faz c.db db' o → (P db' ↔ C o)) :
    P (db (catalogo.advance a c)) ↔ ∀ o, c.Efetua a o → C o := by
  have clock (agora : Nat) : P { c.db with agora := agora } := by
    have kept := still agora { c.db with agora := agora }
    rwa [Db.desfeito_self] at kept
  have here : P c.state.state := clock c.db.agora
  have called := System.step_iff_async (M := catalogo) (P := fun w : Faulty Db => P w.state)
    (C := fun o => o.aceita c.state = true → C o) (a := a) (fun _ => rfl) here
    (fun _ => clock _) fun o issued => by
      cases accepted : o.aceita c.state with
      | true => exact (effect o _ (exec_aceita accepted)).trans (by simp)
      | false =>
        obtain ⟨depois, same⟩ := exec_recusada accepted
        rw [show (catalogo.exec o c.state).2.state = _ from same]
        exact iff_of_true (still c.db.agora depois) fun taken => by cases taken
  rw [db, called]
  exact ⟨fun all o done => all o done.1 done.2, fun all o issued taken => all o ⟨issued, taken⟩⟩

end Catalogo

section Itens

variable {db db' : Db}

def Db.ItensPresentes (db : Db) : Prop := db.estoque.Linked PedidoItem.produtoId db.pedidoItens

instance (db : Db) : Decidable db.ItensPresentes :=
  inferInstanceAs (Decidable (db.estoque.Linked _ _))

/-- What a call must find to leave every item its product: the edit of an order stores any
product, and neither a deletion nor a new identifier asks for the orders. -/
def OpCatalogo.Prende (db : Db) : OpCatalogo → Prop
  | .estoque (.rota (.sql (.insertItem _ produtoId _))) => (db.estoque.get produtoId).isSome = true
  | .catalogo (.deleteEstoque id) => ∀ item ∈ db.pedidoItens, item.produtoId ≠ id
  | .catalogo (.updateEstoque currentId id _ _) =>
    id = currentId ∨ (db.estoque.get id).isSome = true ∨
      ∀ item ∈ db.pedidoItens, item.produtoId ≠ currentId
  | _ => True

theorem presentes_congr (itens : db'.pedidoItens = db.pedidoItens)
    (rows : ∀ id, (db'.estoque.get id).isSome = (db.estoque.get id).isSome) :
    db'.ItensPresentes ↔ db.ItensPresentes := by
  rw [Db.ItensPresentes, Db.ItensPresentes, itens]
  exact Table.linked_congr rows

theorem presentes_modify (all : db.ItensPresentes) {id : Nat} {f : Estoque → Estoque}
    (itens : db'.pedidoItens = db.pedidoItens) (rows : db'.estoque = db.estoque.modify id f) :
    db'.ItensPresentes := by
  refine (presentes_congr itens fun other => ?_).mpr all
  rw [rows, Table.isSome_modify]

theorem presentes_sql (all : db.ItensPresentes) (q : Sql) :
    (q.sem db).2.ItensPresentes ↔ (OpCatalogo.estoque (.rota (.sql q))).Prende db := by
  cases q with
  | deleteItens pedidoId =>
    exact iff_of_true (Table.Linked.mono all fun _ => List.mem_of_mem_filter) trivial
  | insertItem pedidoId produtoId quantidade =>
    show db.estoque.Linked _ (db.pedidoItens ++ [⟨pedidoId, produtoId, quantidade⟩]) ↔ _
    rw [Table.linked_append]
    exact (and_iff_right all).trans List.forall_mem_singleton
  | somaEstoque quantidade id =>
    exact iff_of_true (presentes_modify all rfl rfl) trivial
  | insertEntregaSelect entregadorId pedidoId =>
    refine iff_of_true ?_ trivial
    simp only [Sql.sem]
    split <;> exact all
  | _ => exact iff_of_true all trivial

theorem pedidoItens_comLancamento (corpo : CorpoLancamento) (db : Db) :
    (db.comLancamento corpo).pedidoItens = db.pedidoItens := by
  rw [Db.comLancamento]
  split
  · exact foldl_frame (f := Db.comRetorno _ _) Db.pedidoItens (fun _ _ => rfl) _ _
  · rfl

theorem isSome_comLancamento (corpo : CorpoLancamento) (db : Db) (id : Nat) :
    ((db.comLancamento corpo).estoque.get id).isSome = (db.estoque.get id).isSome := by
  rw [Db.comLancamento]
  split
  · rw [estoque_devolvido, Option.isSome_map]
    rfl
  · rfl

theorem presentes_comPedido (all : db.ItensPresentes) {corpo : CorpoPedido}
    (accepted : Aceitavel corpo db) (total : ℚ) : (db.comPedido corpo total).ItensPresentes := by
  rw [Db.ItensPresentes, estoque_comPedido, pedidoItens_comPedido, Table.linked_append]
  refine ⟨all, fun item member => ?_⟩
  obtain ⟨linha, line, rfl⟩ := List.mem_map.mp member
  have stocked := cabe_stocked (accepted.1 linha line).1
  rw [Linha.item]
  cases product : linha.produtoId with
  | none => simp [product] at stocked
  | some produtoId => simpa [product] using stocked

theorem presentes_tx (all : db.ItensPresentes) (t : Tx) (accepted : t.Aceita db)
    (written : t.Grava db db') : db'.ItensPresentes := by
  cases t with
  | valido corpo =>
    obtain rfl := written
    exact all
  | lancamento corpo =>
    obtain rfl := written
    exact (presentes_congr (pedidoItens_comLancamento corpo db)
      (isSome_comLancamento corpo db)).mpr all
  | pedidoManual corpo =>
    obtain ⟨total, rfl⟩ := written
    exact presentes_comPedido all accepted total

theorem presentes_catalogo (all : db.ItensPresentes) (q : SqlCatalogo) :
    (q.sem db).2.ItensPresentes ↔ (OpCatalogo.catalogo q).Prende db := by
  cases q with
  | insertEstoque item => exact iff_of_true (Table.Linked.insert all item) trivial
  | selectId id => exact iff_of_true all trivial
  | deleteEstoque id => exact Table.linked_erase all id
  | updateEstoque currentId id quantidade edicao =>
    show (db.trocarItem currentId id quantidade edicao).ItensPresentes ↔ _ ∨ _ ∨ _
    rw [Db.trocarItem]
    by_cases missing : (db.estoque.get currentId).isNone = true
    · rw [if_pos missing]
      refine iff_of_true all (.inr (.inr fun item member same => ?_))
      have row := all item member
      rw [same, Option.isSome_iff_ne_none] at row
      exact row (Option.isNone_iff_eq_none.mp missing)
    · rw [if_neg missing]
      by_cases same : id = currentId
      · rw [if_pos same]
        exact iff_of_true (presentes_modify all rfl rfl) (.inl same)
      · rw [if_neg same]
        cases used : (db.estoque.get id).isSome with
        | true => exact iff_of_true all (.inr (.inl rfl))
        | false =>
          have found : (db.estoque.get currentId).isSome = true := by
            simpa [Option.isSome_iff_ne_none] using missing
          simp only [Bool.false_eq_true, ↓reduceIte, same, false_or]
          exact Table.linked_move all _ found same

theorem presentes_faz (all : db.ItensPresentes) (o : OpCatalogo) (done : Catalogo.Faz db db' o) :
    db'.ItensPresentes ↔ o.Prende db := by
  rcases o with ((q | t) | q) | q
  · obtain rfl : db' = _ := done
    exact presentes_sql all q
  · exact iff_of_true (presentes_tx all t done.1 done.2) trivial
  · obtain rfl : db' = _ := done
    refine iff_of_true ?_ trivial
    cases q with
    | selectItem id => exact all
    | updateItem id quantidade edicao =>
      exact presentes_modify all rfl rfl
  · obtain rfl : db' = _ := done
    exact presentes_catalogo all q

variable (c : Catalogo) (passos : List PassoCatalogo)

/-- Along every run in which nothing comes between the statements of one transaction, the items keep
their products exactly as long as no call that takes effect deletes or renumbers a product that an
item names or stores an item of a product without row. -/
theorem itens_sempre_presentes_iff :
    (∀ pre post, passos = pre ++ post →
      (Catalogo.db (catalogo.execute pre c)).ItensPresentes) ↔
      c.db.ItensPresentes ∧
        catalogo.Runs (fun c a => ∀ o, Catalogo.Efetua c a o → o.Prende c.state.state)
          passos c := by
  refine System.always_iff_runs (I := fun w : Faulty Db => w.state.ItensPresentes) fun c a all => ?_
  exact Catalogo.step_iff (C := OpCatalogo.Prende c.state.state) (fun _ _ => all)
    fun o _ => presentes_faz all o

/-- An approval compares an item with the stock only if its product has a row. -/
theorem aprova_iff (db : Db) (corpo : CorpoValido) (approves : corpo.valido ≠ some 0) :
    ((Tx.valido corpo).executar ⟨db, []⟩).1.status = 200 ↔
      (db.pedidosDiarios.get corpo.id).isSome = true ∧ ∀ item ∈ db.itensDe corpo.id,
        ∀ e, db.estoque.get item.produtoId = some e → item.quantidade ≤ e.quantidade := by
  rw [Tx.status_executar, Tx.Confirma, and_iff_right (calm_nil _), Tx.Aceita,
    or_iff_right approves]
  refine and_congr_right fun _ => ?_
  simp only [insuficiente, List.find?_eq_none, Db.itensEmEstoque, List.mem_filterMap,
    Option.map_eq_some_iff, decide_eq_true_eq, gt_iff_lt, not_lt]
  constructor
  · exact fun all item member e found => all _ ⟨item, member, e, found, rfl⟩
  · rintro all _ ⟨item, member, e, found, rfl⟩
    exact all item member e found

/-- A return puts back all items or none. -/
theorem devolve_iff (db : Db) (corpo : CorpoLancamento) {id : Nat}
    (named : naoZero corpo.pedidoId = some id) :
    ((Tx.lancamento corpo).executar ⟨db, []⟩).1.status = 200 ↔ Devolvivel db id := by
  rw [Tx.status_executar, Tx.Confirma, and_iff_right (calm_nil _), Tx.Aceita, Lancavel, named]
  exact ⟨fun all => all id rfl, fun one _ same => Option.some.inj same ▸ one⟩

variable {c passos}

/-- At every moment of such a run an approval that is made at once compares each item of its order
with the stock, and every order that has items can be returned. -/
theorem aprova_e_devolve (present : c.db.ItensPresentes)
    (holds : catalogo.Runs (fun c a => ∀ o, Catalogo.Efetua c a o → o.Prende c.state.state)
      passos c) {pre post : List PassoCatalogo} (split : passos = pre ++ post) :
    let db := Catalogo.db (catalogo.execute pre c)
    (∀ corpo : CorpoValido, corpo.valido ≠ some 0 →
      (((Tx.valido corpo).executar ⟨db, []⟩).1.status = 200 ↔
        (db.pedidosDiarios.get corpo.id).isSome = true ∧ ∀ item ∈ db.itensDe corpo.id,
          ∃ e, db.estoque.get item.produtoId = some e ∧ item.quantidade ≤ e.quantidade)) ∧
    ∀ (corpo : CorpoLancamento) (id : Nat), naoZero corpo.pedidoId = some id →
      (((Tx.lancamento corpo).executar ⟨db, []⟩).1.status = 200 ↔
        (db.pedidosDiarios.get id).isSome = true ∧ db.itensDe id ≠ []) := by
  intro db
  have all : db.ItensPresentes :=
    (itens_sempre_presentes_iff c passos).mpr ⟨present, holds⟩ pre post split
  have rows (id : Nat) : ∀ item ∈ db.itensDe id, (db.estoque.get item.produtoId).isSome = true :=
    fun item member => all item (List.mem_of_mem_filter member)
  refine ⟨fun corpo approves => ?_, fun corpo id named => ?_⟩
  · rw [aprova_iff db corpo approves]
    refine and_congr_right fun _ => forall₂_congr fun item member => ?_
    obtain ⟨e, found⟩ := Option.isSome_iff_exists.mp (rows corpo.id item member)
    simp [found]
  · rw [devolve_iff db corpo named, Devolvivel]
    exact and_congr_right fun _ => and_iff_left (rows id)

def doisProdutos : Db where
  estoque := Table.ofList [⟨"coco", 5, "un", 4⟩, ⟨"uva", 5, "un", 4⟩]
  pedidosDiarios := Table.ofList [⟨"5511", .falha, some 1, none, false, 0⟩]
  pedidoItens := [⟨1, 1, 2⟩]

def apagaUva : List PassoCatalogo := [.arrive (.deleteEstoque 2), .step 0]

theorem aprova_e_devolve_doisProdutos :
    let db := Catalogo.db (catalogo.execute apagaUva ⟨⟨doisProdutos, []⟩, []⟩)
    db.estoque.get 2 = none ∧ ((Tx.lancamento ⟨"quebrou", "", "2024-01-01", "", some 1,
      none⟩).executar ⟨db, []⟩).1.status = 200 := by
  refine ⟨by decide +kernel, ?_⟩
  have holds : catalogo.Runs (fun c a => ∀ o, Catalogo.Efetua c a o → o.Prende c.state.state)
      apagaUva ⟨⟨doisProdutos, []⟩, []⟩ := by
    refine ⟨fun o done => (by cases done.1), fun o done => ?_, trivial⟩
    obtain rfl := Option.some.inj done.1
    show ∀ item ∈ doisProdutos.pedidoItens, item.produtoId ≠ 2
    decide
  have present : doisProdutos.ItensPresentes := by decide +kernel
  have both := aprova_e_devolve present holds (List.append_nil apagaUva).symm
  exact (both.2 _ 1 rfl).mpr ⟨by decide +kernel, by decide +kernel⟩

end Itens
end IceClube
