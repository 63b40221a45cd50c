import IceClube.Passos

/-! Returns. When the items of an order are put back into the stock by at most one
committed return over a whole run. -/
namespace IceClube

open Coop Prog

/-- What the routes issue outside a transaction: none of it marks an order as returned or
changes the stock. -/
def Op.Avulso : Op → Prop
  | .sql (.updateStatus status _) => status ≠ .devolvido
  | .sql (.updateValido ..) => False
  | .sql (.somaEstoque ..) => False
  | .sql (.insertPedido ..) => False
  | _ => True

theorem novoStatus_ne_devolvido :
    ∀ statusAtual ∈ validStatuses, novoStatus statusAtual ≠ .devolvido := by decide

section Rotas

theorem avulso_alterarStatus (corpo : CorpoStatus) : (alterarStatus corpo).Calls Op.Avulso := by
  rw [alterarStatus]
  split
  · trivial
  split
  · trivial
  · rename_i statusAtual _ invalid
    rw [not_or, not_not] at invalid
    refine calls_handle (calls_bind ?_ fun affectedRows => ?_) fun _ => trivial
    · exact (calls_ask _).mpr (novoStatus_ne_devolvido statusAtual invalid.2)
    · split
      · trivial
      · exact calls_bind ((calls_ask _).mpr trivial) fun _ => trivial

theorem avulso_valido (corpo : CorpoValido) : (valido corpo).Calls Op.Avulso := by
  rw [valido]
  split
  · trivial
  · exact (calls_ask _).mpr trivial

theorem avulso_lancamentos (corpo : CorpoLancamento) : (lancamentos corpo).Calls Op.Avulso := by
  rw [lancamentos]
  split
  · trivial
  · exact calls_bind ((calls_ask _).mpr trivial) fun _ => (calls_ask _).mpr trivial

theorem avulso_pedidoManual (corpo : CorpoPedido) : (pedidoManual corpo).Calls Op.Avulso := by
  rw [pedidoManual]
  split
  · trivial
  · exact calls_bind ((calls_ask _).mpr trivial) fun _ =>
      calls_bind ((calls_ask _).mpr trivial) fun _ => (calls_ask _).mpr trivial

theorem avulso_regravarItem (pedidoId : Nat) (linha : Linha) :
    (regravarItem pedidoId linha).Calls Op.Avulso := by
  rw [regravarItem]
  split
  · split
    · exact (calls_ask _).mpr trivial
    · trivial
  · trivial

theorem avulso_editarItens (corpo : CorpoItens) : (editarItens corpo).Calls Op.Avulso := by
  rw [editarItens]
  split
  · refine calls_handle (calls_bind ((calls_ask _).mpr trivial) fun _ => ?_) fun _ => trivial
    exact calls_bind (calls_each (avulso_regravarItem _) _) fun _ => trivial
  · trivial

theorem avulso_enviarParaEntrega (rota : Option Nat) :
    (enviarParaEntrega rota).Calls Op.Avulso := by
  refine calls_handle (calls_bind ((calls_ask _).mpr trivial) fun pedidos => ?_) fun _ => trivial
  exact calls_bind (calls_each (fun _ => (calls_ask _).mpr trivial) _) fun _ => trivial

theorem avulso_atribuirEntregas (corpo : CorpoAtribuir) :
    (atribuirEntregas corpo).Calls Op.Avulso := by
  rw [atribuirEntregas]
  split
  · refine calls_handle (calls_bind (calls_each (fun pedidoId => ?_) _) fun _ => trivial)
      fun _ => trivial
    exact calls_bind ((calls_ask _).mpr trivial) fun _ => (calls_ask _).mpr trivial
  · trivial

theorem avulso_rota (requisicao : Requisicao) : requisicao.rota.Calls Op.Avulso := by
  cases requisicao with
  | alterarStatus corpo => exact avulso_alterarStatus corpo
  | valido corpo => exact avulso_valido corpo
  | lancamentos corpo => exact avulso_lancamentos corpo
  | pedidoManual corpo => exact avulso_pedidoManual corpo
  | editarItens corpo => exact avulso_editarItens corpo
  | enviarParaEntrega rota => exact avulso_enviarParaEntrega rota
  | atribuirEntregas corpo => exact avulso_atribuirEntregas corpo

end Rotas

def Servidor.Regular (c : Servidor) : Prop := ∀ p ∈ c.tasks, p.Calls Op.Avulso

theorem regular_advance {c : Servidor} (regular : c.Regular) (a : Passo) :
    Servidor.Regular (servidor.advance a c) :=
  System.calls_advance (fun _ => rfl)
    (fun requisicao _ member => List.mem_singleton.mp member ▸ avulso_rota requisicao) regular a

def JaDevolvido (db : Db) (pedidoId : Nat) : Prop :=
  ∃ p, db.pedidosDiarios.get pedidoId = some p ∧ p.status = .devolvido

def Servidor.Devolve (c : Servidor) (a : Passo) (pedidoId : Nat) : Prop :=
  ∃ corpo, c.Efetua a (.tx (.lancamento corpo)) ∧ naoZero corpo.pedidoId = some pedidoId

section Passo

variable {c : Servidor} {a : Passo} {pedidoId : Nat}

theorem devolve_depois (returned : c.Devolve a pedidoId) :
    JaDevolvido (Servidor.db (servidor.advance a c)) pedidoId := by
  obtain ⟨corpo, effect, named⟩ := returned
  have accepted : Devolvivel c.db pedidoId := effect.2.2 pedidoId named
  obtain ⟨p, found⟩ := Option.isSome_iff_exists.mp accepted.1
  have written := (congrArg Db.pedidosDiarios (Servidor.efetua_tx effect)).trans
    (pedidos_comLancamento corpo c.db)
  rw [named] at written
  refine ⟨{ p with status := .devolvido }, ?_, rfl⟩
  rw [written, Table.get_modify, if_pos rfl, found, Option.map_some]

theorem jaDevolvido_modify {db db' : Db} {id : Nat} {other : Nat} (f : Pedido → Pedido)
    (written : db'.pedidosDiarios = db.pedidosDiarios.modify id f)
    (value : ∀ p, (f p).status ≠ .devolvido) (after : JaDevolvido db' other) :
    JaDevolvido db other := by
  obtain ⟨p, found, status⟩ := after
  rw [written, Table.get_modify] at found
  by_cases here : other = id
  · rw [if_pos here, Option.map_eq_some_iff] at found
    obtain ⟨old, _, rfl⟩ := found
    exact absurd status (value old)
  · rw [if_neg here] at found
    exact ⟨p, found, status⟩

theorem jaDevolvido_sql {db : Db} {q : Sql} (alone : (Op.sql q).Avulso)
    (after : JaDevolvido (q.sem db).2 pedidoId) : JaDevolvido db pedidoId := by
  cases q with
  | updateStatus status id =>
    exact jaDevolvido_modify (fun p => { p with status := status }) rfl (fun _ => alone) after
  | updateRua id =>
    exact jaDevolvido_modify (fun p => { p with status := .rua }) rfl (fun _ => by simp) after
  | updateValido valido status id => exact alone.elim
  | somaEstoque quantidade id => exact alone.elim
  | insertPedido clienteNumero vendaId => exact alone.elim
  | insertEntregaSelect entregadorId id =>
    simp only [Sql.sem] at after
    split at after <;> exact after
  | _ => exact after

theorem jaDevolvido_antes (regular : c.Regular)
    (after : JaDevolvido (Servidor.db (servidor.advance a c)) pedidoId) :
    JaDevolvido c.db pedidoId ∨ c.Devolve a pedidoId := by
  by_cases silent : ∃ o, c.Efetua a o
  · obtain ⟨o, effect⟩ := silent
    cases o with
    | sql q =>
      rw [Servidor.efetua_sql effect] at after
      exact .inl (jaDevolvido_sql (issued_calls regular effect.1) after)
    | tx t =>
      have written := Servidor.efetua_tx effect
      cases t with
      | valido corpo =>
        refine .inl (jaDevolvido_modify _ (congrArg Db.pedidosDiarios written) (fun p => ?_) after)
        dsimp only
        split <;> simp
      | pedidoManual corpo =>
        obtain ⟨total, written⟩ := written
        obtain ⟨p, found, status⟩ := after
        rw [written, pedidos_comPedido, Db.novoPedido, Table.get_insert] at found
        split at found
        · rw [Option.some.injEq] at found
          subst found
          contradiction
        · exact .inl ⟨p, found, status⟩
      | lancamento corpo =>
        have written := (congrArg Db.pedidosDiarios written).trans
          (pedidos_comLancamento corpo c.db)
        cases named : naoZero corpo.pedidoId with
        | none =>
          rw [named] at written
          obtain ⟨p, found, status⟩ := after
          rw [written] at found
          exact .inl ⟨p, found, status⟩
        | some id =>
          by_cases here : pedidoId = id
          · exact .inr ⟨corpo, effect, here ▸ named⟩
          · rw [named] at written
            obtain ⟨p, found, status⟩ := after
            rw [written, Table.get_modify, if_neg here] at found
            exact .inl ⟨p, found, status⟩
  · obtain ⟨agora, depois, same⟩ := Servidor.efetua_none (not_exists.mp silent)
    rw [same] at after
    exact .inl after

theorem estoque_step (regular : c.Regular) (kept : ∀ id, ¬ c.Devolve a id) :
    (Servidor.db (servidor.advance a c)).estoque = c.db.estoque := by
  by_cases silent : ∃ o, c.Efetua a o
  · obtain ⟨o, effect⟩ := silent
    cases o with
    | sql q =>
      rw [Servidor.efetua_sql effect]
      have alone : (Op.sql q).Avulso := issued_calls regular effect.1
      cases q with
      | somaEstoque quantidade id => exact alone.elim
      | insertEntregaSelect entregadorId id =>
        simp only [Sql.sem]
        split <;> rfl
      | _ => rfl
    | tx t =>
      have written := Servidor.efetua_tx effect
      cases t with
      | valido corpo =>
        rw [show Servidor.db _ = _ from written]
        rfl
      | pedidoManual corpo =>
        obtain ⟨total, written⟩ := written
        rw [written, estoque_comPedido]
      | lancamento corpo =>
        have unnamed : naoZero corpo.pedidoId = none :=
          Option.eq_none_iff_forall_ne_some.mpr fun id named => kept id ⟨corpo, effect, named⟩
        rw [show Servidor.db _ = _ from written, Db.comLancamento, unnamed]
        rfl
  · obtain ⟨agora, depois, same⟩ := Servidor.efetua_none (not_exists.mp silent)
    rw [same]
    rfl

/-- A committed return adds to every product what the order's items hold of it. -/
theorem estoque_devolve (returned : c.Devolve a pedidoId) (produtoId : Nat) :
    (Servidor.db (servidor.advance a c)).estoque.get produtoId =
      (c.db.estoque.get produtoId).map fun e =>
        { e with quantidade :=
            e.quantidade + somaItens (c.db.itensDe pedidoId) produtoId } := by
  obtain ⟨corpo, effect, named⟩ := returned
  rw [show Servidor.db _ = _ from Servidor.efetua_tx effect, Db.comLancamento, named]
  exact estoque_devolvido _ _ _ _

end Passo

/-- An order marked at some moment of a run was so at the start or was returned on the way. -/
theorem jaDevolvido_run {c : Servidor} (regular : c.Regular) (passos : List Passo)
    {pedidoId : Nat}
    (after : JaDevolvido (Servidor.db (servidor.execute passos c)) pedidoId) :
    JaDevolvido c.db pedidoId ∨ ∃ pre b post, passos = pre ++ b :: post ∧
      Servidor.Devolve (servidor.execute pre c) b pedidoId := by
  induction passos generalizing c with
  | nil => exact .inl after
  | cons a rest ih =>
    rcases ih (regular_advance regular a) after with first | ⟨pre, b, post, rfl, returned⟩
    · rcases jaDevolvido_antes regular first with before | now
      · exact .inl before
      · exact .inr ⟨[], a, rest, rfl, now⟩
    · exact .inr ⟨a :: pre, b, post, rfl, returned⟩

/-- Each order is returned by at most one step of the run, and by none if it had been
returned before. -/
def UmaDevolucao (c : Servidor) (passos : List Passo) : Prop :=
  ∀ pre a post, passos = pre ++ a :: post →
    ∀ pedidoId, Servidor.Devolve (servidor.execute pre c) a pedidoId →
      ¬ JaDevolvido c.db pedidoId ∧
        ∀ pre' b post', pre = pre' ++ b :: post' →
          ¬ Servidor.Devolve (servidor.execute pre' c) b pedidoId

/-- No accepted return names an order whose stored status is, or was, 'devolvido'. -/
def NuncaDevolvido (c : Servidor) (passos : List Passo) : Prop :=
  ∀ pre a post, passos = pre ++ a :: post →
    ∀ pedidoId, Servidor.Devolve (servidor.execute pre c) a pedidoId →
      ∀ pre' mid, pre = pre' ++ mid →
        ¬ JaDevolvido (Servidor.db (servidor.execute pre' c)) pedidoId

theorem umaDevolucao_iff (w : Faulty Db) (passos : List Passo) :
    UmaDevolucao ⟨w, []⟩ passos ↔ NuncaDevolvido ⟨w, []⟩ passos := by
  have regular : Servidor.Regular ⟨w, []⟩ := fun p member => by contradiction
  constructor
  · rintro once _ a post rfl pedidoId returned pre' mid rfl marked
    obtain ⟨fresh, first⟩ := once _ a post rfl pedidoId returned
    rcases jaDevolvido_run regular pre' marked with before | ⟨start, b, rest, rfl, earlier⟩
    · exact fresh before
    · exact first start b (rest ++ mid) (by simp) earlier
  · rintro never _ a post rfl pedidoId returned
    refine ⟨never _ a post rfl pedidoId returned [] _ rfl, ?_⟩
    rintro pre' b post' rfl earlier
    have marked := devolve_depois earlier
    have moment : servidor.execute (pre' ++ [b]) ⟨w, []⟩ =
        servidor.advance b (servidor.execute pre' ⟨w, []⟩) := System.execute_append ..
    rw [← moment] at marked
    exact never _ a post rfl pedidoId returned (pre' ++ [b]) post' (by simp) marked

def devolucao : CorpoLancamento where
  descricao := "Sabor trocado"
  dataLancamento := "2025-05-01"
  pedidoId := some 1

def pedidoComFalha : Db :=
  { estoque := .ofList [{ nome := "Picolé", quantidade := 10, medida := "un", valorUnitario := 5 }]
    pedidosDiarios := .ofList [{ clienteNumero := "5511999990000", status := .falha }]
    pedidoItens := [⟨1, 1, 2⟩] }

def devolucaoRepetida : List Passo :=
  [.arrive (.lancamentos devolucao), .step 0, .step 0,
    .arrive (.lancamentos devolucao), .step 1, .step 1]

theorem devolucao_repetida :
    ¬ UmaDevolucao ⟨⟨pedidoComFalha, []⟩, []⟩ devolucaoRepetida ∧
      (Servidor.db (servidor.execute devolucaoRepetida
        ⟨⟨pedidoComFalha, []⟩, []⟩)).estoque.get 1 =
          some { nome := "Picolé", quantidade := 14, medida := "un", valorUnitario := 5 } := by
  have returns (pre : List Passo) (task : Nat)
      (issued : Config.issued (servidor.execute pre ⟨⟨pedidoComFalha, []⟩, []⟩)
        (.step task : Passo) = some (.tx (.lancamento devolucao)))
      (accepted : ((Tx.lancamento devolucao).executar
        (servidor.execute pre ⟨⟨pedidoComFalha, []⟩, []⟩).state).1.status = 200) :
      Servidor.Devolve (servidor.execute pre ⟨⟨pedidoComFalha, []⟩, []⟩) (.step task) 1 :=
    ⟨devolucao, ⟨issued, (Tx.status_executar _ _).mp accepted⟩, rfl⟩
  refine ⟨fun once => ?_, by decide +kernel⟩
  have second := once (devolucaoRepetida.take 5) (.step 1) [] rfl 1
    (returns _ 1 rfl (by decide +kernel))
  exact second.2 (devolucaoRepetida.take 2) (.step 0) _ rfl (returns _ 0 rfl (by decide +kernel))

end IceClube
