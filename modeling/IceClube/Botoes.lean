import IceClube.PaginaDeVendas

/-! The buttons of an order act on the sale with the order's own number, and those of a sale
on the order with the sale's own number. They reach the right row exactly where the two
sequences of identifiers agree. -/
namespace IceClube

open Coop Prog

abbrev Loja.agir {α : Type} (loja : Loja) (acao : Pagina α) (faults : List Bool) :
    Except String α × Faulty Loja :=
  acao.run (Faulty.exec SqlPagina.sem Tx.rejeicao) ⟨loja, faults⟩

/-- The receipt of the sale that `venda_id` names. -/
def Loja.comprovanteDe (loja : Loja) (vendaId : Option Nat) : Option String :=
  (vendaId.bind loja.db.vendas.get).bind (·.comprovante)

/-- `info` are the details of an order of the sale. -/
def Loja.ExibePedidoDe (loja : Loja) (vendaId : Nat) (info : Detalhes) : Prop :=
  ∃ pedido, loja.db.pedidosDiarios.get info.pedidoId = some pedido ∧
    pedido.vendaId = some vendaId ∧ info = loja.detalhes info.pedidoId pedido

def Loja.TemPedido (loja : Loja) (vendaId : Nat) : Prop :=
  ∃ id pedido, loja.db.pedidosDiarios.get id = some pedido ∧ pedido.vendaId = some vendaId

/-- The two buttons read and change the sale of `venda_id` and no other. -/
structure PedidoPendente.Certo (loja : Loja) (pedido : PedidoPendente) : Prop where
  mostra : ∀ faults id image,
    (loja.agir pedido.verComprovante faults).1 = .ok (.comprovante id image) →
      loja.comprovanteDe pedido.vendaId = some image
  acha : ∀ image, loja.comprovanteDe pedido.vendaId = some image →
    (loja.agir pedido.verComprovante []).1 = .ok (.comprovante pedido.id image)
  grava : ∀ forma ∈ formasDePagamento, ∀ faults,
    (loja.agir (pedido.salvarPagamento forma) faults).2.state.db =
      if faults.headD false && faults.tail.headD false then loja.db
      else loja.db.comPagamento forma pedido.vendaId

/-- Either button 'Ver Pedido' shows an order of the sale, where there is one. -/
structure VendaListada.Certo (loja : Loja) (venda : VendaListada) : Prop where
  mostra : ∀ acao ∈ [venda.verPedido, venda.verPedidoAdmin], ∀ faults info,
    (loja.agir acao faults).1 = .ok (.pedido info) → loja.ExibePedidoDe venda.id info
  acha : loja.TemPedido venda.id → ∀ acao ∈ [venda.verPedido, venda.verPedidoAdmin],
    ∃ info, (loja.agir acao []).1 = .ok (.pedido info)

structure BotoesCertos (loja : Loja) : Prop where
  pendentes : ∀ pedidos, (loja.agir getPedidosPendentes []).1 = .ok (.ok pedidos) →
    ∀ pedido ∈ pedidos, pedido.Certo loja
  vendas : ∀ filtros resposta, (loja.agir (getVendas filtros) []).1 = .ok (.ok resposta) →
    ∀ venda ∈ resposta.vendas, venda.Certo loja

/-- A sale with the order's number or with the number in `venda_id` has both. -/
def Loja.Alinhado (loja : Loja) (id : Nat) (vendaId : Option Nat) : Prop :=
  ∀ venda, venda = id ∨ vendaId = some venda → (loja.db.vendas.get venda).isSome →
    venda = id ∧ vendaId = some venda

/-- The order with the sale's number is one of the sale's, if there is any of either. -/
structure Loja.Alinhada (loja : Loja) (id : Nat) : Prop where
  propria : ∀ pedido, loja.db.pedidosDiarios.get id = some pedido → pedido.vendaId = some id
  existe : loja.TemPedido id → (loja.db.pedidosDiarios.get id).isSome

/-- The two sequences agree on every pending order and on every sale with a date. -/
structure Loja.Alinhados (loja : Loja) : Prop where
  pendente : ∀ id pedido, loja.db.pedidosDiarios.get id = some pedido → pedido.valido = none →
    loja.Alinhado id pedido.vendaId
  venda : ∀ id, (loja.db.vendas.get id).isSome → (loja.colunasVenda id).data.isSome →
    loja.Alinhada id

section Listas

variable {loja : Loja}

theorem mem_pedidosPendentes (pendente : PedidoPendente) :
    pendente ∈ loja.pedidosPendentes ↔
      ∃ id pedido, loja.db.pedidosDiarios.get id = some pedido ∧ pedido.valido = none ∧
        pendente = loja.pendente id pedido := by
  simp only [Loja.pedidosPendentes, List.mem_map, List.mem_insertionSort, List.mem_filter,
    decide_eq_true_eq, Prod.exists, Table.mem_rows, and_assoc]
  exact exists_congr fun id => exists_congr fun pedido => by rw [eq_comm (a := pendente)]

theorem listaVendas_data {filtros : FiltrosVendas} {venda : VendaListada}
    (listed : venda ∈ loja.listaVendas filtros) :
    (loja.db.vendas.get venda.id).isSome ∧ (loja.colunasVenda venda.id).data.isSome := by
  simp only [Loja.listaVendas, List.mem_map, Prod.exists] at listed
  obtain ⟨id, row, taken, rfl⟩ := listed
  have sorted := List.mem_of_mem_drop (List.mem_of_mem_take taken)
  rw [List.mem_insertionSort, Loja.vendasFiltradas, List.mem_filter, Table.mem_rows] at sorted
  obtain ⟨found, passed⟩ := sorted
  refine ⟨Option.isSome_iff_exists.mpr ⟨row, found⟩, ?_⟩
  change (loja.colunasVenda id).data.isSome
  cases data : (loja.colunasVenda id).data with
  | some _ => rfl
  | none =>
    cases start : filtros.dataInicio.join <;> simp [Loja.passa, data, start] at passed

/-- The request for all sales since the first day. -/
def FiltrosVendas.todas (quantas : Nat) : FiltrosVendas where
  dataInicio := some (some 0)
  limit := quantas

theorem listada_todas {id : Nat} {venda : Venda} (found : loja.db.vendas.get id = some venda)
    (dated : (loja.colunasVenda id).data.isSome) :
    loja.listada id venda ∈ loja.listaVendas (.todas loja.db.vendas.rows.length) := by
  obtain ⟨data, dated⟩ := Option.isSome_iff_exists.mp dated
  have passed : (id, venda) ∈ loja.vendasFiltradas (.todas loja.db.vendas.rows.length) := by
    rw [Loja.vendasFiltradas, List.mem_filter, Table.mem_rows]
    exact ⟨found, by simp [Loja.passa, FiltrosVendas.todas, dated]⟩
  rw [Loja.listaVendas]
  refine List.mem_map.mpr ⟨(id, venda), ?_, rfl⟩
  have page : (FiltrosVendas.todas loja.db.vendas.rows.length).page = 1 := rfl
  rw [page, Nat.sub_self, Nat.zero_mul, List.drop_zero, List.take_of_length_le]
  · exact List.mem_insertionSort _ |>.mpr passed
  · rw [List.length_insertionSort]
    exact List.length_filter_le _ _

end Listas

section Execucoes

variable (loja : Loja) (faults : List Bool)

theorem run_getPedidosPendentes :
    (loja.agir getPedidosPendentes []).1 = .ok (.ok loja.pedidosPendentes) := rfl

theorem run_getVendas {filtros : FiltrosVendas} {resposta : RespostaVendas}
    (answered : (loja.agir (getVendas filtros) []).1 = .ok (.ok resposta)) :
    resposta.vendas = loja.listaVendas filtros := by
  rw [Loja.agir, getVendas] at answered
  split at answered
  · simp at answered
  split at answered
  · simp at answered
  split at answered
  · simp at answered
  rw [buscarVendas] at answered
  split at answered
  · simp [handle] at answered
  · have same := Except.ok.inj (Except.ok.inj answered)
    rw [← same]
    rfl

theorem run_getVendas_todas :
    ∃ resposta, (loja.agir (getVendas (.todas loja.db.vendas.rows.length)) []).1 =
      .ok (.ok resposta) := ⟨_, rfl⟩

theorem run_verComprovante (id shown : Nat) (image : String) :
    (loja.agir (verComprovante id) faults).1 = .ok (.comprovante shown image) ↔
      faults.headD false = false ∧ loja.comprovanteDe (some id) = some image ∧ shown = id := by
  cases fault : faults.headD false with
  | true =>
    simp only [Loja.agir, verComprovante, getComprovante, ask, bind_call, handle, run,
      Faulty.exec, fault]
    simp [handle, run]
  | false =>
    simp only [Loja.agir, verComprovante, getComprovante, ask, bind_call, handle, run,
      Faulty.exec, fault, SqlPagina.sem, Loja.comprovanteDe, Option.bind_some]
    cases loja.db.vendas.get id with
    | none => simp [handle, run]
    | some venda =>
      cases receipt : venda.comprovante <;> simp [receipt, handle, run, and_comm, eq_comm]

theorem run_enviarPagamento (forma : String) (id : Option Nat) :
    (enviarPagamento forma id).run (Faulty.exec SqlPagina.sem Tx.rejeicao) ⟨loja, faults⟩ =
      if faults.headD false then
        (.ok (id, .notificacao "Erro ao atualizar pagamento: Erro ao atualizar pagamento."
          "danger"), ⟨loja, faults.tail⟩)
      else
        (.ok (none, .notificacao "Forma de pagamento atualizada com sucesso!" "success"),
          ⟨{ loja with db := loja.db.comPagamento forma id }, faults.tail⟩) := by
  simp only [enviarPagamento, postEditarPagamento, ask, bind_call, handle, run, Faulty.exec]
  cases faults.headD false <;> rfl

/-- The second request of `salvarPagamento` writes only where the first was rejected. -/
theorem run_salvarPagamento {forma : String} (chosen : forma ≠ "") (id : Option Nat) :
    (loja.agir (salvarPagamento id forma) faults).2.state.db =
      if faults.headD false && faults.tail.headD false then loja.db
      else loja.db.comPagamento forma id := by
  rw [Loja.agir, salvarPagamento, if_neg chosen, run_bind, run_enviarPagamento]
  cases first : faults.headD false with
  | true =>
    simp only [↓reduceIte]
    rw [run_bind, run_enviarPagamento]
    cases faults.tail.headD false <;> rfl
  | false =>
    simp only [Bool.false_eq_true, ↓reduceIte, Bool.false_and]
    rw [run_bind, run_enviarPagamento]
    cases faults.tail.headD false <;> rfl

theorem run_mostrarPedido {recusa : Resposta → Tela} (plain : ∀ r info, recusa r ≠ .pedido info)
    (id : Nat) (info : Detalhes) :
    (loja.agir (mostrarPedido recusa id) faults).1 = .ok (.pedido info) ↔
      faults.headD false = false ∧
        ∃ pedido, loja.db.pedidosDiarios.get id = some pedido ∧ info = loja.detalhes id pedido := by
  cases fault : faults.headD false with
  | true =>
    simp only [Loja.agir, mostrarPedido, getPedido, ask, bind_call, handle, run, Faulty.exec,
      fault]
    simp [handle, run, plain]
  | false =>
    simp only [Loja.agir, mostrarPedido, getPedido, ask, bind_call, handle, run, Faulty.exec,
      fault, SqlPagina.sem]
    cases loja.db.pedidosDiarios.get id <;> simp [handle, run, plain, eq_comm]

end Execucoes

section Pendente

variable {loja : Loja} {id : Nat} {vendaId : Option Nat}

theorem get_comPagamento (forma : String) (vendaId : Option Nat) (db : Db) (id : Nat) :
    (db.comPagamento forma vendaId).vendas.get id =
      if vendaId = some id then
        (db.vendas.get id).map fun v => { v with formaPagamento := forma }
      else db.vendas.get id := by
  cases vendaId with
  | none => rfl
  | some venda =>
    rw [Db.comPagamento, Table.get_modify]
    simp only [Option.some.injEq, eq_comm (a := id)]

theorem comPagamento_ausente (forma : String) {db : Db}
    (missing : vendaId.bind db.vendas.get = none) : db.comPagamento forma vendaId = db := by
  cases vendaId with
  | none => rfl
  | some venda => rw [Db.comPagamento, Table.modify_ausente missing]

theorem alinhado_iff :
    loja.Alinhado id vendaId ↔ vendaId = some id ∨
      loja.db.vendas.get id = none ∧ vendaId.bind loja.db.vendas.get = none := by
  constructor
  · intro aligned
    by_cases same : vendaId = some id
    · exact .inl same
    refine .inr ⟨?_, ?_⟩
    · by_contra found
      exact same (aligned id (.inl rfl) (Option.isSome_iff_ne_none.mpr found)).2
    · cases vendaId with
      | none => rfl
      | some venda =>
        by_contra found
        obtain ⟨rfl, -⟩ := aligned venda (.inr rfl) (Option.isSome_iff_ne_none.mpr found)
        exact same rfl
  · rintro (rfl | ⟨own, named⟩) venda reached found
    · rcases reached with rfl | named
      · exact ⟨rfl, rfl⟩
      · exact ⟨(Option.some.inj named).symm, named⟩
    · rcases reached with rfl | rfl
      · simp [own] at found
      · simp [show loja.db.vendas.get venda = none from named] at found

/-- One of the options is not the method of a given sale. -/
theorem outra_forma (atual : String) : ∃ forma ∈ formasDePagamento, forma ≠ "" ∧ forma ≠ atual := by
  by_cases pix : atual = "pix"
  · exact ⟨"dinheiro", by decide, by decide, by rw [pix]; decide⟩
  · exact ⟨"pix", by decide, by decide, fun same => pix same.symm⟩

/-- A saved payment shows which row was reached. -/
theorem alinhado_of_grava
    (same : ∀ forma ∈ formasDePagamento,
      loja.db.comPagamento forma (some id) = loja.db.comPagamento forma vendaId) :
    loja.Alinhado id vendaId := by
  intro venda reached found
  obtain ⟨row, found⟩ := Option.isSome_iff_exists.mp found
  obtain ⟨forma, option, -, other⟩ := outra_forma row.formaPagamento
  have changed : ({ row with formaPagamento := forma } : Venda) ≠ row :=
    fun equal => other (congrArg Venda.formaPagamento equal)
  have rows := congrArg (fun db : Db => db.vendas.get venda) (same forma option)
  simp only [get_comPagamento, found, Option.map_some, Option.some.injEq] at rows
  by_cases own : id = venda <;> by_cases named : vendaId = some venda
  · exact ⟨own.symm, named⟩
  · rw [if_pos own, if_neg named, Option.some.injEq] at rows
    exact absurd rows changed
  · rw [if_neg own, if_pos named, Option.some.injEq] at rows
    exact absurd rows.symm changed
  · rcases reached with same | same
    · exact absurd same.symm own
    · exact absurd same named

theorem formas_nao_vazias {forma : String} (option : forma ∈ formasDePagamento) : forma ≠ "" := by
  rintro rfl
  exact absurd option (by decide)

theorem pendente_certo_iff (pedido : Pedido) :
    (loja.pendente id pedido).Certo loja ↔ loja.Alinhado id pedido.vendaId := by
  constructor
  · intro certo
    refine alinhado_of_grava fun forma option => ?_
    have saved := certo.grava forma option []
    rw [PedidoPendente.salvarPagamento, editarPagamento,
      run_salvarPagamento loja [] (formas_nao_vazias option)] at saved
    exact saved
  · intro aligned
    have receipt : loja.comprovanteDe (some id) = loja.comprovanteDe pedido.vendaId := by
      rcases alinhado_iff.mp aligned with same | ⟨own, named⟩
      · rw [same]
      · rw [Loja.comprovanteDe, Loja.comprovanteDe, named, Option.bind_some, own]
    refine ⟨fun faults shown image found => ?_, fun image found => ?_, fun forma option faults => ?_⟩
    · rw [PedidoPendente.verComprovante, run_verComprovante] at found
      exact receipt.symm.trans found.2.1
    · rw [PedidoPendente.verComprovante, run_verComprovante]
      exact ⟨rfl, receipt.trans found, rfl⟩
    · rw [PedidoPendente.salvarPagamento, editarPagamento,
        run_salvarPagamento loja faults (formas_nao_vazias option)]
      change _ = if _ then _ else loja.db.comPagamento forma pedido.vendaId
      rcases alinhado_iff.mp aligned with same | ⟨own, named⟩
      · rw [same]
        rfl
      · rw [comPagamento_ausente forma named]
        have same : loja.db.comPagamento forma (some (loja.pendente id pedido).id) = loja.db :=
          comPagamento_ausente forma (show (some id).bind loja.db.vendas.get = none from own)
        rw [same]

end Pendente

section Venda

variable {loja : Loja} {id : Nat}

/-- Both buttons show the order with the number of the sale. -/
theorem exibe_iff {venda : VendaListada} {acao : Pagina Tela}
    (button : acao ∈ [venda.verPedido, venda.verPedidoAdmin]) (faults : List Bool)
    (info : Detalhes) :
    (loja.agir acao faults).1 = .ok (.pedido info) ↔
      faults.headD false = false ∧ ∃ pedido, loja.db.pedidosDiarios.get venda.id = some pedido ∧
        info = loja.detalhes venda.id pedido := by
  simp only [List.mem_cons, List.not_mem_nil, or_false] at button
  rcases button with rfl | rfl
  · exact run_mostrarPedido loja faults (fun _ _ => by simp) venda.id info
  · exact run_mostrarPedido loja faults (fun _ _ => by simp) venda.id info

theorem venda_certa_iff (venda : VendaListada) : venda.Certo loja ↔ loja.Alinhada venda.id := by
  constructor
  · rintro ⟨mostra, acha⟩
    have first : venda.verPedido ∈ [venda.verPedido, venda.verPedidoAdmin] := List.mem_cons_self
    refine ⟨fun pedido found => ?_, fun owned => ?_⟩
    · obtain ⟨other, row, named, -⟩ :=
        mostra _ first [] _ ((exibe_iff first [] _).mpr ⟨rfl, pedido, found, rfl⟩)
      rw [show (loja.detalhes venda.id pedido).pedidoId = venda.id from rfl, found,
        Option.some.injEq] at row
      rw [row, named]
    · obtain ⟨info, shown⟩ := acha owned _ first
      obtain ⟨-, pedido, found, -⟩ := (exibe_iff first [] info).mp shown
      rw [found]
      rfl
  · rintro ⟨propria, existe⟩
    refine ⟨fun acao button faults info shown => ?_, fun owned acao button => ?_⟩
    · obtain ⟨-, pedido, found, rfl⟩ := (exibe_iff button faults info).mp shown
      exact ⟨pedido, found, propria pedido found, rfl⟩
    · obtain ⟨pedido, found⟩ := Option.isSome_iff_exists.mp (existe owned)
      exact ⟨_, (exibe_iff button [] _).mpr ⟨rfl, pedido, found, rfl⟩⟩

end Venda

/-- The buttons are right exactly where the two sequences agree. -/
theorem botoesCertos_iff (loja : Loja) : BotoesCertos loja ↔ loja.Alinhados := by
  constructor
  · rintro ⟨pendentes, vendas⟩
    refine ⟨fun id pedido found pending => ?_, fun id found dated => ?_⟩
    · have listed := (mem_pedidosPendentes (loja.pendente id pedido)).mpr
        ⟨id, pedido, found, pending, rfl⟩
      exact (pendente_certo_iff pedido).mp
        (pendentes _ (run_getPedidosPendentes loja) _ listed)
    · obtain ⟨row, found⟩ := Option.isSome_iff_exists.mp found
      obtain ⟨resposta, answered⟩ := run_getVendas_todas loja
      have listed := listada_todas found dated
      rw [← run_getVendas loja answered] at listed
      exact (venda_certa_iff _).mp (vendas _ _ answered _ listed)
  · rintro ⟨pendente, venda⟩
    refine ⟨fun pedidos answered pedido listed => ?_, fun filtros resposta answered v listed => ?_⟩
    · obtain rfl := Except.ok.inj (Except.ok.inj ((run_getPedidosPendentes loja).symm.trans answered))
      obtain ⟨id, row, found, pending, rfl⟩ := (mem_pedidosPendentes pedido).mp listed
      exact (pendente_certo_iff row).mpr (pendente id row found pending)
    · rw [run_getVendas loja answered] at listed
      obtain ⟨found, dated⟩ := listaVendas_data listed
      exact (venda_certa_iff v).mpr (venda v.id found dated)

/-- The first order's sale is the second one. -/
def vendaAdiantada : Loja where
  db :=
    { vendas := .ofList
        [{ clienteNumero := "5511999990000", formaPagamento := "pix", valorTotal := 5 },
          { clienteNumero := "5511888880000", formaPagamento := "pix", valorTotal := 7 }]
      pedidosDiarios := .ofList
        [{ clienteNumero := "5511888880000", status := .novo, vendaId := some 2 }] }

theorem pagamento_de_outro : ¬ BotoesCertos vendaAdiantada := by
  rintro ⟨pendentes, -⟩
  have saved := (pendentes _ (run_getPedidosPendentes _) (vendaAdiantada.pendente 1
    { clienteNumero := "5511888880000", status := .novo, vendaId := some 2 })
    ((mem_pedidosPendentes _).mpr ⟨1, _, rfl, rfl, rfl⟩)).grava "dinheiro" (by decide) []
  have row := congrArg (fun db : Db => (db.vendas.get 1).map (·.formaPagamento)) saved
  revert row
  decide +kernel

end IceClube
