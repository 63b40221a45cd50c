import IceClube.Paged
import IceClube.PaginaDeVendas
import IceClube.Rotas
import IceClube.Statements
import IceClube.Tracks
import IceClube.Translation
import Mathlib.Data.List.Induction

/-! The page of returns, `producao/devolucoes.html`: it shows `GET /api/pedidos-devolucao` ten
orders at a time and registers returns. Its loads overlap, and the orders change meanwhile. -/
namespace IceClube

open Coop Prog System Paged

/-- A row that `GET /api/pedidos-devolucao` answers. -/
structure PedidoADevolver where
  id : Nat
  clienteNumero : String
  status : Status
  recebido : Bool
  data : Nat
  valorTotal : Option ℚ
  deriving DecidableEq, Repr

inductive SqlDevolucao where
  | selectPedidos (data : Option Nat) (limit offset : Int)
  | countPedidos (data : Option Nat)

/-- `none` is a limit or an offset that MySQL cannot read. -/
@[reducible] def SqlDevolucao.Res : SqlDevolucao → Type
  | .selectPedidos .. => Option (List PedidoADevolver)
  | .countPedidos _ => Nat

namespace Loja

variable (loja : Loja)

/-- The orders that were wrong or not delivered, of one day or of all. -/
def devolviveis (data : Option Nat) : List (Nat × Pedido) :=
  loja.db.pedidosDiarios.rows.filter fun p =>
    p.2.status ∈ [.incorreto, .falha] ∧ data.all (dia (loja.colunasPedido p.1).dataHora = ·)

def aDevolver (p : Nat × Pedido) : PedidoADevolver where
  id := p.1
  clienteNumero := p.2.clienteNumero
  status := p.2.status
  recebido := p.2.recebido
  data := (loja.colunasPedido p.1).dataHora
  valorTotal := (p.2.vendaId.bind loja.db.vendas.get).map (·.valorTotal)

def devolucoes (data : Option Nat) : List PedidoADevolver :=
  sortOn (fun p => OrderDual.toDual p.data) (fun p => loja.posicao p.id)
    ((loja.devolviveis data).map loja.aDevolver)

end Loja

def SqlDevolucao.sem : (q : SqlDevolucao) → Loja → q.Res × Loja
  | .selectPedidos data limit offset, loja =>
    (if 0 ≤ limit ∧ 0 ≤ offset then
      some (cut limit.toNat offset.toNat (loja.devolucoes data))
    else none, loja)
  | .countPedidos data, loja => ((loja.devolviveis data).length, loja)

inductive RespostaDevolucao where
  | nenhuma
  | pagina (pedidos : List PedidoADevolver) (total : Nat) (page limit totalPages : Int)
  deriving DecidableEq, Repr

abbrev RotaDeDevolucao := Prog String SqlDevolucao.Res

/-- `GET /api/pedidos-devolucao`, with numbers for `page` and `limit`. -/
def getPedidosDevolucao (page limit : Int) (data : Option Nat) :
    RotaDeDevolucao (Atendida RespostaDevolucao) :=
  let buscar : RotaDeDevolucao (Atendida RespostaDevolucao) := do
    match ← ask (SqlDevolucao.selectPedidos data limit ((page - 1) * limit)) with
    | none => fail "ER_PARSE_ERROR"
    | some [] => pure (.ok .nenhuma)
    | some pedidos => do
      let total ← ask (SqlDevolucao.countPedidos data)
      pure (.ok (.pagina pedidos total page limit ⌈(total : ℚ) / limit⌉))
  buscar.handle fun _ => pure (.error ⟨500, "Erro ao buscar pedidos para devolução", none⟩)

section Tela

/-- A row of the table, with the order that its button registers a return of. -/
structure LinhaDeDevolucao where
  id : Nat
  clienteNumero : String
  status : Status
  data : Nat
  deriving DecidableEq, Repr

inductive Tabela where
  | vazia
  | carregando
  | nenhuma
  | erro
  | linhas (linhas : List LinhaDeDevolucao)
  deriving DecidableEq, Repr

/-- What the page keeps; its two buttons are disabled only where their own guards stop them. -/
structure TelaDeDevolucoes where
  currentPage : Nat := 1
  totalPages : Nat := 1
  tabela : Tabela := .vazia
  deriving DecidableEq, Repr

/-- The calls of `atualizarDevolucoes`: when the page is loaded, by the two buttons, and after a
return was registered. -/
inductive Alvo where
  | primeira | anterior | proxima | atual
  deriving DecidableEq, Repr

def PedidoADevolver.linha (p : PedidoADevolver) : LinhaDeDevolucao :=
  ⟨p.id, if p.clienteNumero = "" then "-" else p.clienteNumero, p.status, p.data⟩

namespace RespostaDevolucao

def tabela : RespostaDevolucao → Tabela
  | nenhuma => .nenhuma
  | pagina pedidos .. =>
    .linhas ((pedidos.filter fun p => !p.recebido || p.status ≠ .finalizado).map
      PedidoADevolver.linha)

/-- `data.totalPages || 1`. -/
def totalPages : RespostaDevolucao → Nat
  | nenhuma => 1
  | pagina _ _ _ _ totalPages => if totalPages = 0 then 1 else totalPages.toNat

end RespostaDevolucao

namespace TelaDeDevolucoes

variable (t : TelaDeDevolucoes)

/-- The page that is asked for, by the guards of the buttons and of `atualizarDevolucoes`. -/
def pedida (alvo : Alvo) : Option Nat :=
  let page : Option Nat :=
    match alvo with
    | .primeira => some 1
    | .anterior => if 1 < t.currentPage then some (t.currentPage - 1) else none
    | .proxima => if t.currentPage < t.totalPages then some (t.currentPage + 1) else none
    | .atual => some t.currentPage
  page.filter fun page => ¬ (page < 1 ∨ t.totalPages < page)

/-- An answer that is no order list leaves the numbers of the pages as they were. -/
def mostrar (page : Nat) : Option (Atendida RespostaDevolucao) → TelaDeDevolucoes
  | some (.ok resposta) => ⟨page, resposta.totalPages, resposta.tabela⟩
  | _ => { t with tabela := .erro }

def abrir (alvo : Alvo) : TelaDeDevolucoes :=
  if (t.pedida alvo).isSome then { t with tabela := .carregando } else t

end TelaDeDevolucoes

structure Devolucoes where
  loja : Loja
  tela : TelaDeDevolucoes := {}

inductive OpDevolucao where
  | sql (q : SqlDevolucao)
  | rota (o : Op)
  /-- The answer of the server comes to the browser. -/
  | rede
  | abrir (alvo : Alvo)
  | mostrar (page : Nat) (resposta : Option (Atendida RespostaDevolucao))

@[reducible] def OpDevolucao.Res : OpDevolucao → Type
  | .sql q => q.Res
  | .rota o => o.Res
  | .abrir _ => Option Nat
  | _ => Unit

def OpDevolucao.exec : Exec String OpDevolucao.Res (Faulty Devolucoes)
  | .sql q, w =>
    let r := Faulty.exec SqlDevolucao.sem Tx.rejeicao q ⟨w.state.loja, w.faults⟩
    (r.1, ⟨{ w.state with loja := r.2.state }, r.2.faults⟩)
  | .rota o, w =>
    let r := Op.exec o ⟨w.state.loja.db, w.faults⟩
    (r.1, ⟨{ w.state with loja := { w.state.loja with db := r.2.state } }, r.2.faults⟩)
  | .rede, w =>
    (if w.faults.headD false then .error "Failed to fetch" else .ok (), ⟨w.state, w.faults.tail⟩)
  | .abrir alvo, w =>
    (.ok (w.state.tela.pedida alvo), ⟨{ w.state with tela := w.state.tela.abrir alvo }, w.faults⟩)
  | .mostrar page resposta, w =>
    (.ok (), ⟨{ w.state with tela := w.state.tela.mostrar page resposta }, w.faults⟩)

abbrev NaTela := Prog String OpDevolucao.Res

/-- `fetch` of a page; `none` where it throws. -/
def pedirPagina (page : Nat) : NaTela (Option (Atendida RespostaDevolucao)) := do
  let resposta ← through (fun q => attempt (OpDevolucao.sql q)) (getPedidosDevolucao page 10 none)
  match ← attempt OpDevolucao.rede with
  | .ok _ => pure (some resposta)
  | .error _ => pure none

def atualizarDevolucoes (alvo : Alvo) : NaTela Unit := do
  match ← ask (OpDevolucao.abrir alvo) with
  | none => pure ()
  | some page => do
    let resposta ← pedirPagina page
    ask (OpDevolucao.mostrar page resposta)

/-- `salvarDevolucao`, with the fields of its form; an answer that never comes ends it too. -/
def salvarDevolucao (pedidoId : Nat) (descricao dataLancamento : String) : NaTela Unit :=
  if descricao = "" ∨ dataLancamento = "" then pure ()
  else do
    let corpo : CorpoLancamento :=
      { descricao := descricao, dataLancamento := dataLancamento, pedidoId := some pedidoId }
    let resposta ← outcome (through (fun o => attempt (OpDevolucao.rota o)) (lancamentos corpo))
    let chegou ← attempt OpDevolucao.rede
    if chegou.isOk ∧ resposta.toOption.any (·.status = 200) then atualizarDevolucoes .atual
    else pure ()

inductive ReqDevolucao where
  | anterior
  | proxima
  | salvar (pedidoId : Nat) (descricao dataLancamento : String)
  deriving DecidableEq, Repr

def ReqDevolucao.rota : ReqDevolucao → NaTela Unit
  | anterior => atualizarDevolucoes .anterior
  | proxima => atualizarDevolucoes .proxima
  | salvar pedidoId descricao dataLancamento => salvarDevolucao pedidoId descricao dataLancamento

/-- The orders may become any others at any time. -/
def telaDeDevolucoes :
    System ReqDevolucao Loja String OpDevolucao.Res Unit (Faulty Devolucoes) where
  exec := OpDevolucao.exec
  sync _ := false
  listeners r := [r.rota]
  drift loja w := ⟨{ w.state with loja := loja }, w.faults⟩

def telaAberta (loja : Loja) (faults : List Bool) :
    Config String OpDevolucao.Res Unit (Faulty Devolucoes) :=
  ⟨⟨{ loja := loja }, faults⟩, [atualizarDevolucoes .primeira]⟩

end Tela

section Leitura

abbrev Visita := Entry OpDevolucao (Faulty Devolucoes)

def Visita.loja (e : Visita) : Loja := e.state.state.loja

def Visita.dezena (e : Visita) (n : Nat) : List PedidoADevolver :=
  page 10 (e.loja.devolucoes none) n

/-- The answer tells the orders of a page as they were at two calls. -/
def Lida (h : List Visita) (n : Nat) : RespostaDevolucao → Prop
  | .nenhuma => ∃ e ∈ h, e.dezena n = []
  | .pagina pedidos _ _ _ totalPages => ∃ e ∈ h, ∃ e' ∈ h, e.dezena n = pedidos ∧ pedidos ≠ [] ∧
    totalPages = ⌈((e'.loja.devolviveis none).length : ℚ) / 10⌉

def Mostravel : OpDevolucao → List Visita → Prop
  | .mostrar n (some (.ok resposta)), h => 1 ≤ n ∧ Lida h n resposta
  | _, _ => True

abbrev contratoDaTela : Contract String OpDevolucao.Res (List Visita) :=
  Contract.history OpDevolucao.exec Mostravel

variable {h h' : List Visita} {n : Nat}

theorem Lida.mono {resposta : RespostaDevolucao} (read : Lida h n resposta)
    (more : ∀ e ∈ h, e ∈ h') : Lida h' n resposta := by
  cases resposta with
  | nenhuma =>
    obtain ⟨e, member, empty⟩ := read
    exact ⟨e, more e member, empty⟩
  | pagina pedidos total page limit totalPages =>
    obtain ⟨e, member, e', member', rest⟩ := read
    exact ⟨e, more e member, e', more e' member', rest⟩

abbrev contratoDaRota : Contract String SqlDevolucao.Res (List Visita) where
  pre _ _ := True
  post q h answer h' := ∃ task s, h' = h ++ [⟨task, .sql q, s⟩] ∧
    answer = (OpDevolucao.exec (.sql q) s).1

theorem answer_sql {q : SqlDevolucao} {s : Faulty Devolucoes} {a : q.Res}
    (given : .ok a = (OpDevolucao.exec (.sql q) s).1) : a = (q.sem s.state.loja).1 := by
  have given : .ok a =
    (Faulty.exec SqlDevolucao.sem Tx.rejeicao q ⟨s.state.loja, s.faults⟩).1 := given
  cases fault : s.faults.headD false with
  | true =>
    rw [Faulty.exec_rejected q (w := ⟨s.state.loja, s.faults⟩) fault] at given
    cases given
  | false =>
    rw [Faulty.exec_answered q (w := ⟨s.state.loja, s.faults⟩) fault] at given
    exact Except.ok.inj given

theorem select_pagina (positive : 1 ≤ n) (loja : Loja) :
    (SqlDevolucao.sem (.selectPedidos none 10 (((n : Int) - 1) * 10)) loja).1 =
      some (page 10 (loja.devolucoes none) n) := by
  have offset : ((n : Int) - 1) * 10 = ((n - 1) * 10 : Nat) := by omega
  rw [SqlDevolucao.sem, if_pos (by omega), offset]
  rfl

theorem meets_getPedidosDevolucao (positive : 1 ≤ n) (h : List Visita) :
    Meets contratoDaRota (getPedidosDevolucao n 10 none)
      (fun r h' => ∀ resposta, r = .ok (.ok resposta) → Lida h' n resposta) h := by
  rw [getPedidosDevolucao, meets_handle, meets_bind, meets_ask]
  refine ⟨trivial, ?_⟩
  rintro answer h' ⟨task, s, rfl, given⟩
  cases answer with
  | error e => exact fun _ wrong => (by cases wrong)
  | ok rows =>
    obtain rfl := (answer_sql given).trans (select_pagina positive s.state.loja)
    let e : Visita := ⟨task, .sql (.selectPedidos none 10 ((n - 1) * 10)), s⟩
    rw [then_ok]
    cases found : page 10 (s.state.loja.devolucoes none) n with
    | nil =>
      intro resposta told
      obtain rfl := Except.ok.inj (Except.ok.inj told)
      exact ⟨e, List.mem_append_right h (List.mem_singleton_self e), found⟩
    | cons p pedidos =>
      show Meets _ (ask (SqlDevolucao.countPedidos none) >>= _) _ _
      rw [meets_bind, meets_ask]
      refine ⟨trivial, ?_⟩
      rintro answer h' ⟨task', s', rfl, given⟩
      cases answer with
      | error e => exact fun _ wrong => (by cases wrong)
      | ok total =>
        have total_eq := answer_sql given
        intro resposta told
        obtain rfl := Except.ok.inj (Except.ok.inj told)
        let e' : Visita := ⟨task', .sql (.countPedidos none), s'⟩
        have early : e ∈ h ++ [e] ++ [e'] :=
          List.mem_append_left _ (List.mem_append_right h (List.mem_singleton_self e))
        refine ⟨e, early, e', List.mem_append_right _ (List.mem_singleton_self e'), found,
          List.cons_ne_nil _ _, ?_⟩
        rw [total_eq]
        rfl

theorem meets_pedirPagina (positive : 1 ≤ n) (h : List Visita) :
    Meets contratoDaTela (pedirPagina n)
      (fun r h' => ∀ resposta, r = .ok (some (.ok resposta)) → Lida h' n resposta) h := by
  rw [pedirPagina, meets_bind]
  refine meets_mono (meets_through (K := contratoDaRota) (fun q v _ => ?_)
    (meets_getPedidosDevolucao positive h)) fun r h' read => ?_
  · exact ⟨trivial, fun answer h' post => ⟨answer, rfl, post⟩⟩
  · cases r with
    | error e => exact fun _ wrong => (by cases wrong)
    | ok resposta =>
      refine ⟨trivial, ?_⟩
      rintro answer h'' ⟨task, s, rfl, -⟩
      cases answer with
      | error e => exact fun _ wrong => (by cases wrong)
      | ok _ =>
        intro lida told
        have same : resposta = .ok lida := Option.some.inj (Except.ok.inj told)
        exact (read lida (congrArg Except.ok same)).mono fun _ => List.mem_append_left _

theorem pedida_positiva {t : TelaDeDevolucoes} {alvo : Alvo} (asked : t.pedida alvo = some n) :
    1 ≤ n ∧ n ≤ t.totalPages := by
  have kept := (Option.filter_eq_some_iff.mp asked).2
  simp only [decide_eq_true_eq, not_or, Nat.not_lt] at kept
  exact kept

theorem meets_atualizar (alvo : Alvo) (h : List Visita) :
    Meets contratoDaTela (atualizarDevolucoes alvo) (fun _ _ => True) h := by
  rw [atualizarDevolucoes, meets_bind, meets_ask]
  refine ⟨trivial, ?_⟩
  rintro answer h' ⟨task, s, rfl, given⟩
  cases answer with
  | error e => trivial
  | ok asked =>
    cases asked with
    | none => trivial
    | some n =>
      have positive : 1 ≤ n := (pedida_positiva (Except.ok.inj given).symm).1
      rw [then_ok, meets_bind]
      refine meets_mono (meets_pedirPagina positive _) fun r h' read => ?_
      cases r with
      | error e => trivial
      | ok resposta =>
        refine (meets_ask ..).mpr ⟨?_, fun _ _ _ => trivial⟩
        match resposta with
        | none | some (.error _) => trivial
        | some (.ok lida) => exact ⟨positive, read lida rfl⟩

section Salvar

variable {V : Type} {K : Contract String OpDevolucao.Res V} {pedidoId : Nat}
  {descricao dataLancamento : String}

theorem meets_post {α : Type} (free : ∀ o v, K.pre (.rota o) v) (rota : Rota α) (v : V) :
    Meets K (outcome (through (fun o => attempt (OpDevolucao.rota o)) rota))
      (fun _ _ => True) v := by
  let unknown : Contract String Op.Res V := ⟨fun _ _ => True, fun _ _ _ _ => True⟩
  have any : Meets unknown rota (fun _ _ => True) v :=
    calls_frame (calls_any rota) (fun _ _ _ _ => ⟨trivial, fun _ _ _ => trivial⟩) trivial
  have sends (o : Op) (v : V) (_ : unknown.pre o v) : Meets K (attempt (OpDevolucao.rota o))
      (fun r v' => ∃ answer, r = .ok answer ∧ unknown.post o v answer v') v :=
    ⟨free o v, fun answer _ _ => ⟨answer, rfl, trivial⟩⟩
  exact meets_mono (meets_outcome (meets_through sends any)) fun _ _ _ => trivial

/-- A return is posted, and then the page is loaded again at most once. -/
theorem meets_salvar (free : ∀ o v, K.pre (.rota o) v) (online : ∀ v, K.pre .rede v)
    (reload : ∀ v, Meets K (atualizarDevolucoes .atual) (fun _ _ => True) v) (v : V) :
    Meets K (salvarDevolucao pedidoId descricao dataLancamento) (fun _ _ => True) v := by
  rw [salvarDevolucao]
  split
  · trivial
  · rw [meets_bind]
    refine meets_mono (meets_post free (lancamentos _) v) fun r v' _ => ?_
    cases r with
    | error e => trivial
    | ok resposta =>
      refine ⟨online v', fun answer v'' _ => ?_⟩
      show Meets _ (if _ then _ else _) _ _
      split
      · exact reload v''
      · trivial

end Salvar

theorem meets_toque (r : ReqDevolucao) : Meets contratoDaTela r.rota (fun _ _ => True) [] := by
  cases r with
  | anterior => exact meets_atualizar .anterior []
  | proxima => exact meets_atualizar .proxima []
  | salvar pedidoId descricao dataLancamento =>
    exact meets_salvar (fun _ _ => trivial) (fun _ => trivial) (meets_atualizar .atual) []

end Leitura

section Fiel

variable {l : List Visita} {t t' : TelaDeDevolucoes} {n : Nat}

def TelaDeDevolucoes.apos (t : TelaDeDevolucoes) : OpDevolucao → TelaDeDevolucoes
  | .abrir alvo => t.abrir alvo
  | .mostrar n resposta => t.mostrar n resposta
  | _ => t

theorem exec_tela (o : OpDevolucao) (w : Faulty Devolucoes) :
    (o.exec w).2.state.tela = w.state.tela.apos o := by
  cases o <;> rfl

/-- The table of an answer, or what stands there while another one is awaited or after it failed. -/
def TelaDeDevolucoes.Fiel (t : TelaDeDevolucoes) (l : List Visita) : Prop :=
  (t.currentPage = 1 ∧ t.totalPages = 1 ∧ t.tabela ∈ [.vazia, .carregando, .erro]) ∨
    ∃ task resposta, 1 ≤ t.currentPage ∧ Lida (own task l) t.currentPage resposta ∧
      t.totalPages = resposta.totalPages ∧
      (t.tabela = resposta.tabela ∨ t.tabela ∈ [.carregando, .erro])

theorem own_subset (task : Nat) (l : List Visita) (e : Visita) :
    ∀ x ∈ own task l, x ∈ own task (l ++ [e]) := by
  intro x member
  rw [own_append]
  exact List.mem_append_left _ member

theorem TelaDeDevolucoes.Fiel.append (fiel : t.Fiel l) (e : Visita) : t.Fiel (l ++ [e]) := by
  rcases fiel with fresh | ⟨task, resposta, positive, read, rest⟩
  · exact .inl fresh
  · exact .inr ⟨task, resposta, positive, read.mono (own_subset task l e), rest⟩

theorem TelaDeDevolucoes.Fiel.espera (fiel : t.Fiel l) {tabela : Tabela}
    (waits : tabela ∈ [.carregando, .erro]) : { t with tabela := tabela }.Fiel l := by
  rcases fiel with ⟨one, only, -⟩ | ⟨task, resposta, positive, read, pages, -⟩
  · exact .inl ⟨one, only, List.mem_cons_of_mem _ waits⟩
  · exact .inr ⟨task, resposta, positive, read, pages, .inr waits⟩

theorem fiel_apos (fiel : t.Fiel l) (e : Visita) (readable : Mostravel e.op (own e.task l)) :
    (t.apos e.op).Fiel (l ++ [e]) := by
  obtain ⟨task, o, s⟩ := e
  cases o with
  | sql q => exact fiel.append _
  | rota o => exact fiel.append _
  | rede => exact fiel.append _
  | abrir alvo =>
    show (t.abrir alvo).Fiel _
    rw [TelaDeDevolucoes.abrir]
    split
    · exact (fiel.espera (by simp)).append _
    · exact fiel.append _
  | mostrar n resposta =>
    match resposta with
    | none | some (.error _) => exact (fiel.espera (by simp)).append _
    | some (.ok resposta) =>
      obtain ⟨positive, read⟩ := readable
      exact .inr ⟨task, resposta, positive, read.mono (own_subset task l _), rfl, .inl rfl⟩

def telaDe (l : List Visita) : TelaDeDevolucoes := l.foldl (fun t e => t.apos e.op) {}

theorem fiel_telaDe (lawful : Lawful (fun past e => Mostravel e.op (own e.task past)) [] l) :
    (telaDe l).Fiel l := by
  induction l using List.reverseRecOn with
  | nil => exact .inl ⟨rfl, rfl, by simp [telaDe]⟩
  | append_singleton l e ih =>
    rw [lawful_append, List.nil_append] at lawful
    rw [telaDe, List.foldl_append]
    exact fiel_apos (ih lawful.1) e lawful.2.1

/-- Orders that were wrong or not delivered are not finished, so that the page drops none. -/
theorem tabela_dezena (e : Visita) (total : Nat) (a b c : Int) :
    (RespostaDevolucao.pagina (e.dezena n) total a b c).tabela =
      .linhas ((e.dezena n).map PedidoADevolver.linha) := by
  have kept : (e.dezena n).filter (fun p => !p.recebido || p.status ≠ .finalizado) =
      e.dezena n := by
    refine List.filter_eq_self.mpr fun p member => ?_
    have listed : p ∈ (e.loja.devolviveis none).map e.loja.aDevolver :=
      (perm_sortOn _ _ _).mem_iff.mp (List.mem_of_mem_drop (List.mem_of_mem_take member))
    obtain ⟨q, wrong, rfl⟩ := List.mem_map.mp listed
    have status : q.2.status ∈ [.incorreto, .falha] :=
      (of_decide_eq_true (List.mem_filter.mp wrong).2).1
    have unfinished : q.2.status ≠ .finalizado := fun same => by
      rw [same] at status
      revert status
      decide
    simp [Loja.aDevolver, unfinished]
  rw [RespostaDevolucao.tabela, kept]

def Visita.tabela (e : Visita) (n : Nat) : Tabela :=
  if e.dezena n = [] then .nenhuma else .linhas ((e.dezena n).map PedidoADevolver.linha)

/-- How many pages there are, by the orders counted at the second moment. -/
def Visita.paginas (e e' : Visita) (n : Nat) : Nat :=
  if e.dezena n = [] then 1 else max 1 ⌈((e'.loja.devolviveis none).length : ℚ) / 10⌉.toNat

theorem Lida.mostra {h : List Visita} {resposta : RespostaDevolucao} (read : Lida h n resposta) :
    ∃ e ∈ h, ∃ e' ∈ h, resposta.tabela = e.tabela n ∧ resposta.totalPages = e.paginas e' n := by
  cases resposta with
  | nenhuma =>
    obtain ⟨e, member, empty⟩ := read
    refine ⟨e, member, e, member, ?_, ?_⟩
    · rw [Visita.tabela, if_pos empty, RespostaDevolucao.tabela]
    · rw [Visita.paginas, if_pos empty, RespostaDevolucao.totalPages]
  | pagina pedidos total page limit totalPages =>
    obtain ⟨e, member, e', member', rfl, found, counted⟩ := read
    refine ⟨e, member, e', member', ?_, ?_⟩
    · rw [Visita.tabela, if_neg found, tabela_dezena]
    · have bounded : 0 ≤ totalPages := by
        rw [counted]
        positivity
      rw [Visita.paginas, if_neg found, RespostaDevolucao.totalPages, ← counted]
      split <;> omega

variable (loja : Loja) (faults : List Bool)

theorem told_telaAberta :
    Told telaDeDevolucoes Mostravel (fun _ _ => True) [] (telaAberta loja faults) := by
  refine ⟨by simp, fun task p found => ?_⟩
  obtain rfl : p = atualizarDevolucoes .primeira :=
    List.mem_singleton.mp (List.mem_of_getElem? found)
  exact meets_atualizar .primeira []

theorem fiel_execute (actions : List (Action ReqDevolucao Loja)) :
    (telaDeDevolucoes.execute actions (telaAberta loja faults)).state.state.tela.Fiel
      (telaDeDevolucoes.log actions (telaAberta loja faults)) := by
  have starts (r : ReqDevolucao) (p : NaTela Unit) (member : p ∈ telaDeDevolucoes.listeners r) :
      Meets contratoDaTela p (fun _ _ => True) [] := List.mem_singleton.mp member ▸ meets_toque r
  obtain ⟨lawful, -⟩ :=
    execute_told (fun _ => rfl) starts (told_telaAberta loja faults) actions
  have step (past : List Visita) (e : Visita) (told : e.state.state.tela = telaDe past) :
      (telaDeDevolucoes.exec e.op e.state).2.state.tela = telaDe (past ++ [e]) := by
    rw [show telaDeDevolucoes.exec e.op e.state = e.op.exec e.state from rfl, exec_tela, told,
      telaDe, telaDe, List.foldl_append]
    rfl
  have start : (telaAberta loja faults).state.state.tela = telaDe [] := rfl
  have shown := execute_tells (M := telaDeDevolucoes) (fun _ => rfl) (fun w => w.state.tela)
    (fun _ _ => rfl) step start actions
  rw [shown]
  exact fiel_telaDe lawful

/-- However loads, returns and changes of the orders interleave, the page shows what one load read:
the ten orders of the page it names at one of its calls, and the number of pages at another. -/
theorem tela_fiel (actions : List (Action ReqDevolucao Loja)) :
    let lidas := telaDeDevolucoes.log actions (telaAberta loja faults)
    let t := (telaDeDevolucoes.execute actions (telaAberta loja faults)).state.state.tela
    (t.currentPage = 1 ∧ t.totalPages = 1 ∧ t.tabela ∈ [.vazia, .carregando, .erro]) ∨
      ∃ task, ∃ e ∈ own task lidas, ∃ e' ∈ own task lidas, 1 ≤ t.currentPage ∧
        t.totalPages = Visita.paginas e e' t.currentPage ∧
        t.tabela ∈ [Visita.tabela e t.currentPage, .carregando, .erro] := by
  intro lidas t
  have fiel := fiel_execute loja faults actions
  rcases fiel with fresh | ⟨task, resposta, positive, read, pages, table⟩
  · exact .inl fresh
  · obtain ⟨e, member, e', member', same, counted⟩ := read.mostra
    refine .inr ⟨task, e, member, e', member', positive, pages.trans counted, ?_⟩
    rw [← same]
    simpa using table

end Fiel

section Presa

variable {t : TelaDeDevolucoes}

/-- The page before the current one is past the last one too. -/
def TelaDeDevolucoes.Presa (t : TelaDeDevolucoes) : Prop := t.totalPages + 1 < t.currentPage

theorem TelaDeDevolucoes.Presa.pedida (presa : t.Presa) {alvo : Alvo} (later : alvo ≠ .primeira) :
    t.pedida alvo = none := by
  have past : t.totalPages + 1 < t.currentPage := presa
  have refused {n : Nat} (far : t.totalPages < n) :
      (some n).filter (fun page => ¬ (page < 1 ∨ t.totalPages < page)) = none := by
    simp [far]
  cases alvo with
  | primeira => exact absurd rfl later
  | anterior =>
    rw [TelaDeDevolucoes.pedida, if_pos (by omega)]
    exact refused (by omega)
  | proxima =>
    rw [TelaDeDevolucoes.pedida, if_neg (by omega), Option.filter_none]
  | atual => exact refused (by omega)

theorem TelaDeDevolucoes.Presa.abrir (presa : t.Presa) {alvo : Alvo} (later : alvo ≠ .primeira) :
    t.abrir alvo = t := by
  rw [TelaDeDevolucoes.abrir, presa.pedida later, if_neg (by simp)]

def Recusada : (o : OpDevolucao) → Except String o.Res → Prop
  | .abrir _, answer => answer = .ok none
  | _, _ => True

/-- No call opens the first page again or shows an answer, and no other page is opened. -/
def contratoDePresa : Contract String OpDevolucao.Res Unit where
  pre o _ := match o with
    | .abrir alvo => alvo ≠ .primeira
    | .mostrar .. => False
    | _ => True
  post o _ answer _ := Recusada o answer

theorem obeys_atualizar {alvo : Alvo} (later : alvo ≠ .primeira) :
    Obeys contratoDePresa (atualizarDevolucoes alvo) := by
  refine ⟨later, fun answer _ refused => ?_⟩
  obtain rfl : answer = .ok none := refused
  trivial

theorem obeys_toque (r : ReqDevolucao) : Obeys contratoDePresa r.rota := by
  cases r with
  | anterior => exact obeys_atualizar (by decide)
  | proxima => exact obeys_atualizar (by decide)
  | salvar pedidoId descricao dataLancamento =>
    exact meets_salvar (fun _ _ => trivial) (fun _ => trivial)
      (fun _ => obeys_atualizar (by decide)) ()

theorem presa_exec (presa : t.Presa) (o : OpDevolucao) (w : Faulty Devolucoes)
    (shown : w.state.tela = t) (allowed : contratoDePresa.pre o ()) :
    contratoDePresa.post o () (o.exec w).1 () ∧ (o.exec w).2.state.tela = t := by
  rw [exec_tela, shown]
  cases o with
  | sql q => exact ⟨trivial, rfl⟩
  | rota o => exact ⟨trivial, rfl⟩
  | rede => exact ⟨trivial, rfl⟩
  | mostrar n resposta => exact allowed.elim
  | abrir alvo =>
    refine ⟨?_, presa.abrir allowed⟩
    show Except.ok (w.state.tela.pedida alvo) = .ok none
    rw [shown, presa.pedida allowed]

/-- No button and no return that is registered makes it load anything. -/
theorem presa_para_sempre {c : Config String OpDevolucao.Res Unit (Faulty Devolucoes)}
    (ended : ∀ p ∈ c.tasks, p.Ended) (presa : c.state.state.tela.Presa)
    (actions : List (Action ReqDevolucao Loja)) :
    (telaDeDevolucoes.execute actions c).state.state.tela = c.state.state.tela := by
  have idle (p : NaTela Unit) (member : p ∈ c.tasks) : Obeys contratoDePresa p := by
    cases p with
    | call o next => exact (ended _ member).elim
    | done a => trivial
    | fail e => trivial
  exact execute_obeys_from (M := telaDeDevolucoes) (J := fun w => w.state.tela = c.state.state.tela)
    (fun o w shown allowed => presa_exec presa o w shown allowed) (fun _ => rfl)
    (fun _ _ same => same) (fun r _ => obeys_toque r) ⟨rfl, idle⟩

/-- There was one page at most when there was nothing to show. -/
theorem TelaDeDevolucoes.Fiel.sem_devolucoes {l : List Visita} (fiel : t.Fiel l)
    (empty : t.tabela = .nenhuma) : t.totalPages = 1 := by
  rcases fiel with ⟨-, only, -⟩ | ⟨_, resposta, -, -, pages, table | waits⟩
  · exact only
  · cases resposta with
    | nenhuma => exact pages
    | pagina pedidos => exact absurd (empty.symm.trans table) nofun
  · simp [empty] at waits

/-- Once a page after the second, with no load under way, says that there are no returns, it says
so for ever: whichever orders come, no button and no return makes it load anything. -/
theorem sem_devolucoes_para_sempre {loja : Loja} {faults : List Bool}
    {before : List (Action ReqDevolucao Loja)}
    {c : Config String OpDevolucao.Res Unit (Faulty Devolucoes)}
    (reached : telaDeDevolucoes.execute before (telaAberta loja faults) = c)
    (ended : ∀ p ∈ c.tasks, p.Ended) (empty : c.state.state.tela.tabela = .nenhuma)
    (far : 2 < c.state.state.tela.currentPage) (later : List (Action ReqDevolucao Loja)) :
    (telaDeDevolucoes.execute later c).state.state.tela = c.state.state.tela := by
  subst reached
  have only := (fiel_execute loja faults before).sem_devolucoes empty
  refine presa_para_sempre ended ?_ later
  rw [TelaDeDevolucoes.Presa, only]
  exact far

def devolveAUltima : List (Action ReqDevolucao Loja) :=
  List.replicate 5 (.step 0) ++ [.arrive .proxima] ++ List.replicate 5 (.step 1) ++
    [.arrive .proxima] ++ List.replicate 5 (.step 2) ++
    [.arrive (.salvar 21 "Embalagem aberta" "2024-01-01")] ++ List.replicate 7 (.step 3)

def lojaComDevolucoes : Loja where
  db := {
    estoque := Table.ofList [⟨"coco", 5, "un", 4⟩]
    pedidosDiarios := Table.ofList (List.replicate 21 ⟨"5511", .falha, some 1, none, false, 0⟩)
    pedidoItens := [⟨21, 1, 2⟩] }

instance (p : NaTela Unit) : Decidable p.Ended :=
  match p with
  | .done _ | .fail _ => isTrue trivial
  | .call .. => isFalse id

def devolvidaAUltima : Config String OpDevolucao.Res Unit (Faulty Devolucoes) :=
  telaDeDevolucoes.execute devolveAUltima (telaAberta lojaComDevolucoes [])

theorem sem_devolucoes_com_vinte :
    (devolvidaAUltima.state.state.loja.devolviveis none).length = 20 ∧
      (telaDeDevolucoes.execute [.arrive .anterior, .step 4] devolvidaAUltima).state.state.tela =
        ⟨3, 1, .nenhuma⟩ := by
  have shown : devolvidaAUltima.state.state.tela = ⟨3, 1, .nenhuma⟩ := by decide +kernel
  have ended : ∀ p ∈ devolvidaAUltima.tasks, p.Ended := by decide +kernel
  have left : (devolvidaAUltima.state.state.loja.devolviveis none).length = 20 := by
    decide +kernel
  refine ⟨left, ?_⟩
  have forever := sem_devolucoes_para_sempre (c := devolvidaAUltima) rfl ended
    (congrArg TelaDeDevolucoes.tabela shown)
    (congrArg TelaDeDevolucoes.currentPage shown ▸ by decide) [.arrive .anterior, .step 4]
  rw [forever, shown]

end Presa
end IceClube
