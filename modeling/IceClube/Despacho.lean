import IceClube.Routing
import IceClube.Texto

/-! Which handler of the web server answers a request: Express takes the first route whose
method and path match. The files that `express.static` serves carry none of these paths. -/
namespace IceClube

open Routing

inductive MetodoHttp where
  | get | post | put | patch | delete
  deriving DecidableEq, Repr

def rotas : List (MetodoHttp × String) := [
  (.get, "/pedidos_diarios"),
  (.get, "/pedidos_entrega"),
  (.get, "/api/produtos"),
  (.post, "/alterar_status"),
  (.post, "/enviar_para_entrega"),
  (.post, "/mover"),
  (.post, "/valido"),
  (.get, "/api/pedidos-devolucao"),
  (.post, "/login"),
  (.get, "/comprovante/:id"),
  (.get, "/api/estoque/categorias"),
  (.get, "/api/vendas-por-cliente"),
  (.get, "/api/estoque"),
  (.post, "/api/estoque"),
  (.post, "/api/estoque/entrada"),
  (.post, "/api/estoque/saida"),
  (.get, "/api/lancamentos"),
  (.post, "/api/lancamentos"),
  (.get, "/api/entregadores-disponiveis"),
  (.post, "/api/atribuir-entregas"),
  (.put, "/api/lancamentos/:id"),
  (.delete, "/api/lancamentos/:id"),
  (.get, "/api/dashboard"),
  (.patch, "/api/estoque/:id"),
  (.delete, "/api/estoque/:id"),
  (.get, "/entregas"),
  (.get, "/api/categorias"),
  (.post, "/api/categorias"),
  (.get, "/api/resumo"),
  (.get, "/api/entregas"),
  (.get, "/api/entregadores"),
  (.post, "/api/atualizar_valor_recebido"),
  (.get, "/api/vendas"),
  (.post, "/api/pedido_manual"),
  (.patch, "/api/vendas/:id"),
  (.get, "/api/usuarios_web"),
  (.get, "/api/usuarios_web/:id"),
  (.post, "/api/usuarios_web"),
  (.get, "/api/usuarios"),
  (.get, "/api/usuarios/:id"),
  (.post, "/api/usuarios"),
  (.put, "/api/usuarios/:id"),
  (.get, "/api/despesas"),
  (.get, "/api/despesas/:id"),
  (.post, "/api/despesas"),
  (.put, "/api/despesas/:id"),
  (.delete, "/api/despesas/:id"),
  (.get, "/api/categorias/despesas"),
  (.post, "/api/despesas/categorias/adicionar"),
  (.get, "/api/despesas/relatorio"),
  (.delete, "/api/usuarios/:id"),
  (.get, "/api/entregas/:id"),
  (.get, "/api/entregas"),
  (.get, "/api/entregadores"),
  (.put, "/api/usuarios_web/:id"),
  (.delete, "/api/usuarios_web/:id"),
  (.get, "/api/entregasmetricas"),
  (.post, "/editar_pagamento"),
  (.post, "/editar_itens"),
  (.get, "/api/pedidos/:id"),
  (.get, "/api/pedidos_pendentes"),
  (.get, "/promocoes"),
  (.get, "/produtos"),
  (.post, "/promocoes"),
  (.put, "/promocoes/:id"),
  (.delete, "/promocoes/:id")]

/-- The pieces of a path without its final slash; none of them is empty. A parameter that cannot be
decoded (`%zz`), like a body that is no JSON, is refused before any route and is not meant here. -/
def segmentos (caminho : Texto) : Option (List Texto) :=
  match caminho.splitOn '/' with
  | [] :: resto =>
    let partes := if resto.getLast? = some [] then resto.dropLast else resto
    if partes.all (· ≠ []) then some partes else none
  | _ => none

def peca : Texto → Piece Texto
  | ':' :: _ => .param
  | parte => .lit parte

def MetodoHttp.texto : MetodoHttp → Texto
  | get => "GET".toList
  | post => "POST".toList
  | put => "PUT".toList
  | patch => "PATCH".toList
  | delete => "DELETE".toList

/-- The method stands for a first piece. -/
def padrao (rota : MetodoHttp × String) : Pattern Texto :=
  .lit rota.1.texto :: ((segmentos rota.2.toList).getD []).map peca

/-- The letters of a path, which is in ASCII, without their case. -/
def semCaixa (parte : Texto) : Texto := parte.map Char.toLower

/-- The route that answers; the case of a path does not matter. -/
def despacha (metodo : MetodoHttp) (caminho : Texto) : Option Nat := do
  let partes ← segmentos caminho
  dispatch (rotas.map padrao) (metodo.texto :: partes.map semCaixa)

def casa (rota : MetodoHttp × String) (metodo : MetodoHttp) (caminho : Texto) : Prop :=
  ∃ partes, segmentos caminho = some partes ∧
    (padrao rota).accepts (metodo.texto :: partes.map semCaixa) = true

/-- The three routes that are registered behind another of the same paths. -/
def mortas : List (Nat × MetodoHttp × String) :=
  [(49, .get, "/api/despesas/relatorio"), (52, .get, "/api/entregas"),
    (53, .get, "/api/entregadores")]

theorem rotas_anteriores : ∀ i : Fin rotas.length,
    if (i.val, rotas.get i) ∈ mortas then
      ∃ p ∈ (rotas.map padrao).take i, p.covers (padrao (rotas.get i)) = true
    else ∀ p ∈ (rotas.map padrao).take i, p.apart (padrao (rotas.get i)) = true := by
  decide +kernel

/-- A request is answered by the route it matches, whatever the order of the routes; but the
monthly report of the expenses, the filtered deliveries and the searched couriers, each registered
behind a route of the same paths, answer nothing. -/
theorem despacha_iff (i : Fin rotas.length) (metodo : MetodoHttp) (caminho : Texto) :
    despacha metodo caminho = some i.val ↔
      (i.val, rotas.get i) ∉ mortas ∧ casa (rotas.get i) metodo caminho := by
  have found : (rotas.map padrao)[i.val]? = some (padrao (rotas.get i)) := by
    simp
  have earlier := rotas_anteriores i
  rw [despacha, casa]
  cases segmentos caminho with
  | none => simp
  | some partes =>
    rw [Option.bind_eq_bind, Option.bind_some]
    by_cases dead : (i.val, rotas.get i) ∈ mortas
    · rw [if_pos dead] at earlier
      obtain ⟨p, member, covered⟩ := earlier
      have silent := dispatch_ne_of_covers found member covered
      exact iff_of_false (silent _) fun both => both.1 dead
    · rw [if_neg dead] at earlier
      rw [dispatch_iff_of_apart found earlier]
      constructor
      · exact fun accepted => ⟨dead, partes, rfl, accepted⟩
      · rintro ⟨-, _, same, accepted⟩
        rwa [Option.some.inj same]

end IceClube
