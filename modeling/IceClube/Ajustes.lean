import IceClube.Rotas
import IceClube.PaginaDeVendas
import IceClube.Statements

/-! Two routes that write to an order or a sale what the request says: `POST /mover` and
`PATCH /api/vendas/:id`. Neither looks at the row before. -/
namespace IceClube

open Coop Prog

/-- The body of `PATCH /api/vendas/:id`; an empty text or `none` is a missing field. -/
structure CorpoVenda where
  formaPagamento : String
  status : String
  valorTotal : Option ℚ
  deriving DecidableEq, Repr

inductive SqlAjuste where
  | updateStatus (status : Status) (id : Option Nat)
  | updateVenda (formaPagamento status : String) (valorTotal : ℚ) (id : Nat)

/-- `updateVenda` answers `affectedRows`. -/
@[reducible] def SqlAjuste.Res : SqlAjuste → Type
  | .updateStatus .. => Unit
  | .updateVenda .. => Nat

namespace Loja

/-- `UPDATE pedidos_diarios SET status = ? WHERE id = ?`, where NULL equals no identifier. -/
def movido (status : Status) (id : Option Nat) (loja : Loja) : Loja :=
  match id with
  | some id => { loja with db := loja.db.setStatus status id }
  | none => loja

/-- `UPDATE vendas SET forma_pagamento = ?, status = ?, valor_total = ? WHERE id = ?`. -/
def ajustada (formaPagamento status : String) (valorTotal : ℚ) (id : Nat) (loja : Loja) : Loja :=
  { loja with
    db := { loja.db with
      vendas := loja.db.vendas.modify id fun v =>
        { v with formaPagamento := formaPagamento, valorTotal := valorTotal } }
    colunasVenda := fun other =>
      if other = id then { loja.colunasVenda id with status := some status }
      else loja.colunasVenda other }

end Loja

def SqlAjuste.sem : (q : SqlAjuste) → Loja → q.Res × Loja
  | .updateStatus status id, loja => ((), loja.movido status id)
  | .updateVenda formaPagamento status valorTotal id, loja =>
    (if (loja.db.vendas.get id).isSome then 1 else 0,
      loja.ajustada formaPagamento status valorTotal id)

abbrev RotaDeAjuste := Prog String SqlAjuste.Res

/-- `POST /mover` takes any status, and says 200 also where there is no such order. -/
def mover (id : Option Nat) (status : Status) : RotaDeAjuste Resposta :=
  let gravar : RotaDeAjuste Resposta := do
    ask (SqlAjuste.updateStatus status id)
    pure ⟨200, "OK", none⟩
  gravar.handle fun _ => pure ⟨500, "Erro interno ao mover pedido.", none⟩

def patchVenda (id : Nat) (corpo : CorpoVenda) : RotaDeAjuste Resposta :=
  match corpo.valorTotal with
  | none => pure ⟨400, "Forma de pagamento, status e valor são obrigatórios", none⟩
  | some valorTotal =>
    if corpo.formaPagamento = "" ∨ corpo.status = "" then
      pure ⟨400, "Forma de pagamento, status e valor são obrigatórios", none⟩
    else
      let gravar : RotaDeAjuste Resposta := do
        let affectedRows ←
          ask (SqlAjuste.updateVenda corpo.formaPagamento corpo.status valorTotal id)
        if affectedRows = 0 then pure ⟨404, "Venda não encontrada", none⟩
        else pure ⟨200, "Venda atualizada com sucesso", none⟩
      gravar.handle fun _ => pure ⟨500, "Erro ao atualizar venda", none⟩

inductive ReqAjuste where
  | mover (id : Option Nat) (status : Status)
  | patchVenda (id : Nat) (corpo : CorpoVenda)
  deriving DecidableEq, Repr

def ReqAjuste.rota : ReqAjuste → RotaDeAjuste Resposta
  | .mover id status => IceClube.mover id status
  | .patchVenda id corpo => IceClube.patchVenda id corpo

def ajustes : System ReqAjuste Empty String SqlAjuste.Res Resposta (Faulty Loja) :=
  autocommit SqlAjuste.sem Tx.rejeicao ReqAjuste.rota fun _ loja => loja

end IceClube
