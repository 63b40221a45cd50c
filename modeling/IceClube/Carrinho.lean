import IceClube.Quantidade

/-! What the step 'adicionar_itens' of a sale does to the cart: one text adds a line, takes
one away or leaves the cart as it was. -/
namespace IceClube

open Coop Prog

def Mundo.carrinho (c : Chat) (r : Nat) (m : Mundo) : Option (List ItemCarrinho) :=
  ((m.conversas c).objetos r).carrinho

/-- `SELECT … FROM estoque WHERE LOWER(nome) = ?`. -/
def achar (chamaSe : String → Texto → Bool) (estoque : Table Estoque) (nome : Texto) :
    Option (Nat × Estoque) :=
  estoque.rows.find? fun e => chamaSe e.2.nome nome

namespace Campo

def noCarrinho (campo : Campo) (cart : Option (List ItemCarrinho)) : Option (List ItemCarrinho) :=
  match campo with
  | carrinho itens => some itens
  | pushItem item => cart.map (· ++ [item])
  | removeItem index => cart.map (·.eraseIdx index)
  | _ => cart

def foraDoCarrinho : Campo → Bool
  | carrinho _ | pushItem _ | removeItem _ => false
  | _ => true

end Campo

theorem carrinho_atribuir (s : Sessao) (campo : Campo) :
    (s.atribuir campo).carrinho = campo.noCarrinho s.carrinho := by
  cases campo <;> rfl

theorem carrinho_atribuidos (campos : List Campo) (s : Sessao) :
    (s.atribuirTodos campos).carrinho =
      campos.foldl (fun cart campo => campo.noCarrinho cart) s.carrinho := by
  induction campos generalizing s with
  | nil => rfl
  | cons campo campos ih =>
    rw [Sessao.atribuirTodos_cons, ih, carrinho_atribuir]
    rfl

theorem noCarrinho_fora {campos : List Campo} (fora : campos.all Campo.foraDoCarrinho = true)
    (cart : Option (List ItemCarrinho)) :
    campos.foldl (fun cart campo => campo.noCarrinho cart) cart = cart := by
  induction campos with
  | nil => rfl
  | cons campo campos ih =>
    rw [List.all_cons, Bool.and_eq_true] at fora
    have same : campo.noCarrinho cart = cart := by
      cases campo <;> first | rfl | cases fora.1
    rw [List.foldl_cons, same]
    exact ih fora.2

theorem estoque_sqlBot (q : SqlBot) (db : Db) : (q.sem db).2.estoque = db.estoque := by
  cases q with
  | receberEntrega id | falharEntrega _ id | receber _ id | justificar _ _ id
  | updateEndereco id _ =>
    cases id <;> rfl
  | receberPedido id | falharPedido id =>
    simp only [SqlBot.sem, Db.alterarPedidoDaEntrega]
    split <;> rfl
  | receberVenda id =>
    simp only [SqlBot.sem, Db.alterarVendaDaEntrega]
    split <;> rfl
  | _ => rfl

theorem estoque_sem (o : Ato) (m : Mundo) : (o.sem m).2.db.estoque = m.db.estoque := by
  cases o with
  | query c q =>
    rw [Ato.sem]
    split
    · rfl
    · exact estoque_sqlBot q m.db
  | _ => rfl

theorem chamaSe_sqlBot (q : SqlBot) (db : Db) : (q.sem db).2.chamaSe = db.chamaSe := by
  cases q with
  | receberEntrega id | falharEntrega _ id | receber _ id | justificar _ _ id
  | updateEndereco id _ =>
    cases id <;> rfl
  | receberPedido id | falharPedido id =>
    simp only [SqlBot.sem, Db.alterarPedidoDaEntrega]
    split <;> rfl
  | receberVenda id =>
    simp only [SqlBot.sem, Db.alterarVendaDaEntrega]
    split <;> rfl
  | _ => rfl

theorem chamaSe_sem (o : Ato) (m : Mundo) : (o.sem m).2.db.chamaSe = m.db.chamaSe := by
  cases o with
  | query c q =>
    rw [Ato.sem]
    split
    · rfl
    · exact chamaSe_sqlBot q m.db
  | _ => rfl

/-- The view is the cart, and the stock that nothing changes. -/
def cesta (c : Chat) (r : Nat) (chamaSe : String → Texto → Bool) :
    Contract String Ato.Res (Option (List ItemCarrinho) × Table Estoque) where
  pre
    | .novo .., _ => False
    | _, _ => True
  post
    | .ler c' r', v, answer, v' =>
      v' = v ∧ (c' = c → r' = r → ∃ s : Sessao, answer = .ok s ∧ s.carrinho = v.1)
    | .atribuir c' r' campos, v, _, v' =>
      v' = (if c' = c ∧ r' = r then campos.foldl (fun cart campo => campo.noCarrinho cart) v.1
        else v.1, v.2)
    | .query _ (.selectProduto nome), v, answer, v' =>
      v' = v ∧ ∀ x, answer = .ok x → x = achar chamaSe v.2 nome
    | .query _ .selectCombo, v, answer, v' =>
      v' = v ∧ ∀ x, answer = .ok x → x = (v.2.get 6, v.2.get 7)
    | _, v, _, v' => v' = v

def NaCesta (c : Chat) (r : Nat) (chamaSe : String → Texto → Bool) (m : Mundo)
    (v : Option (List ItemCarrinho) × Table Estoque) : Prop :=
  v = (m.carrinho c r, m.db.estoque) ∧ m.db.chamaSe = chamaSe

section Mundo

variable {c : Chat} {r : Nat} {chamaSe : String → Texto → Bool}

theorem naCesta_parada {o : Ato} (fixo : o.mudaObjeto = false) (m : Mundo) :
    NaCesta c r m.db.chamaSe (o.sem m).2 (m.carrinho c r, m.db.estoque) := by
  simp only [NaCesta, Mundo.carrinho, objetos_sem fixo, estoque_sem, chamaSe_sem, and_self]

theorem carrinho_atribui (c' : Chat) (r' : Nat) (campos : List Campo) (m : Mundo) :
    (m.conversa c' (·.atribui r' campos)).carrinho c r =
      if c' = c ∧ r' = r then
        campos.foldl (fun cart campo => campo.noCarrinho cart) (m.carrinho c r)
      else m.carrinho c r := by
  by_cases chat : c' = c
  · subst chat
    rw [Mundo.carrinho, Mundo.conversas_conversa]
    by_cases object : r' = r
    · subst object
      rw [Conversa.objetos_atribui, carrinho_atribuidos, if_pos ⟨rfl, rfl⟩]
      rfl
    · rw [Conversa.objetos_atribui_ne _ _ _ (Ne.symm object), if_neg fun both => object both.2]
      rfl
  · rw [Mundo.carrinho, Mundo.conversas_conversa_ne (Ne.symm chat), if_neg fun both => chat both.1]
    rfl

theorem naCesta_exec {o : Ato} {m : Mundo} {v : Option (List ItemCarrinho) × Table Estoque}
    (seen : NaCesta c r chamaSe m v) (pre : (cesta c r chamaSe).pre o v) :
    ∃ v', (cesta c r chamaSe).post o v (o.exec m).1 v' ∧ NaCesta c r chamaSe (o.exec m).2 v' := by
  obtain ⟨rfl, rfl⟩ := seen
  cases o with
  | novo => exact pre.elim
  | ler c' r' =>
    rw [Ato.exec_infalivel rfl]
    refine ⟨_, ⟨rfl, ?_⟩, rfl, rfl⟩
    rintro rfl rfl
    exact ⟨_, rfl, rfl⟩
  | atribuir c' r' campos =>
    rw [Ato.exec_infalivel rfl]
    exact ⟨_, rfl, congrArg (·, m.db.estoque) (carrinho_atribui c' r' campos m).symm, rfl⟩
  | query c' q =>
    refine ⟨(m.carrinho c r, m.db.estoque), ?_, ?_⟩
    · refine Ato.exec_regra (R := fun answer _ => (cesta c r m.db.chamaSe).post (.query c' q) _ answer _)
        (fun falhas => ?_) (fun _ falhas erro => ?_) fun _ falhas erro => ?_
      · cases q with
        | selectProduto nome => exact ⟨rfl, fun x same => (Except.ok.inj same).symm⟩
        | selectCombo => exact ⟨rfl, fun x same => (Except.ok.inj same).symm⟩
        | _ => rfl
      · cases q with
        | selectProduto | selectCombo => exact ⟨rfl, fun x same => by cases same⟩
        | _ => rfl
      · cases q with
        | selectProduto | selectCombo => exact ⟨rfl, fun x same => by cases same⟩
        | _ => rfl
    · exact Ato.exec_regra (R := fun _ m' => NaCesta c r m.db.chamaSe m' _)
        (fun falhas => naCesta_parada rfl (m.comFalhas falhas)) (fun _ falhas erro => ⟨rfl, rfl⟩)
        fun _ falhas erro => naCesta_parada rfl (m.comFalhas falhas)
  | _ =>
    refine ⟨(m.carrinho c r, m.db.estoque), rfl, ?_⟩
    exact Ato.exec_regra (R := fun _ m' => NaCesta c r m.db.chamaSe m' _)
      (fun falhas => naCesta_parada rfl (m.comFalhas falhas)) (fun _ falhas erro => ⟨rfl, rfl⟩)
      fun _ falhas erro => naCesta_parada rfl (m.comFalhas falhas)

theorem run_cesta {α : Type} {p : Fluxo α} {m : Mundo}
    {Q : Option (List ItemCarrinho) × Table Estoque → Prop}
    (meets : Meets (cesta c r m.db.chamaSe) p (fun _ => Q) (m.carrinho c r, m.db.estoque)) :
    Q ((p.run Ato.exec m).2.carrinho c r, (p.run Ato.exec m).2.db.estoque) := by
  obtain ⟨v, holds, seen, -⟩ :=
    meets_run (NaCesta c r m.db.chamaSe) (fun _ _ _ => naCesta_exec) meets ⟨rfl, rfl⟩
  exact seen ▸ holds

end Mundo

def Ato.PoupaCarrinho : Ato → Prop
  | .novo .. => False
  | .atribuir _ _ campos => campos.all Campo.foraDoCarrinho = true
  | _ => True

/-- The cart has one line more, of this product and this quantity, or nothing changed. -/
def Ganhou (produto : Option (Nat × Estoque)) (quantidade : Nat)
    (v v' : Option (List ItemCarrinho) × Table Estoque) : Prop :=
  v' = v ∨ ∃ (itens : List ItemCarrinho) (l : LinhaCarrinho), v.1 = some itens ∧
    l.produto = produto ∧ l.quantidade = quantidade ∧ v' = (some (itens ++ [l.item]), v.2)

section Textos

variable {c : Chat} {r : Nat} {chamaSe : String → Texto → Bool}
  {v : Option (List ItemCarrinho) × Table Estoque} {α : Type} {produto : Option (Nat × Estoque)} {quantidade : Nat}

theorem cesta_parada {p : Fluxo α} (calls : p.Calls Ato.PoupaCarrinho) :
    Meets (cesta c r chamaSe) p (fun _ v' => v' = v) v := by
  refine calls_frame (J := fun v' => v' = v) calls (fun o v' quiet same => ?_) rfl
  obtain rfl := same
  cases o with
  | novo => exact quiet.elim
  | ler => exact ⟨trivial, fun _ _ post => post.1⟩
  | atribuir c' r' campos =>
    refine ⟨trivial, fun _ w post => ?_⟩
    rw [show w = _ from post, noCarrinho_fora quiet, ite_self]
  | query c' q =>
    refine ⟨trivial, fun _ _ post => ?_⟩
    cases q with
    | selectProduto | selectCombo => exact post.1
    | _ => exact post
  | _ => exact ⟨trivial, fun _ _ post => post⟩

theorem carrinho_poupado {p : Fluxo α} (calls : p.Calls Ato.PoupaCarrinho) (m : Mundo) :
    (p.run Ato.exec m).2.carrinho c r = m.carrinho c r := by
  have kept := run_cesta (Q := fun v' => v' = _) (m := m) (cesta_parada (c := c) (r := r) calls)
  exact congrArg Prod.fst kept

theorem poupa_enviarVenda (mensagem : String) :
    (enviarVenda c mensagem).Calls Ato.PoupaCarrinho :=
  calls_enviarVenda (fun _ => trivial) mensagem

theorem poupa_atualizar {campos : List Campo} (fora : campos.all Campo.foraDoCarrinho = true) :
    (atualizar c r campos).Calls Ato.PoupaCarrinho := by
  refine calls_bind ((calls_ask _).mpr trivial) fun agora => (calls_ask _).mpr ?_
  simp [Ato.PoupaCarrinho, fora, Campo.foraDoCarrinho]

theorem poupa_menu : (showInitialMenu c r).Calls Ato.PoupaCarrinho :=
  calls_bind ((calls_ask _).mpr trivial) fun _ => poupa_enviarVenda _

theorem poupa_resposta (mensagem : String) : Calls Ato.PoupaCarrinho (do
    enviarVenda c mensagem
    atualizar c r []) :=
  calls_bind (poupa_enviarVenda _) fun _ => poupa_atualizar rfl

theorem cesta_guardarItem (l : LinhaCarrinho) (mensagem : String) :
    Meets (cesta c r chamaSe) (do
      guardarItem c r l.item
      enviarVenda c mensagem
      atualizar c r []) (fun _ => Ganhou l.produto l.quantidade v) v := by
  have after (v' : Option (List ItemCarrinho) × Table Estoque)
      (added : Ganhou l.produto l.quantidade v v') :
      Meets (cesta c r chamaSe) (do
        enviarVenda c mensagem
        atualizar c r []) (fun _ => Ganhou l.produto l.quantidade v) v' := by
    apply meets_mono (cesta_parada (poupa_resposta mensagem))
    rintro _ _ rfl
    exact added
  rw [meets_bind, guardarItem, meets_bind]
  refine (meets_ask ..).mpr ⟨trivial, fun answer v' post => ?_⟩
  obtain ⟨rfl, read⟩ := post
  obtain ⟨s, rfl, cart⟩ := read rfl rfl
  rw [then_ok]
  cases open_cart : s.carrinho with
  | none => exact .inl rfl
  | some itens =>
    refine (meets_ask ..).mpr ⟨trivial, fun answer w post => ?_⟩
    have grown : w = (some (itens ++ [l.item]), v'.2) := by
      rw [show w = _ from post, if_pos ⟨rfl, rfl⟩, ← cart, open_cart]
      rfl
    have added : Ganhou l.produto l.quantidade v' w :=
      .inr ⟨itens, l, by rw [← cart, open_cart], rfl, rfl, grown⟩
    cases answer with
    | error e => exact added
    | ok _ => exact after w added

theorem cesta_adicionarProduto (id : Nat) (produto : Estoque) (positiva : 0 < quantidade)
    (nome : String) : Meets (cesta c r chamaSe) (adicionarProduto c r id produto quantidade nome)
      (fun _ => Ganhou (some (id, produto)) quantidade v) v := by
  rw [adicionarProduto, meets_bind]
  refine (meets_ask ..).mpr ⟨trivial, fun answer v' post => ?_⟩
  obtain rfl := post
  cases answer with
  | error e => exact .inl rfl
  | ok preco =>
    rw [then_ok]
    cases preco with
    | none =>
      apply meets_mono (cesta_parada (poupa_enviarVenda _))
      rintro _ _ rfl
      exact .inl rfl
    | some valor => exact cesta_guardarItem ⟨some (id, produto), quantidade, positiva, valor⟩ _

theorem cesta_adicionarItem (texto : Texto) :
    Meets (cesta c r chamaSe) (adicionarItem c r texto) (fun _ v' => v' = v ∨
      ∃ lido id produto, Texto.item (Texto.trim texto) = some lido ∧
        achar chamaSe v.2 (Texto.toLowerCase lido.2) = some (id, produto) ∧
        ((Texto.primeiroNumero lido.1).getD 0 : ℚ) ≤ produto.quantidade ∧
        Ganhou (some (id, produto)) ((Texto.primeiroNumero lido.1).getD 0) v v') v := by
  have quiet {p : Fluxo Unit} (calls : p.Calls Ato.PoupaCarrinho)
      {Q : Option (List ItemCarrinho) × Table Estoque → Prop} :
      Meets (cesta c r chamaSe) p (fun _ v' => v' = v ∨ Q v') v :=
    meets_mono (cesta_parada calls) fun _ _ same => .inl same
  rw [adicionarItem]
  cases read : Texto.item (Texto.trim texto) with
  | none => exact quiet (poupa_resposta _)
  | some lido =>
    obtain ⟨quantidadeStr, nomeDigitado⟩ := lido
    dsimp only
    split
    next zero => exact quiet (poupa_resposta _)
    next positive =>
      rw [meets_bind]
      refine (meets_ask ..).mpr ⟨trivial, fun answer v' post => ?_⟩
      obtain ⟨rfl, found⟩ := post
      cases answer with
      | error e => exact .inl rfl
      | ok x =>
        rw [then_ok]
        cases x with
        | none =>
          apply quiet
          exact calls_bind ((calls_ask (Ato.query c _)).mpr trivial) fun _ => poupa_enviarVenda _
        | some linha =>
          obtain ⟨id, produto⟩ := linha
          dsimp only
          split
          next short => exact quiet (poupa_enviarVenda _)
          next enough =>
            refine meets_mono (cesta_adicionarProduto id produto (Nat.pos_of_ne_zero positive)
              (String.ofList (Texto.toLowerCase nomeDigitado))) fun _ w grown => .inr ?_
            exact ⟨_, id, produto, rfl, (found _ rfl).symm, not_lt.mp enough, grown⟩

theorem cesta_adicionarCombo (texto : Texto) :
    Meets (cesta c r chamaSe) (adicionarCombo c r texto) (fun _ v' => v' = v ∨
      ∃ quantidade, Texto.primeiroNumero texto = some quantidade ∧
        temParaCombo (v.2.get 6, v.2.get 7) quantidade = true ∧ Ganhou none quantidade v v') v := by
  rw [adicionarCombo]
  have quiet {p : Fluxo Unit} (calls : p.Calls Ato.PoupaCarrinho)
      {Q : Option (List ItemCarrinho) × Table Estoque → Prop} :
      Meets (cesta c r chamaSe) p (fun _ v' => v' = v ∨ Q v') v :=
    meets_mono (cesta_parada calls) fun _ _ same => .inl same
  split
  next none => exact quiet (poupa_resposta _)
  next zero => exact quiet (poupa_enviarVenda _)
  next quantidade positive number =>
    rw [meets_bind]
    refine (meets_ask ..).mpr ⟨trivial, fun answer v' post => ?_⟩
    obtain ⟨rfl, found⟩ := post
    cases answer with
    | error e => exact .inl rfl
    | ok estoque =>
      obtain rfl := found estoque rfl
      rw [then_ok]
      split
      next short => exact quiet (poupa_enviarVenda _)
      next enough =>
        rw [meets_bind]
        refine (meets_ask ..).mpr ⟨trivial, fun answer w post => ?_⟩
        obtain rfl := post
        cases answer with
        | error e => exact .inl rfl
        | ok promocao =>
          rw [then_ok]
          have positiva : 0 < quantidade := Nat.pos_of_ne_zero fun zero => positive zero
          refine meets_mono (cesta_guardarItem ⟨none, quantidade, positiva, promocao.getD 400⟩
            (s!"✅ {quantidade}un Combo Caneta + Refil adicionado ao carrinho por " ++
              s!"R${toFixed2 (promocao.getD 400)} cada."))
            fun _ _ grown => .inr ⟨quantidade, number, ?_, grown⟩
          simpa using enough

theorem cesta_removerItem (texto : Texto) :
    Meets (cesta c r chamaSe) (removerItem c r texto) (fun _ v' => v' = v ∨
      ∃ itens index, v.1 = some itens ∧ v' = (some (itens.eraseIdx index), v.2)) v := by
  rw [removerItem, meets_bind]
  refine (meets_ask ..).mpr ⟨trivial, fun answer v' post => ?_⟩
  obtain ⟨rfl, read⟩ := post
  obtain ⟨s, rfl, cart⟩ := read rfl rfl
  rw [then_ok]
  cases open_cart : s.carrinho with
  | none => exact .inl rfl
  | some itens =>
    dsimp only
    split
    next absent =>
      have calls (mensagem : String) : Calls Ato.PoupaCarrinho (do
          enviarVenda c mensagem
          atualizar c r [.etapa none]
          showInitialMenu c r) :=
        calls_bind (poupa_enviarVenda _) fun _ => calls_bind (poupa_atualizar rfl) fun _ => poupa_menu
      exact meets_mono (cesta_parada (calls _)) fun _ _ same => .inl same
    next index found =>
      have after (mensagem : String) : Calls Ato.PoupaCarrinho (do
          enviarVenda c mensagem
          faz (.atribuir c r [.etapa none])
          showInitialMenu c r) :=
        calls_bind (poupa_enviarVenda _) fun _ =>
          calls_bind ((calls_ask (Ato.atribuir c r [.etapa none])).mpr rfl) fun _ => poupa_menu
      have removed : v'.1 = some itens := by rw [← cart, open_cart]
      rw [atualizar, meets_bind, meets_bind]
      refine (meets_ask ..).mpr ⟨trivial, fun answer w post => ?_⟩
      obtain rfl := post
      cases answer with
      | error e => exact .inl rfl
      | ok agora =>
        rw [then_ok]
        refine (meets_ask ..).mpr ⟨trivial, fun answer w' post => ?_⟩
        have shorter : w' = (some (itens.eraseIdx index), w.2) := by
          rw [show w' = _ from post, if_pos ⟨rfl, rfl⟩, removed]
          rfl
        cases answer with
        | error e => exact .inr ⟨itens, index, removed, shorter⟩
        | ok _ =>
          refine meets_mono (cesta_parada (after _)) fun _ _ same => .inr ?_
          exact ⟨itens, index, removed, same.trans shorter⟩

end Textos
end IceClube
