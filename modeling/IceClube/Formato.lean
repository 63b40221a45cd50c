import IceClube.Cadastro
import IceClube.Carrinho

/-! The text that adds an item to the cart, and the format that the seller is shown for it. -/
namespace IceClube

open Coop Prog

/-- A positive number, a unit right behind it or not, white space, and the name on what is
left of the line. -/
structure Formato (texto : Texto) where
  numero : Texto
  unidade : Texto
  vazio : Texto
  nome : Texto
  partes : texto = numero ++ unidade ++ (vazio ++ nome)
  digitos : ∀ c ∈ numero, c.isDigit = true
  positivo : 0 < Texto.valor numero
  palavra : ∀ c ∈ unidade, Texto.palavra c = true
  semDigito : ∀ c, unidade.head? = some c → c.isDigit = false
  espacos : ∀ c ∈ vazio, espaco c = true
  separado : vazio ≠ []
  solido : ∃ c, nome.head? = some c ∧ espaco c = false
  umaLinha : ∀ c ∈ nome, fimDeLinha c = false

section Leitura

namespace Formato

variable {texto : Texto} (f : Formato texto)

theorem numero_ne_nil : f.numero ≠ [] := by
  intro empty
  have positivo := f.positivo
  rw [empty] at positivo
  exact absurd positivo (by decide)

theorem palavra_inteira : ∀ c ∈ f.numero ++ f.unidade, Texto.palavra c = true := by
  intro c member
  rcases List.mem_append.mp member with number | unit
  · exact Texto.palavra_digito (f.digitos c number)
  · exact f.palavra c unit

theorem vazio_cons : ∃ c resto, f.vazio = c :: resto ∧ espaco c = true := by
  obtain ⟨c, resto, same⟩ := List.exists_cons_of_ne_nil f.separado
  exact ⟨c, resto, same, f.espacos c (by simp [same])⟩

/-- A text in the format is read as it is meant. -/
theorem item_eq : Texto.item texto = some (f.numero ++ f.unidade, f.nome) := by
  obtain ⟨first, resto, number⟩ := List.exists_cons_of_ne_nil f.numero_ne_nil
  obtain ⟨blank, blanks, gap, white⟩ := f.vazio_cons
  obtain ⟨letter, head, solid⟩ := f.solido
  have digit : first.isDigit = true := f.digitos first (by simp [number])
  have notWord : Texto.palavra blank = false := by
    cases word : Texto.palavra blank with
    | false => rfl
    | true => rw [Texto.espaco_palavra word] at white; cases white
  obtain ⟨quantity, after⟩ := span_exato _ (f.vazio ++ f.nome) f.palavra_inteira (by
    simpa [gap] using notWord)
  obtain ⟨-, name⟩ := span_exato _ f.nome f.espacos (by
    intro c first
    rw [head, Option.some.injEq] at first
    rw [← first, solid])
  have line : f.nome.takeWhile (fun c => !fimDeLinha c) = f.nome := by
    have whole := span_exato (p := fun c => !fimDeLinha c) f.nome []
      (fun c member => by simp [f.umaLinha c member]) (by simp)
    rw [List.append_nil] at whole
    exact whole.1
  have some_name : f.nome ≠ [] := by
    intro empty
    rw [empty] at head
    cases head
  have whole : first :: (resto ++ f.unidade ++ (f.vazio ++ f.nome)) =
      f.numero ++ f.unidade ++ (f.vazio ++ f.nome) := by
    simp [number]
  calc Texto.item texto
      = Texto.item (first :: (resto ++ f.unidade ++ (f.vazio ++ f.nome))) :=
        congrArg Texto.item (f.partes.trans whole.symm)
    _ = some (f.numero ++ f.unidade, f.nome) := by
        rw [Texto.item, whole, quantity, after, name, line, gap]
        simp [digit, white, some_name]

theorem primeiroNumero_eq :
    Texto.primeiroNumero (f.numero ++ f.unidade) = some (Texto.valor f.numero) := by
  obtain ⟨first, resto, number⟩ := List.exists_cons_of_ne_nil f.numero_ne_nil
  have digit : first.isDigit = true := f.digitos first (by simp [number])
  have skip : (f.numero ++ f.unidade).dropWhile (fun c => !c.isDigit) = f.numero ++ f.unidade := by
    simp [number, digit]
  rw [Texto.primeiroNumero, skip, (span_exato _ _ f.digitos f.semDigito).1, if_neg f.numero_ne_nil]

end Formato
end Leitura

def formatoInvalido : String :=
  "⚠️ *Formato inválido.* Use: 1un 25g capulho gourmet ou combo caneta refil 1"

/-- The texts that `handleSales` takes for a command or a combo in this step. -/
def Texto.comando (texto : Texto) : Bool :=
  let minusculo := Texto.toLowerCase texto
  minusculo = "sair".toList || minusculo = "produto".toList ||
    minusculo = "ver carrinho".toList || minusculo.startsWith "remover ".toList ||
    minusculo.startsWith "combo caneta refil".toList

/-- The seller is in the step 'adicionar_itens', and the sale is not too old. -/
structure NoPasso (c : Chat) (r : Nat) (m : Mundo) : Prop where
  etapa : ((m.conversas c).objetos r).etapa = some .adicionarItens
  recente : vendaExpirada ((m.conversas c).objetos r) m.db.agora = false

def Envia (c : Chat) (mensagem : String) (p : Fluxo Unit) (m : Mundo) : Prop :=
  ∃ teclado m', (Ato.sendMessage c mensagem teclado, m') ∈ p.trace Ato.exec m

/-- The text is read as the format says, and refused with the format message otherwise. -/
structure Texto.Lido (texto : Texto) : Prop where
  acrescenta : ∀ (c : Chat) (r : Nat) (m : Mundo) (foto : Bool), NoPasso c r m →
    let depois := ((handleSales c r texto foto).run Ato.exec m).2
    depois.carrinho c r = m.carrinho c r ∨
      ∃ (itens : List ItemCarrinho) (f : Formato (Texto.trim texto)) (l : LinhaCarrinho),
        m.carrinho c r = some itens ∧ depois.carrinho c r = some (itens ++ [l.item]) ∧
        l.quantidade = Texto.valor f.numero ∧ l.produto.isSome ∧
        m.db.chamaSe l.nome (Texto.toLowerCase f.nome) = true
  recusa : IsEmpty (Formato (Texto.trim texto)) →
    ∀ (c : Chat) (r : Nat) (m : Mundo) (foto : Bool), NoPasso c r m →
      let depois := ((handleSales c r texto foto).run Ato.exec m).2
      depois.carrinho c r = m.carrinho c r ∧
        Envia c formatoInvalido (handleSales c r texto foto) m

section Passo

variable {c : Chat} {r : Nat} {m : Mundo} {texto : Texto} {foto : Bool}

theorem trace_sync {α : Type} {o : Ato} (f : o.Res → Fluxo α) (sync : o.sync = true) (m : Mundo) :
    (faz o >>= f).trace Ato.exec m =
      (o, m) :: ((answered (o.sem m).1 : Fluxo o.Res) >>= f).trace Ato.exec (o.sem m).2 := by
  have fixed : o.infalivel = true := by cases o <;> first | rfl | cases sync
  change (o, m) ::
    Prog.trace Ato.exec ((answered (o.exec m).1 : Fluxo o.Res) >>= f) (o.exec m).2 = _
  rw [Ato.exec_infalivel fixed]

/-- In the step, a text that is no command is one of `adicionarItem`. -/
theorem handleSales_item (step : NoPasso c r m) (other : texto.comando = false) :
    (handleSales c r texto foto).run Ato.exec m = (adicionarItem c r texto).run Ato.exec m ∧
      ∀ mensagem, Envia c mensagem (handleSales c r texto foto) m ↔
        Envia c mensagem (adicionarItem c r texto) m := by
  obtain ⟨stage, recent⟩ := step
  simp only [Texto.comando, Bool.or_eq_false_iff, decide_eq_false_iff_not] at other
  obtain ⟨⟨⟨⟨leave, list⟩, cart⟩, remove⟩, combo⟩ := other
  have item : textoDeItens c r texto = adicionarItem c r texto := by
    rw [textoDeItens, if_neg cart, remove, if_neg Bool.false_ne_true, combo,
      if_neg Bool.false_ne_true]
  have trace : (handleSales c r texto foto).trace Ato.exec m =
      (.ler c r, m) :: (.dateNow, m) :: (adicionarItem c r texto).trace Ato.exec m := by
    rw [handleSales, trace_sync _ rfl]
    simp only [Ato.sem, answered_ok, bind_done]
    rw [trace_sync _ rfl]
    simp only [Ato.sem, answered_ok, bind_done]
    rw [recent, if_neg (by decide), if_neg leave, if_neg list, stage, textoDaEtapa, item]
  constructor
  · rw [handleSales, run_sync _ rfl]
    simp only [Ato.sem, answered_ok, bind_done]
    rw [run_sync _ rfl]
    simp only [Ato.sem, answered_ok, bind_done]
    rw [recent, if_neg (by decide), if_neg leave, if_neg list, stage, textoDaEtapa, item]
  · intro mensagem
    simp [Envia, trace]

theorem lido_formato (other : texto.comando = false) (f : Formato (Texto.trim texto)) :
    texto.Lido := by
  refine ⟨fun c r m foto step => ?_, fun none => none.elim f⟩
  rw [(handleSales_item step other).1]
  rcases run_cesta (m := m) (cesta_adicionarItem (c := c) (r := r) texto) with same | added
  · exact .inl (congrArg Prod.fst same)
  · obtain ⟨lido, id, produto, read, found, -, grown⟩ := added
    rw [f.item_eq, Option.some.injEq] at read
    subst read
    rcases grown with same | ⟨itens, l, cart, product, quantity, grown⟩
    · exact .inl (congrArg Prod.fst same)
    · right
      refine ⟨itens, f, l, cart, congrArg Prod.fst grown, ?_, ?_, ?_⟩
      · rw [quantity, f.primeiroNumero_eq]
        rfl
      · rw [product]
        rfl
      · have named := List.find?_some (show List.find? _ _ = _ from found)
        rw [LinhaCarrinho.nome, product]
        exact named

theorem lido_semItem (other : texto.comando = false)
    (unread : Texto.item (Texto.trim texto) = none) : texto.Lido := by
  have refused (c : Chat) (r : Nat) : adicionarItem c r texto = (do
      enviarVenda c formatoInvalido
      atualizar c r []) := by
    rw [adicionarItem, unread]
    rfl
  have kept {c : Chat} {r : Nat} {m : Mundo} {foto : Bool} (step : NoPasso c r m) :
      ((handleSales c r texto foto).run Ato.exec m).2.carrinho c r = m.carrinho c r := by
    rw [(handleSales_item step other).1, refused]
    exact carrinho_poupado (poupa_resposta formatoInvalido) m
  refine ⟨fun c r m foto step => .inl (kept step), fun _ c r m foto step => ⟨kept step, ?_⟩⟩
  rw [(handleSales_item step other).2, refused]
  exact ⟨[], m, List.mem_cons_self⟩

theorem carrinho_guardarItem (item : ItemCarrinho) (mensagem : String) (m : Mundo)
    {itens : List ItemCarrinho} (cart : m.carrinho c r = some itens) :
    (Prog.run Ato.exec (do
      guardarItem c r item
      enviarVenda c mensagem
      atualizar c r []) m).2.carrinho c r = some (itens ++ [item]) := by
  have present : ((m.conversas c).objetos r).carrinho = some itens := cart
  rw [guardarItem, bind_assoc, run_sync _ rfl]
  simp only [Ato.sem, answered_ok, bind_done, present, Option.isNone_some, Bool.false_eq_true,
    if_false]
  rw [run_sync _ rfl]
  simp only [Ato.sem, answered_ok, bind_done]
  rw [carrinho_poupado (poupa_resposta mensagem), carrinho_atribui, if_pos ⟨rfl, rfl⟩, cart]
  rfl

end Passo

section Recusa

/-- A seller in the step, in a shop with as much of the product as is asked for. -/
def lojaCom (nome : Texto) (quantidade : Nat) : Mundo where
  db := {
    estoque := .ofList [{
      nome := String.ofList nome, quantidade := quantidade, medida := "un", valorUnitario := 1 }]
    precoPromocional := fun _ _ => some 1 }
  conversas := fun _ => {
    objetos := fun _ => { etapa := some .adicionarItens, carrinho := some [] } }

theorem noPasso_lojaCom (nome : Texto) (quantidade : Nat) :
    NoPasso 7 0 (lojaCom nome quantidade) := ⟨rfl, rfl⟩

theorem achar_lojaCom (nome : Texto) (quantidade : Nat) :
    achar (lojaCom nome quantidade).db.chamaSe (lojaCom nome quantidade).db.estoque (Texto.toLowerCase nome) =
      some (1, ⟨String.ofList nome, quantidade, "un", 1⟩) := by
  have rows : (lojaCom nome quantidade).db.estoque.rows =
      [(1, ⟨String.ofList nome, quantidade, "un", 1⟩)] := rfl
  have named : (lojaCom nome quantidade).db.chamaSe (String.ofList nome) (Texto.toLowerCase nome) =
      true := by simp [lojaCom]
  rw [achar, rows]
  simp [named]

/-- Whatever the code reads as an item is sold, if there is enough of it. -/
theorem vende_lojaCom {texto : Texto} {lido : Texto × Texto} {quantidade : Nat}
    (read : Texto.item (Texto.trim texto) = some lido)
    (number : Texto.primeiroNumero lido.1 = some quantidade) (positive : 0 < quantidade) :
    ((adicionarItem 7 0 texto).run Ato.exec (lojaCom lido.2 quantidade)).2.carrinho 7 0 ≠
      (lojaCom lido.2 quantidade).carrinho 7 0 := by
  obtain ⟨quantidadeStr, nome⟩ := lido
  let loja := lojaCom nome quantidade
  have calm : loja.falhas = [] := rfl
  have found : (SqlBot.sem (.selectProduto (Texto.toLowerCase nome)) loja.db).1 =
      some (1, ⟨String.ofList nome, quantidade, "un", 1⟩) := achar_lojaCom nome quantidade
  rw [adicionarItem, read]
  dsimp only at number ⊢
  rw [number, Option.getD_some, if_neg positive.ne', run_consulta _ calm rfl, found]
  dsimp only
  rw [if_neg (lt_irrefl _), adicionarProduto, run_consulta _ rfl rfl]
  have priced : (SqlBot.sem (.calcularPreco 1 quantidade)
      (loja.aplica 7 (.selectProduto (Texto.toLowerCase nome))).db).1 = some 1 := rfl
  have empty : ((loja.aplica 7 (.selectProduto (Texto.toLowerCase nome))).aplica 7
      (.calcularPreco 1 quantidade)).carrinho 7 0 = some [] := rfl
  rw [priced]
  dsimp only
  rw [carrinho_guardarItem _ _ _ empty]
  simp [Mundo.carrinho, lojaCom]

/-- Only one of the refusals is the format message. -/
theorem not_envia_quantidade (nome : String) (m : Mundo) : ¬ Envia 7 formatoInvalido (do
    enviarVenda 7 s!"⚠️ Quantidade inválida para \"{nome}\"."
    atualizar 7 0 []) m := by
  rintro ⟨teclado, m', member⟩
  have other : s!"⚠️ Quantidade inválida para \"{nome}\"." ≠ formatoInvalido := by
    intro same
    have third := congrArg (fun t => t.toList[3]?) same
    simp only [String.toList_append, List.append_assoc] at third
    rw [List.getElem?_append_left (by decide)] at third
    revert third
    decide
  have calls : Calls (fun o => ∀ c teclado, o ≠ Ato.sendMessage c formatoInvalido teclado) (do
      enviarVenda 7 s!"⚠️ Quantidade inválida para \"{nome}\"."
      atualizar 7 0 []) := by
    have message : Calls (fun o => ∀ c teclado, o ≠ Ato.sendMessage c formatoInvalido teclado)
        (enviarVenda 7 s!"⚠️ Quantidade inválida para \"{nome}\".") := by
      refine calls_handle (calls_bind ((calls_ask _).mpr ?_) fun _ => calls_done ())
        fun _ => calls_done ()
      intro c teclado same
      exact other (Ato.sendMessage.inj same).2.1
    refine calls_bind message fun _ => calls_bind ((calls_ask _).mpr ?_) fun _ => (calls_ask _).mpr ?_
    · intro c teclado same
      cases same
    · intro c teclado same
      cases same
  exact calls_trace calls m _ member 7 teclado rfl

end Recusa

/-- A text that is neither a command nor a combo is read as the format says exactly if it is
in the format, or nothing in it looks like an item. -/
theorem lido_iff (texto : Texto) (other : texto.comando = false) :
    texto.Lido ↔ Nonempty (Formato (Texto.trim texto)) ∨ Texto.item (Texto.trim texto) = none := by
  constructor
  · rintro ⟨-, refused⟩
    by_contra neither
    obtain ⟨unformed, read⟩ := not_or.mp neither
    obtain ⟨lido, read⟩ := Option.ne_none_iff_exists'.mp read
    cases number : (Texto.primeiroNumero lido.1).getD 0 with
    | zero =>
      obtain ⟨-, sent⟩ := refused (not_nonempty_iff.mp unformed) 7 0 (lojaCom lido.2 0) false
        (noPasso_lojaCom _ _)
      rw [(handleSales_item (noPasso_lojaCom _ _) other).2, adicionarItem, read] at sent
      dsimp only at sent
      rw [number, if_pos rfl] at sent
      exact not_envia_quantidade _ _ sent
    | succ n =>
      obtain ⟨kept, -⟩ := refused (not_nonempty_iff.mp unformed) 7 0 (lojaCom lido.2 (n + 1)) false
        (noPasso_lojaCom _ _)
      rw [(handleSales_item (noPasso_lojaCom _ _) other).1] at kept
      have named : Texto.primeiroNumero lido.1 = some (n + 1) := by
        cases given : Texto.primeiroNumero lido.1 with
        | none => simp [given] at number
        | some q => simpa [given] using number
      exact vende_lojaCom read named n.succ_pos kept
  · rintro (⟨⟨f⟩⟩ | unread)
    · exact lido_formato other f
    · exact lido_semItem other unread

def umaBanana : Formato (Texto.trim "1un banana".toList) where
  numero := "1".toList
  unidade := "un".toList
  vazio := " ".toList
  nome := "banana".toList
  partes := by decide +kernel
  digitos := List.all_eq_true.mp (by decide +kernel)
  positivo := by decide +kernel
  palavra := List.all_eq_true.mp (by decide +kernel)
  semDigito := by simp
  espacos := List.all_eq_true.mp (by decide +kernel)
  separado := by decide +kernel
  solido := ⟨'b', rfl, by decide +kernel⟩
  umaLinha := by simp [fimDeLinha]

theorem banana_lida : Texto.Lido "1un banana".toList :=
  (lido_iff "1un banana".toList (by decide +kernel)).mpr (.inl ⟨umaBanana⟩)

/-- Five kilos are sold to who types one and a half. -/
theorem quilo_e_meio : ¬ Texto.Lido "1.5kg x".toList := by
  rintro ⟨-, refused⟩
  have read : Texto.item (Texto.trim "1.5kg x".toList) = some ("5kg".toList, "x".toList) := by
    decide +kernel
  have unformed : IsEmpty (Formato (Texto.trim "1.5kg x".toList)) := by
    constructor
    intro f
    have same := f.item_eq
    rw [read, Option.some.injEq, Prod.mk.injEq] at same
    have start := f.partes
    rw [← same.1] at start
    have five : (Texto.trim "1.5kg x".toList).head? = some '5' := congrArg List.head? start
    exact absurd five (by decide +kernel)
  have step := noPasso_lojaCom "x".toList 5
  have kept := (refused unformed 7 0 _ false step).1
  rw [(handleSales_item step (by decide +kernel)).1] at kept
  exact vende_lojaCom read (by decide +kernel) (by decide) kept

end IceClube
