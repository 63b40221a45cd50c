import IceClube.Quantidade
import IceClube.Requests

/-! What a session may hold of a sale: a number a sale can be registered for, an amount of cash
that is not negative, a receipt within the limit and cart lines of a positive quantity. The
handlers of a sale assign nothing else, and record nothing else. -/
namespace IceClube

open Coop Prog

/-- Ten to fifteen digits. -/
def NumeroCerto (numero : Texto) : Prop :=
  numeroValido numero = true ∧ numero.all Char.isDigit = true

def Imagem.Cabe (imagem : Imagem) : Prop := imagem.bytes ≤ limiteDoComprovante

structure Sessao.Valida (s : Sessao) : Prop where
  numero : ∀ numero, s.numeroCliente = some numero → NumeroCerto numero
  dinheiro : ∀ valor, s.valorDinheiro = some (some valor) → 0 ≤ valor
  comprovante : ∀ imagem, s.comprovantePagamento = some (.imagem imagem) → imagem.Cabe
  itens : ∀ item ∈ s.carrinho.getD [], ∃ l : LinhaCarrinho, item = l.item

structure Chamada.Valida (chamada : Chamada) : Prop where
  numero : ∀ numero, chamada.numeroCliente = some numero → NumeroCerto numero
  quantidade : 0 < chamada.quantidade

def Fato.Valido : Fato → Prop
  | registrou chamada => chamada.Valida
  | comprovou imagem => imagem.Cabe
  | _ => True

/-- The assignment puts nothing into a session that a sale could not use. -/
def Campo.Valido : Campo → Prop
  | carrinho itens => ∀ item ∈ itens, ∃ l : LinhaCarrinho, item = l.item
  | pushItem item => ∃ l : LinhaCarrinho, item = l.item
  | comprovantePagamento (some (.imagem imagem)) => imagem.Cabe
  | numeroCliente (some numero) => NumeroCerto numero
  | valorDinheiro (some valor) => 0 ≤ valor
  | _ => True

theorem valida_vazia (inicio : Inicio) : inicio.sessao.Valida where
  numero _ found := by cases found
  dinheiro _ found := by cases found
  comprovante _ found := by cases found
  itens _ member := absurd member List.not_mem_nil

theorem valida_atribuir {s : Sessao} (valida : s.Valida) {campo : Campo} (valido : campo.Valido) :
    (s.atribuir campo).Valida := by
  obtain ⟨numero, dinheiro, comprovante, itens⟩ := valida
  cases campo with
  | carrinho novos => exact ⟨numero, dinheiro, comprovante, valido⟩
  | pushItem item =>
    refine ⟨numero, dinheiro, comprovante, fun outro member => ?_⟩
    cases found : s.carrinho with
    | none => simp [Sessao.atribuir, found] at member
    | some carrinho =>
      simp only [Sessao.atribuir, found, Option.map_some, Option.getD_some, List.mem_append,
        List.mem_singleton] at member
      rcases member with velho | rfl
      · exact itens outro (by rwa [found])
      · exact valido
  | removeItem index =>
    refine ⟨numero, dinheiro, comprovante, fun outro member => ?_⟩
    cases found : s.carrinho with
    | none => simp [Sessao.atribuir, found] at member
    | some carrinho =>
      simp only [Sessao.atribuir, found, Option.map_some, Option.getD_some] at member
      exact itens outro (by rw [found]; exact List.mem_of_mem_eraseIdx member)
  | comprovantePagamento valor =>
    refine ⟨numero, dinheiro, fun imagem found => ?_, itens⟩
    obtain rfl : valor = some (.imagem imagem) := found
    exact valido
  | numeroCliente valor =>
    refine ⟨fun n found => ?_, dinheiro, comprovante, itens⟩
    obtain rfl : valor = some n := found
    exact valido
  | valorDinheiro valor =>
    refine ⟨numero, fun v found => ?_, comprovante, itens⟩
    obtain rfl : valor = some v := Option.some.inj found
    exact valido
  | _ => exact ⟨numero, dinheiro, comprovante, itens⟩

theorem valida_atribuirTodos {s : Sessao} (valida : s.Valida) {campos : List Campo}
    (validos : ∀ campo ∈ campos, campo.Valido) : (s.atribuirTodos campos).Valida := by
  induction campos generalizing s with
  | nil => exact valida
  | cons campo resto ih =>
    rw [List.forall_mem_cons] at validos
    exact ih (valida_atribuir valida validos.1) validos.2

section Textos

theorem digito_comum {c : Char} (digit : c.isDigit = true) : especialMarkdown c = false := by
  have apart {x : Char} (other : x.isDigit = false) : c ≠ x := by
    rintro rfl
    rw [other] at digit
    cases digit
  simp [especialMarkdown, apart (x := '*') rfl, apart (x := '_') rfl, apart (x := '[') rfl,
    apart (x := ']') rfl, apart (x := Char.ofNat 96) rfl]

theorem escaparTexto_digitos {numero : Texto} (digitos : numero.all Char.isDigit = true) :
    escaparTexto numero = numero := by
  induction numero with
  | nil => rfl
  | cons c resto ih =>
    rw [List.all_cons, Bool.and_eq_true] at digitos
    rw [escaparTexto, List.flatMap_cons, digito_comum digitos.1]
    exact congrArg (c :: ·) (ih digitos.2)

theorem numeroCerto_digitado {texto : Texto} (valido : numeroValido (Texto.digitos texto) = true) :
    NumeroCerto (escaparTexto (Texto.digitos texto)) := by
  have digitos : (Texto.digitos texto).all Char.isDigit = true := by simp [Texto.digitos]
  rw [escaparTexto_digitos digitos]
  exact ⟨valido, digitos⟩

theorem parseFloat_naoNegativo {texto : Texto} {valor : ℚ}
    (lido : Texto.parseFloat texto = some valor) : 0 ≤ valor := by
  rw [Texto.parseFloat] at lido
  obtain ⟨-, read⟩ := Option.ite_none_left_eq_some.mp lido
  rw [← Option.some.inj read]
  positivity

/-- What a confirmation reads of a cart line is at least the number it begins with. -/
theorem quantidadeDe_minimo (l : LinhaCarrinho) : (l.quantidade : ℚ) ≤ quantidadeDe l.item := by
  have text : l.item.quantidade = (toString l.quantidade).toList ++ l.medida.toList := by
    rw [LinhaCarrinho.item, String.toList_append]
    rfl
  have digitos := digitos_repr l.quantidade
  have valor := Texto.valor_repr l.quantidade
  have nonempty : (toString l.quantidade).toList ≠ [] := by
    rintro empty
    rw [empty] at valor
    exact absurd valor.symm (by simpa [Texto.valor] using l.positiva.ne')
  rw [quantidadeDe, text, digitosEPontos_repr]
  generalize (toString l.quantidade).toList = D at digitos valor nonempty
  generalize unit : Texto.digitosEPontos l.medida.toList = f
  have whole (unit : f.head? = none ∨ f.head? = some '.') :
      (l.quantidade : ℚ) ≤ (Texto.parseFloat (D ++ f)).getD 0 := by
    rw [parseFloat_inteiro digitos nonempty unit, valor, Option.getD_some]
    exact le_add_of_nonneg_right (by positivity)
  cases f with
  | nil => exact whole (.inl rfl)
  | cons c resto =>
    have kept : (c.isDigit || c = '.') = true := by
      have member : c ∈ Texto.digitosEPontos l.medida.toList := unit ▸ List.mem_cons_self
      exact (List.mem_filter.mp member).2
    by_cases point : c = '.'
    · exact whole (.inr (by rw [point]; rfl))
    · obtain ⟨x, read, larger⟩ :=
        parseFloat_maior digitos (f := resto) (c := c) (by simpa [point] using kept)
      rw [read, Option.getD_some]
      rw [valor] at larger
      have : (0 : ℚ) ≤ l.quantidade := Nat.cast_nonneg _
      linarith

theorem quantidadeDe_positiva (l : LinhaCarrinho) : 0 < quantidadeDe l.item :=
  lt_of_lt_of_le (Nat.cast_pos.mpr l.positiva) (quantidadeDe_minimo l)

end Textos

def Ato.Cauto : Ato → Prop
  | atribuir _ _ campos => ∀ campo ∈ campos, campo.Valido
  | call _ chamada => chamada.Valida
  | updateComprovante _ imagem _ => imagem.Cabe
  | _ => True

/-- Calls only for the chats that `meu` admits. With `cuida` every object read is valid, and what
is assigned and recorded must be. -/
def cautela (cuida : Prop) (meu : Option Chat → Prop) : Contract String Ato.Res Unit where
  pre o _ := meu o.dono ∧ (cuida → o.Cauto)
  post
    | .get _, _, answer, _ => ∃ r, answer = .ok r
    | .ler .., _, answer, _ => ∀ s, answer = .ok s → cuida → s.Valida
    | _, _, _, _ => True

section Vendas

variable {cuida : Prop} {c : Chat} {r : Nat} {α : Type}

/-- A handler of the chat `c`. -/
abbrev Cauteloso (cuida : Prop) (c : Chat) (f : Fluxo α) : Prop :=
  Obeys (cautela cuida fun x => x.getD c = c) f

theorem cauteloso_faz {o : Ato} (meu : o.dono.getD c = c) (cauto : o.Cauto) :
    Cauteloso cuida c (faz o) :=
  obeys_ask ⟨meu, fun _ => cauto⟩

theorem cauteloso_chama {o : Ato} {g : o.Res → Fluxo α} (meu : o.dono.getD c = c)
    (cauto : o.Cauto) (rest : ∀ a, Cauteloso cuida c (g a)) : Cauteloso cuida c (faz o >>= g) :=
  obeys_call ⟨meu, fun _ => cauto⟩ fun a _ => rest a

theorem cauteloso_enviarVenda (mensagem : String) : Cauteloso cuida c (enviarVenda c mensagem) :=
  obeys_handle (cauteloso_chama rfl trivial fun _ => obeys_pure ()) fun _ => obeys_pure ()

theorem cauteloso_menu : Cauteloso cuida c (showInitialMenu c r) :=
  cauteloso_chama rfl trivial fun _ => cauteloso_enviarVenda _

theorem cauteloso_atualizar {campos : List Campo} (validos : ∀ campo ∈ campos, campo.Valido) :
    Cauteloso cuida c (atualizar c r campos) := by
  refine cauteloso_chama rfl trivial fun agora => obeys_ask ⟨rfl, fun _ campo member => ?_⟩
  rcases List.mem_append.mp member with dado | tempo
  · exact validos campo dado
  · rw [List.mem_singleton.mp tempo]
    trivial

theorem cauteloso_responder {f : Fluxo α} (resto : Cauteloso cuida c f) :
    Cauteloso cuida c (faz (.answerCallbackQuery c) >>= fun _ => f) :=
  cauteloso_chama rfl trivial fun _ => resto

theorem cauteloso_aviso (mensagem : String) : Cauteloso cuida c (do
    faz (.answerCallbackQuery c)
    enviarVenda c mensagem) :=
  cauteloso_responder (cauteloso_enviarVenda mensagem)

theorem cauteloso_fim : Cauteloso cuida c (do
    faz (.atribuir c r [.etapa none])
    showInitialMenu c r) :=
  obeys_call ⟨rfl, fun _ => by simp [Ato.Cauto, Campo.Valido]⟩ fun _ _ => cauteloso_menu

theorem valido_abandonar : ∀ campo ∈ abandonarVenda, campo.Valido := by
  simp [abandonarVenda, Campo.Valido]

theorem valido_limpar : ∀ campo ∈ limparVenda, campo.Valido := by
  simp [limparVenda, Campo.Valido]

theorem valido_deixarSetor : ∀ campo ∈ deixarSetor, campo.Valido := by
  simp [deixarSetor, Campo.Valido]

section Botoes

theorem cauteloso_finalizar : Cauteloso cuida c (finalizar c r) :=
  cauteloso_chama rfl trivial fun _ => obeys_ite (fun _ => cauteloso_aviso _) fun _ =>
    obeys_bind (cauteloso_atualizar (by simp [Campo.Valido])) fun _ => cauteloso_aviso _

theorem cauteloso_pagarComPix (metodo : Metodo) : Cauteloso cuida c (pagarComPix c r metodo) :=
  obeys_bind (cauteloso_atualizar (by simp [Campo.Valido])) fun _ =>
    cauteloso_chama rfl trivial fun _ => cauteloso_aviso _

/-- The session is read before each call, and every line of it has a quantity. -/
theorem cauteloso_registrarItem {item : ItemCarrinho}
    (linha : cuida → ∃ l : LinhaCarrinho, item = l.item) :
    Cauteloso cuida c (registrarItem c r item) := by
  refine obeys_call ⟨rfl, fun _ => trivial⟩ fun _ valida => obeys_ask ⟨rfl, fun sim => ?_⟩
  obtain ⟨l, rfl⟩ := linha sim
  exact ⟨(valida _ rfl sim).numero, quantidadeDe_positiva l⟩

theorem cauteloso_registrarItens {itens : List ItemCarrinho}
    (linhas : cuida → ∀ item ∈ itens, ∃ l : LinhaCarrinho, item = l.item) :
    Cauteloso cuida c (each (registrarItem c r) itens) :=
  obeys_each fun item member => cauteloso_registrarItem fun sim => linhas sim item member

/-- The size of the receipt is checked again before it is stored. -/
theorem cauteloso_salvarComprovante (linhas : Nat) :
    Cauteloso cuida c (salvarComprovante c r linhas) := by
  refine cauteloso_chama rfl trivial fun sessao => ?_
  split
  next imagem _ =>
    exact obeys_ite (fun _ => obeys_fail _) fun cabe => cauteloso_chama rfl trivial fun vendas =>
      obeys_each fun venda _ => obeys_ask ⟨rfl, fun _ => Nat.le_of_not_lt cabe⟩
  next => exact obeys_pure ()

theorem cauteloso_registrarCarrinho : Cauteloso cuida c (registrarCarrinho c r) := by
  refine cauteloso_chama rfl trivial fun _ => obeys_call ⟨rfl, fun _ => trivial⟩
    fun sessao valida => ?_
  cases found : sessao.carrinho with
  | none => exact obeys_fail _
  | some carrinho =>
    have linhas (b : ItemCarrinho → Bool) (sim : cuida) :
        ∀ item ∈ carrinho.filter b, ∃ l : LinhaCarrinho, item = l.item := fun item member =>
      (valida _ rfl sim).itens item (by rw [found]; exact List.mem_of_mem_filter member)
    exact obeys_bind (cauteloso_registrarItens (linhas _)) fun _ =>
      obeys_bind (cauteloso_registrarItens (linhas _)) fun _ =>
        obeys_bind (cauteloso_salvarComprovante _) fun _ => cauteloso_chama rfl trivial fun _ =>
          obeys_bind (cauteloso_atualizar valido_limpar) fun _ => cauteloso_responder
            (obeys_bind (cauteloso_enviarVenda _) fun _ => cauteloso_menu)

theorem cauteloso_confirmarPedido : Cauteloso cuida c (confirmarPedido c r) :=
  cauteloso_chama rfl trivial fun _ => obeys_ite (fun _ => cauteloso_aviso _) fun _ =>
    cauteloso_chama rfl trivial fun _ => obeys_handle cauteloso_registrarCarrinho fun _ =>
      cauteloso_chama rfl trivial fun _ => cauteloso_aviso _

theorem cauteloso_nomeDoProduto (id : Nat) : Cauteloso cuida c (nomeDoProduto c id) := by
  refine cauteloso_chama rfl trivial fun nome => ?_
  cases nome with
  | none => exact obeys_fail _
  | some nome => exact obeys_pure ()

theorem cauteloso_gerarListaImagem : Cauteloso cuida c (gerarListaImagem c) := by
  refine obeys_handle ?_ fun _ => cauteloso_chama rfl trivial fun _ => obeys_pure false
  refine cauteloso_chama rfl trivial fun _ => cauteloso_chama rfl trivial fun _ =>
    obeys_bind (obeys_each fun _ _ => cauteloso_chama rfl trivial fun _ => obeys_pure ()) fun _ =>
      ?_
  refine obeys_bind (obeys_each fun _ _ => obeys_bind (cauteloso_nomeDoProduto _) fun _ =>
    cauteloso_nomeDoProduto _) fun _ => ?_
  exact cauteloso_chama rfl trivial fun _ => cauteloso_chama rfl trivial fun _ => obeys_pure true

theorem cauteloso_listaDeVendas : Cauteloso cuida c (listaDeVendas c r) :=
  cauteloso_responder (obeys_bind cauteloso_gerarListaImagem fun _ =>
    obeys_ite (fun _ => cauteloso_fim) fun _ => cauteloso_aviso _)

theorem cauteloso_mostrarQrCode (pix qrcode : String) :
    Cauteloso cuida c (mostrarQrCode c pix qrcode) := by
  refine obeys_handle ?_ fun _ => cauteloso_enviarVenda _
  split
  · exact obeys_fail _
  · exact obeys_fail _
  · exact cauteloso_faz rfl trivial

theorem cauteloso_mostrarLaranja : Cauteloso cuida c (mostrarLaranja c r) := by
  refine cauteloso_chama rfl trivial fun laranja => ?_
  cases laranja with
  | none => exact cauteloso_aviso _
  | some laranja =>
    refine cauteloso_responder (obeys_bind ?_ fun _ => cauteloso_fim)
    cases laranja.qrcode with
    | none => exact cauteloso_enviarVenda _
    | some qrcode =>
      exact obeys_ite (fun _ => cauteloso_enviarVenda _) fun _ => cauteloso_mostrarQrCode _ _

theorem cauteloso_handleCallbacks (data : Texto) :
    Cauteloso cuida c (handleCallbacks c r data) := by
  refine obeys_handle ?_ fun _ => cauteloso_aviso _
  refine obeys_ite (fun _ => ?_) fun _ => ?_
  · exact obeys_bind (cauteloso_atualizar (by simp [Campo.Valido])) fun _ =>
      cauteloso_responder (cauteloso_chama rfl trivial fun _ => cauteloso_enviarVenda _)
  refine obeys_ite (fun _ => ?_) fun _ => ?_
  · exact obeys_bind (cauteloso_atualizar (by simp [Campo.Valido])) fun _ => cauteloso_aviso _
  refine obeys_ite (fun _ => cauteloso_finalizar) fun _ => ?_
  refine obeys_ite (fun _ => ?_) fun _ => ?_
  · exact obeys_bind (cauteloso_atualizar valido_abandonar) fun _ =>
      cauteloso_responder cauteloso_menu
  refine obeys_ite (fun _ => cauteloso_pagarComPix _) fun _ => ?_
  refine obeys_ite (fun _ => ?_) fun _ => ?_
  · exact obeys_bind (cauteloso_atualizar (by simp [Campo.Valido])) fun _ => cauteloso_aviso _
  refine obeys_ite (fun _ => cauteloso_pagarComPix _) fun _ => ?_
  refine obeys_ite (fun _ => cauteloso_confirmarPedido) fun _ => ?_
  refine obeys_ite (fun _ => cauteloso_listaDeVendas) fun _ => ?_
  refine obeys_ite (fun _ => cauteloso_mostrarLaranja) fun _ => ?_
  refine obeys_ite (fun _ => ?_) fun _ => ?_
  · exact obeys_bind (cauteloso_atualizar (by simp [Campo.Valido])) fun _ => cauteloso_aviso _
  refine obeys_ite (fun _ => ?_) fun _ => cauteloso_aviso _
  exact obeys_bind (cauteloso_atualizar valido_deixarSetor) fun _ => cauteloso_responder
    (obeys_bind (cauteloso_enviarVenda _) fun _ => cauteloso_aviso _)

end Botoes

section Textos

theorem cauteloso_recomecar : Cauteloso cuida c (recomecar c r) :=
  obeys_bind (cauteloso_atualizar (by simp [Campo.Valido])) fun _ => cauteloso_menu

theorem cauteloso_avisoSolto (mensagem : String) : Cauteloso cuida c (do
    enviarVenda c mensagem
    atualizar c r []) :=
  obeys_bind (cauteloso_enviarVenda mensagem) fun _ => cauteloso_atualizar (by simp)

theorem cauteloso_avisoFinal (mensagem : String) : Cauteloso cuida c (do
    enviarVenda c mensagem
    recomecar c r) :=
  obeys_bind (cauteloso_enviarVenda mensagem) fun _ => cauteloso_recomecar

theorem cauteloso_secoes (categorias : List Categoria) :
    Cauteloso cuida c (secoes c categorias) := by
  induction categorias with
  | nil => exact obeys_pure ""
  | cons categoria categorias ih =>
    exact cauteloso_chama rfl trivial fun _ => obeys_bind ih fun _ => obeys_pure _

theorem cauteloso_produto : Cauteloso cuida c (produto c r) :=
  cauteloso_chama rfl trivial fun _ => obeys_bind (cauteloso_secoes _) fun _ =>
    cauteloso_avisoFinal _

theorem cauteloso_verCarrinho : Cauteloso cuida c (verCarrinho c r) :=
  cauteloso_chama rfl trivial fun _ => obeys_ite (fun _ => cauteloso_avisoFinal _) fun _ =>
    cauteloso_avisoSolto _

theorem cauteloso_removerItem (texto : Texto) : Cauteloso cuida c (removerItem c r texto) := by
  refine cauteloso_chama rfl trivial fun s => ?_
  split
  · exact obeys_fail _
  split
  · exact cauteloso_avisoFinal _
  · exact obeys_bind (cauteloso_atualizar (by simp [Campo.Valido])) fun _ =>
      obeys_bind (cauteloso_enviarVenda _) fun _ => cauteloso_fim

theorem cauteloso_guardarItem (l : LinhaCarrinho) : Cauteloso cuida c (guardarItem c r l.item) :=
  cauteloso_chama rfl trivial fun _ => obeys_ite (fun _ => obeys_fail _) fun _ =>
    obeys_ask ⟨rfl, fun _ => List.forall_mem_singleton.mpr ⟨l, rfl⟩⟩

theorem cauteloso_adicionarCombo (texto : Texto) :
    Cauteloso cuida c (adicionarCombo c r texto) := by
  unfold adicionarCombo
  split
  · exact cauteloso_avisoSolto _
  · exact cauteloso_enviarVenda _
  next quantidade positiva _ =>
    exact cauteloso_chama rfl trivial fun _ => obeys_ite (fun _ => cauteloso_enviarVenda _) fun _ =>
      cauteloso_chama rfl trivial fun promocao => obeys_bind
        (cauteloso_guardarItem ⟨none, quantidade, Nat.pos_of_ne_zero positiva, promocao.getD 400⟩)
        fun _ => cauteloso_avisoSolto _

theorem cauteloso_adicionarProduto (id : Nat) (produto : Estoque) {quantidade : Nat}
    (positiva : 0 < quantidade) (nome : String) :
    Cauteloso cuida c (adicionarProduto c r id produto quantidade nome) := by
  refine cauteloso_chama rfl trivial fun preco => ?_
  cases preco with
  | none => exact cauteloso_enviarVenda _
  | some valor =>
    exact obeys_bind (cauteloso_guardarItem ⟨some (id, produto), quantidade, positiva, valor⟩)
      fun _ => cauteloso_avisoSolto _

theorem cauteloso_adicionarItem (texto : Texto) : Cauteloso cuida c (adicionarItem c r texto) := by
  unfold adicionarItem
  split
  · exact cauteloso_avisoSolto _
  refine obeys_ite (fun _ => cauteloso_avisoSolto _) fun positiva =>
    cauteloso_chama rfl trivial fun found => ?_
  cases found with
  | none => exact cauteloso_chama rfl trivial fun _ => cauteloso_enviarVenda _
  | some produto =>
    exact obeys_ite (fun _ => cauteloso_enviarVenda _) fun _ =>
      cauteloso_adicionarProduto _ _ (Nat.pos_of_ne_zero positiva) _

theorem cauteloso_receberComprovante {comprovante : Comprovante}
    (cabe : ∀ imagem, comprovante = .imagem imagem → imagem.Cabe) :
    Cauteloso cuida c (receberComprovante c r comprovante) := by
  refine cauteloso_chama rfl trivial fun _ => obeys_bind (cauteloso_atualizar ?_)
    fun _ => cauteloso_enviarVenda _
  cases comprovante with
  | semComprovante => simp [Campo.Valido]
  | imagem imagem => simpa [Campo.Valido] using cabe imagem rfl

theorem cauteloso_textoDeComprovante (texto : Texto) (foto : Bool) :
    Cauteloso cuida c (textoDeComprovante c r texto foto) := by
  refine obeys_ite (fun _ => cauteloso_receberComprovante fun _ other => by cases other) fun _ =>
    obeys_ite (fun _ => ?_) fun _ => cauteloso_avisoSolto _
  refine obeys_handle ?_ fun _ => cauteloso_avisoSolto _
  refine cauteloso_chama rfl trivial fun imagem => obeys_ite (fun _ => obeys_fail _) fun cabe => ?_
  refine cauteloso_receberComprovante fun outra same => ?_
  cases same
  exact Nat.le_of_not_lt cabe

theorem cauteloso_textoDeValor (texto : Texto) : Cauteloso cuida c (textoDeValor c r texto) := by
  unfold textoDeValor
  split
  · exact cauteloso_avisoSolto _
  next valor lido =>
    have valido := parseFloat_naoNegativo lido
    exact obeys_bind (cauteloso_atualizar (by simpa [Campo.Valido] using valido))
      fun _ => cauteloso_enviarVenda _

theorem cauteloso_resumo : Cauteloso cuida c (resumo c r) := by
  refine cauteloso_chama rfl trivial fun s => ?_
  cases s.carrinho with
  | none => exact obeys_fail _
  | some carrinho =>
    refine obeys_bind ?_ fun _ => cauteloso_enviarVenda _
    cases linhaDeDinheiro s with
    | ok dinheiro => exact obeys_pure dinheiro
    | error e => exact obeys_fail e

theorem cauteloso_textoDeNumero (texto : Texto) : Cauteloso cuida c (textoDeNumero c r texto) := by
  refine obeys_ite (fun _ => cauteloso_avisoSolto _) fun valido =>
    obeys_bind (cauteloso_atualizar ?_) fun _ => cauteloso_resumo
  have valido : numeroValido (Texto.digitos texto) = true := by simpa using valido
  simpa [Campo.Valido] using numeroCerto_digitado valido

theorem cauteloso_textoDeInfo (texto : Texto) : Cauteloso cuida c (textoDeInfo c r texto) := by
  refine cauteloso_chama rfl trivial fun found => ?_
  cases found <;> exact cauteloso_avisoFinal _

theorem cauteloso_textoDaEtapa (etapa : Option Etapa) (texto : Texto) (foto : Bool) :
    Cauteloso cuida c (textoDaEtapa c r etapa texto foto) := by
  unfold textoDaEtapa
  split
  · exact obeys_ite (fun _ => cauteloso_verCarrinho) fun _ =>
      obeys_ite (fun _ => cauteloso_removerItem texto) fun _ =>
        obeys_ite (fun _ => cauteloso_adicionarCombo texto) fun _ => cauteloso_adicionarItem texto
  · exact cauteloso_textoDeComprovante texto foto
  · exact cauteloso_textoDeValor texto
  · exact cauteloso_textoDeNumero texto
  · exact cauteloso_textoDeInfo texto
  · exact cauteloso_recomecar

theorem cauteloso_handleSales (texto : Texto) (foto : Bool) :
    Cauteloso cuida c (handleSales c r texto foto) := by
  refine cauteloso_chama rfl trivial fun _ => cauteloso_chama rfl trivial fun _ =>
    obeys_ite (fun _ => ?_) fun _ => obeys_ite (fun _ => ?_) fun _ =>
      obeys_ite (fun _ => cauteloso_produto) fun _ => cauteloso_textoDaEtapa _ texto foto
  · exact obeys_bind (cauteloso_atualizar valido_abandonar) fun _ =>
      obeys_bind (cauteloso_enviarVenda _) fun _ => cauteloso_menu
  · exact obeys_bind (cauteloso_atualizar valido_deixarSetor) fun _ =>
      obeys_bind (cauteloso_enviarVenda _) fun _ => cauteloso_menu

end Textos
end Vendas

end IceClube
