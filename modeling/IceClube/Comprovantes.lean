import IceClube.Base64
import IceClube.PaginaDeVendas
import IceClube.Vendas
import Mathlib.Data.List.TakeDrop

/-! The receipts byte by byte: the base64 text that `setores/vendas.js` keeps in the session, the
column `vendas.comprovante`, and the address that `GET /comprovante/:id` makes of it for the
pages. -/
namespace IceClube

open Coop

abbrev Bytes := List UInt8

/-- `sessao.comprovante_pagamento` of each chat, and the column of each row of `vendas`. -/
structure Recibos where
  sessao : Chat → Option Texto := fun _ => none
  vendas : Nat → Option (Option Bytes) := fun _ => none

inductive Anexo where
  /-- A photo comes in the step 'comprovante'. -/
  | foto (c : Chat) (imageBuffer : Bytes)
  /-- The text 'sem comprovante', or a payment in cash. -/
  | semComprovante (c : Chat)
  /-- The sale is given up, or the session is another one. -/
  | limpa (c : Chat)
  /-- `confirmar_pedido`, with the sales that it finds for the client. -/
  | confirma (c : Chat) (vendasRecentes : List Nat)
  /-- A row that `registrar_venda` adds. -/
  | registra (vendaId : Nat)
  /-- A row of `POST /api/pedido_manual`, with the file of the form. -/
  | pedidoManual (vendaId : Nat) (arquivo : Option Bytes)
  deriving DecidableEq, Repr

def semComprovante : Texto := "Sem comprovante".toList

def textoDaFoto (imageBuffer : Bytes) : Except String Texto :=
  if limiteDoComprovante < imageBuffer.length then .error "Imagem muito grande (máximo 10MB)."
  else .ok (Base64.encode imageBuffer)

/-- What `confirmar_pedido` writes for the text of the session, if anything. -/
def bufferDoComprovante (comprovante : Option Texto) : Except String (Option Bytes) :=
  match comprovante with
  | none => .ok none
  | some texto =>
    if texto = [] ∨ texto = semComprovante then .ok none
    else if limiteDoComprovante < (Base64.decode texto).length then
      .error "Imagem do comprovante muito grande."
    else .ok (some (Base64.decode texto))

namespace Recibos

variable (r : Recibos)

def guardar (c : Chat) (texto : Option Texto) : Recibos :=
  { r with sessao := fun c' => if c' = c then texto else r.sessao c' }

/-- `UPDATE vendas SET comprovante = ? WHERE id = ?` for each of the sales. -/
def anexar (buffer : Option Bytes) (vendasRecentes : List Nat) : Recibos :=
  { r with vendas := fun id => (r.vendas id).map fun antigo =>
      if id ∈ vendasRecentes then buffer.or antigo else antigo }

def inserir (vendaId : Nat) (comprovante : Option Bytes) : Recibos :=
  { r with vendas := fun id =>
      if id = vendaId ∧ r.vendas id = none then some comprovante else r.vendas id }

/-- A photo that is too large leaves the session alone; an error of `confirmar_pedido` rolls the
sale back and keeps the session. -/
def atende : Anexo → Recibos
  | .foto c imageBuffer =>
    match textoDaFoto imageBuffer with
    | .error _ => r
    | .ok texto => r.guardar c (some texto)
  | .semComprovante c => r.guardar c (some IceClube.semComprovante)
  | .limpa c => r.guardar c none
  | .confirma c vendasRecentes =>
    match bufferDoComprovante (r.sessao c) with
    | .error _ => r
    | .ok buffer => (r.anexar buffer vendasRecentes).guardar c none
  | .registra vendaId => r.inserir vendaId none
  | .pedidoManual vendaId arquivo => r.inserir vendaId arquivo

def apos (anexos : List Anexo) : Recibos := anexos.foldl atende r

/-- The image of `GET /comprovante/:id`. -/
def imagem (comprovante : Bytes) : Texto :=
  "data:image/png;base64,".toList ++ Base64.encode comprovante

/-- A rejected SELECT is in `getComprovante`. -/
def comprovante (id : Nat) : Atendida Texto :=
  match r.vendas id with
  | some (some comprovante) => .ok (imagem comprovante)
  | _ => .error ⟨404, "Comprovante não encontrado", none⟩

end Recibos

/-- The bytes that a browser finds in the address of an image; escapes with '%' are left out. -/
def lerEndereco (src : Texto) : Option Bytes :=
  let (cabeca, dados) := src.span (· ≠ ',')
  if "data:".toList.isPrefixOf cabeca && ";base64".toList.isSuffixOf cabeca then
    Base64.forgiving (dados.drop 1)
  else none

/-- A character that neither ends the literal of `img.src` nor the script around it. -/
def semEscape (c : Char) : Bool :=
  c ≠ '"' && c ≠ '\\' && c ≠ '<' && c ≠ '\n' && c ≠ '\r' && c.toNat < 128

/-- What the receipts are for: the photo that each chat is about to attach, and the photo of each
sale. -/
structure Album where
  aEnviar : Chat → Option Bytes := fun _ => none
  fotos : Nat → Option (Option Bytes) := fun _ => none

namespace Album

variable (a : Album)

def guardar (c : Chat) (foto : Option Bytes) : Album :=
  { a with aEnviar := fun c' => if c' = c then foto else a.aEnviar c' }

/-- An empty photo counts as none. -/
def atende : Anexo → Album
  | .foto c imageBuffer =>
    if limiteDoComprovante < imageBuffer.length then a
    else a.guardar c (if imageBuffer = [] then none else some imageBuffer)
  | .semComprovante c => a.guardar c none
  | .limpa c => a.guardar c none
  | .confirma c vendas =>
    let a' := a.guardar c none
    { a' with fotos := fun id => (a.fotos id).map fun antiga =>
        if id ∈ vendas then (a.aEnviar c).or antiga else antiga }
  | .registra venda =>
    { a with fotos := fun id => if id = venda ∧ a.fotos id = none then some none else a.fotos id }
  | .pedidoManual venda arquivo =>
    { a with fotos := fun id =>
        if id = venda ∧ a.fotos id = none then some arquivo else a.fotos id }

def apos (anexos : List Anexo) : Album := anexos.foldl atende a

end Album

section Textos

/-- The text of no photo is taken for 'Sem comprovante': it has no blank. -/
theorem encode_ne_semComprovante (foto : Bytes) : Base64.encode foto ≠ semComprovante := by
  intro same
  have blank : ' ' ∈ Base64.encode foto := by
    rw [same]
    decide
  exact absurd (Base64.mem_encode foto blank).2 (by decide)

/-- `confirmar_pedido` writes the photo as it came. -/
theorem buffer_encode {foto : Bytes} (fits : ¬ limiteDoComprovante < foto.length) :
    bufferDoComprovante (some (Base64.encode foto)) =
      .ok (if foto = [] then none else some foto) := by
  simp only [bufferDoComprovante, Base64.encode_eq_nil, encode_ne_semComprovante, or_false,
    Base64.decode_encode, fits, if_false]
  split <;> rfl

/-- The receipt of a session as a text; `fotos` are the bytes of the photos. -/
def Comprovante.texto (fotos : Nat → Bytes) : Comprovante → Texto
  | .semComprovante => IceClube.semComprovante
  | .imagem foto => Base64.encode (fotos foto.conteudo)

/-- The tests on the text decide as `salvarComprovante` does on the receipt of a session. -/
theorem buffer_sessao {fotos : Nat → Bytes} {s : Sessao}
    (photo : ∀ foto, s.comprovantePagamento = some (.imagem foto) →
      (fotos foto.conteudo).length = foto.bytes ∧ 0 < foto.bytes) :
    bufferDoComprovante (s.comprovantePagamento.map (·.texto fotos)) =
      match s.comprovantePagamento with
      | some (.imagem foto) =>
        if limiteDoComprovante < foto.bytes then .error "Imagem do comprovante muito grande."
        else .ok (some (fotos foto.conteudo))
      | _ => .ok none := by
  rcases receipt : s.comprovantePagamento with - | - | foto
  · rfl
  · rfl
  · obtain ⟨size, filled⟩ := photo foto receipt
    have visible : fotos foto.conteudo ≠ [] := by
      rw [← List.length_pos_iff, size]
      exact filled
    simp only [Option.map_some, Comprovante.texto, bufferDoComprovante, Base64.encode_eq_nil,
      visible, encode_ne_semComprovante, or_self, if_false, Base64.decode_encode, size]

theorem ler_imagem (foto : Bytes) : lerEndereco (Recibos.imagem foto) = some foto := by
  have cabeca : (Recibos.imagem foto).span (· ≠ ',') =
      ("data:image/png;base64".toList, ',' :: Base64.encode foto) := by
    rw [List.span_eq_takeWhile_dropWhile]
    rfl
  rw [lerEndereco, cabeca]
  exact Base64.forgiving_encode foto

theorem semEscape_value {c : Char} (read : (Base64.value c).isSome = true ∨ c = '=') :
    semEscape c = true := by
  rcases read with read | rfl
  · have low : c.toNat < 128 := by
      by_contra high
      have small : c.toNat ≠ '+'.toNat ∧ c.toNat ≠ '/'.toNat :=
        ⟨fun same => high (by rw [same]; decide), fun same => high (by rw [same]; decide)⟩
      have plus : c ≠ '+' := fun same => small.1 (by rw [same])
      have slash : c ≠ '/' := fun same => small.2 (by rw [same])
      rw [Base64.value, if_neg (by omega), if_neg (by omega), if_neg (by omega), if_neg plus,
        if_neg slash] at read
      contradiction
    have other (d : Char) (unread : Base64.value d = none) : c ≠ d := by
      rintro rfl
      rw [unread] at read
      contradiction
    simp [semEscape, low, other '"' rfl, other '\\' rfl, other '<' rfl, other '\n' rfl,
      other '\r' rfl]
  · rfl

theorem imagem_semEscape (foto : Bytes) : (Recibos.imagem foto).all semEscape = true := by
  have head : "data:image/png;base64,".toList.all semEscape = true := by decide +kernel
  have body : (Base64.encode foto).all semEscape = true :=
    List.all_eq_true.mpr fun _ member => semEscape_value (Base64.mem_encode foto member).1
  have whole : Recibos.imagem foto = "data:image/png;base64,".toList ++ Base64.encode foto := rfl
  rw [whole, List.all_append, Bool.and_eq_true]
  exact ⟨head, body⟩

end Textos

section Corrida

/-- Each session holds the photo of the album, and the sales are the same. -/
structure Recibos.Guarda (r : Recibos) (a : Album) : Prop where
  sessao : ∀ c, bufferDoComprovante (r.sessao c) = .ok (a.aEnviar c)
  vendas : r.vendas = a.fotos

variable {r : Recibos} {a : Album}

theorem guarda_guardar (guarda : r.Guarda a) (c : Chat) {texto : Option Texto}
    {foto : Option Bytes} (read : bufferDoComprovante texto = .ok foto) :
    (r.guardar c texto).Guarda (a.guardar c foto) := by
  refine ⟨fun c' => ?_, guarda.vendas⟩
  by_cases same : c' = c
  · simp [Recibos.guardar, Album.guardar, same, read]
  · simp [Recibos.guardar, Album.guardar, same, guarda.sessao]

theorem guarda_atende (guarda : r.Guarda a) (anexo : Anexo) :
    (r.atende anexo).Guarda (a.atende anexo) := by
  cases anexo with
  | foto c imageBuffer =>
    by_cases large : limiteDoComprovante < imageBuffer.length
    · simp only [Recibos.atende, textoDaFoto, Album.atende, large, if_true]
      exact guarda
    · simp only [Recibos.atende, textoDaFoto, Album.atende, large, if_false]
      exact guarda_guardar guarda c (buffer_encode large)
  | semComprovante c => exact guarda_guardar guarda c rfl
  | limpa c => exact guarda_guardar guarda c rfl
  | confirma c vendas =>
    simp only [Recibos.atende, guarda.sessao]
    have attached : (r.anexar (a.aEnviar c) vendas).Guarda { a with
        fotos := fun id => (a.fotos id).map fun antiga =>
          if id ∈ vendas then (a.aEnviar c).or antiga else antiga } :=
      ⟨guarda.sessao, by simp only [Recibos.anexar, guarda.vendas]⟩
    exact guarda_guardar attached c rfl
  | registra vendaId =>
    refine ⟨guarda.sessao, ?_⟩
    simp only [Recibos.atende, Recibos.inserir, Album.atende, guarda.vendas]
  | pedidoManual vendaId arquivo =>
    refine ⟨guarda.sessao, ?_⟩
    simp only [Recibos.atende, Recibos.inserir, Album.atende, guarda.vendas]

theorem guarda_apos (guarda : r.Guarda a) (anexos : List Anexo) :
    (r.apos anexos).Guarda (a.apos anexos) := by
  induction anexos generalizing r a with
  | nil => exact guarda
  | cons anexo rest ih => exact ih (guarda_atende guarda anexo)

/-- Whatever photos were sent, confirmed, given up or uploaded, in any order and by any chats,
the panel shows of each sale exactly the bytes of the last photo attached to it, in an address
that cannot break out of the script it is written into; and no confirmation fails for a photo
that was accepted. -/
theorem comprovante_volta (vendas : Nat → Option (Option Bytes)) (anexos : List Anexo) :
    let r := Recibos.apos { vendas := vendas } anexos
    let a := Album.apos { fotos := vendas } anexos
    (∀ id, (r.comprovante id).toOption.bind lerEndereco = (a.fotos id).join) ∧
    (∀ id image, r.comprovante id = .ok image → image.all semEscape = true) ∧
    ∀ c, bufferDoComprovante (r.sessao c) = .ok (a.aEnviar c) := by
  have start : Recibos.Guarda { vendas := vendas } { fotos := vendas } := ⟨fun _ => rfl, rfl⟩
  have guarda := guarda_apos start anexos
  refine ⟨fun id => ?_, fun id image shown => ?_, guarda.sessao⟩
  · rw [Recibos.comprovante, guarda.vendas]
    rcases (Album.apos { fotos := vendas } anexos).fotos id with - | - | foto
    · rfl
    · rfl
    · exact ler_imagem foto
  · rw [Recibos.comprovante] at shown
    split at shown
    · obtain rfl := Except.ok.inj shown
      exact imagem_semEscape _
    · cases shown

end Corrida
end IceClube
