import IceClube.Porta
import IceClube.Balcao
import IceClube.Painel

/-! Every handler of the bot keeps the door. The view of a handler is the whole conversation of
its chat, so that what `chatbot.js` does is told exactly; the sectors only assign fields that open
nothing. -/
namespace IceClube

open Coop Prog

structure Visao where
  k : Conversa
  agora : Nat
  setores : Setor → Option String
  /-- The user registered for the chat. -/
  usuario : Option Nat

namespace Visao

def com (v : Visao) (f : Conversa → Conversa) : Visao := { v with k := f v.k }

def anota (v : Visao) (fato : Fato) : Visao := v.com (·.anota [fato])

@[simp] theorem k_com (v : Visao) (f : Conversa → Conversa) : (v.com f).k = f v.k := rfl
@[simp] theorem agora_com (v : Visao) (f : Conversa → Conversa) : (v.com f).agora = v.agora := rfl
@[simp] theorem setores_com (v : Visao) (f : Conversa → Conversa) :
    (v.com f).setores = v.setores := rfl
@[simp] theorem usuario_com (v : Visao) (f : Conversa → Conversa) :
    (v.com f).usuario = v.usuario := rfl
@[simp] theorem k_anota (v : Visao) (fato : Fato) : (v.anota fato).k = v.k.anota [fato] := rfl

end Visao

def Db.usuarioDoChat (db : Db) (c : Chat) : Option Nat :=
  (SqlBot.sem (.selectUsuario c) db).1.map (·.1)

def Mundo.visao (m : Mundo) (c : Chat) : Visao :=
  ⟨m.conversas c, m.db.agora, m.db.setores, m.db.usuarioDoChat c⟩

def SqlBot.mexe : SqlBot → Bool
  | updateEndereco .. | iniciarEntregas _ | pedidosNaRua _ | finalizarEntregas _
  | finalizarPedidos _ | receberEntrega _ | receberPedido _ | receberVenda _ | falharEntrega ..
  | falharPedido _ | receber .. | justificar .. => true
  | _ => false

theorem passo_fechado {s : Sessao} {campos : List Campo} (passo : PassoVenda s campos) :
    campos.all (fun campo => !campo.abre) = true := by
  induction passo with
  | seguido agora passo ih => simpa [Campo.abre] using ih
  | _ => rfl

/-- What a handler is held to beside the door: its statements while the map shows a session, and
its sales. -/
structure Regra extends Balcao where
  escreve : Option Sessao.Acesso → SqlBot → Prop
  fechada : ∀ s campos, admite s campos → campos.all (fun campo => !campo.abre) = true
  livre : ∀ s campos, PassoVenda s campos → admite s campos

def semRegra : Regra where
  admite _ campos := campos.all (fun campo => !campo.abre) = true
  confirma _ _ := True
  escreve _ _ := True
  fechada _ _ fechados := fechados
  livre _ _ passo := passo_fechado passo

/-- An assignment of `chatbot.js`, of the courier's panel, or of a sale. -/
def Regra.Atribui (R : Regra) (s : Sessao) (campos : List Campo) : Prop :=
  campos.all Campo.doChat = true ∨ campos.all Campo.doPainel = true ∨ R.admite s campos

def Fato.registro : Fato → Bool
  | .registrou _ | .comprovou _ => true
  | _ => false

def Fizeram (feitas historia : List Fato) : Prop :=
  (∀ fato ∈ feitas, fato.registro = true) ∧
    ∃ antes, historia = feitas ++ antes ∧ ∀ fato ∈ antes.head?, fato.registro = false

/-- The handler of a chat touches its own conversation only, stores objects before the `n`-th,
opens none without licence and stamps them with the time of the clock. -/
def porta (R : Regra) (c : Chat) (n : Nat) : Contract String Ato.Res Visao where
  pre o v := (o.livre = false → ∀ c', o.chat = some c' → c' = c) ∧
    match o with
    | .set _ r => r < n
    | .novo _ inicio => inicio.Pontual v.agora
    | .atribuir _ r campos => Licenca v.k r campos ∧ R.Atribui (v.k.objetos r) campos ∧
      campos.all (Campo.pontual v.agora) = true
    | .chama _ r setor =>
      (v.k.objetos r).setor = some setor ∧ (v.k.objetos r).autenticado = true
    | .query _ q => q.mexe = true → R.escreve (v.k.atual.map Sessao.acesso) q
    | .commitVenda _ r =>
      ∃ feitas, Fizeram feitas v.k.historia ∧ R.confirma (v.k.objetos r) feitas
    | _ => True
  post
    | .get _, v, answer, v' =>
      v' = v ∧ answer = .ok v.k.sessao ∧ ∀ r, v.k.sessao = some r → r < n
    | .set _ r, v, answer, v' => v' = v.com (·.guarda r) ∧ answer = .ok ()
    | .delete _ saida, v, answer, v' => v' = v.com (·.apaga saida) ∧ answer = .ok ()
    | .novo _ inicio, v, answer, v' =>
      v' = v.com (·.cria inicio) ∧ answer = .ok v.k.proximo ∧ v.k.proximo < n
    | .ler _ r, v, answer, v' => v' = v ∧ answer = .ok (v.k.objetos r)
    | .atribuir _ r campos, v, answer, v' => v' = v.com (·.atribui r campos) ∧ answer = .ok ()
    | .dateNow, v, answer, v' => v' = v ∧ answer = .ok v.agora
    | .botao _ data, v, answer, v' => v' = v.anota (.botao data) ∧ answer = .ok ()
    | .chama _ r setor, v, answer, v' => v' = v.anota (.chamou r setor) ∧ answer = .ok ()
    | .compare _ setor _ hash, v, answer, v' =>
      (v' = v ∧ (answer = .ok true → v.setores setor ≠ some hash)) ∨
        v' = v.anota (.senhaSetor setor)
    | .query _ (.selectSetor setor), v, answer, v' =>
      v' = v ∧ ∀ senha, answer = .ok senha → senha = v.setores setor
    | .query _ (.selectUsuario chat), v, answer, v' =>
      v' = v ∧ (chat = c → ∀ u, answer = .ok u → u.map (·.1) = v.usuario)
    | .query _ (.insertUsuario _), v, _, v' => ∃ usuario, v' = { v with usuario := usuario }
    | .query _ (.selectLogin ..), v, answer, v' =>
      (v' = v ∧ ∀ u, answer ≠ .ok (some u)) ∨ v' = v.anota .senhaPessoal
    | .query _ (.updateSenha ..), v, answer, v' =>
      (v' = v ∧ answer ≠ .ok ()) ∨
        v' = v.anota (.senhaDefinida (v.k.atual.bind (·.cadastroEstado)))
    | .call _ chamada, v, _, v' => v' = v ∨ v' = v.anota (.registrou chamada)
    | .updateComprovante _ imagem _, v, _, v' => v' = v ∨ v' = v.anota (.comprovou imagem)
    | .commitVenda _ r, v, _, v' => v' = v ∨ v' = v.anota (.confirmou r)
    | _, v, _, v' => v' = v

theorem relogio_sem (q : SqlBot) (db : Db) :
    (q.sem db).2.agora = db.agora ∧ (q.sem db).2.setores = db.setores := by
  have entrega (id : IdSql) (f : Entrega → Entrega) :
      (db.alterarEntrega id f).agora = db.agora ∧ (db.alterarEntrega id f).setores = db.setores := by
    rw [Db.alterarEntrega]
    split <;> exact ⟨rfl, rfl⟩
  have pedido (id : IdSql) (f : Pedido → Pedido) :
      (db.alterarPedidoDaEntrega id f).agora = db.agora ∧
        (db.alterarPedidoDaEntrega id f).setores = db.setores := by
    rw [Db.alterarPedidoDaEntrega]
    split <;> exact ⟨rfl, rfl⟩
  have venda (id : IdSql) (f : Venda → Venda) :
      (db.alterarVendaDaEntrega id f).agora = db.agora ∧
        (db.alterarVendaDaEntrega id f).setores = db.setores := by
    rw [Db.alterarVendaDaEntrega]
    split <;> exact ⟨rfl, rfl⟩
  cases q with
  | updateEndereco | receberEntrega | falharEntrega | receber | justificar => exact entrega _ _
  | receberPedido | falharPedido => exact pedido _ _
  | receberVenda => exact venda _ _
  | _ => exact ⟨rfl, rfl⟩

theorem usuario_sem {q : SqlBot} (registro : ∀ chat, q ≠ .insertUsuario chat) (c : Chat) (db : Db) :
    (q.sem db).2.usuarioDoChat c = db.usuarioDoChat c := by
  have alterado (chatId : Nat) (f : Usuario → Usuario) (same : ∀ u, (f u).chatId = u.chatId) :
      (db.alterarUsuario chatId f).usuarioDoChat c = db.usuarioDoChat c := by
    have keeps (u : Usuario) : (if u.chatId = chatId then f u else u).chatId = u.chatId := by
      split
      · exact same u
      · rfl
    simp only [Db.usuarioDoChat, SqlBot.sem, Db.alterarUsuario, Table.rows_alter, List.find?_map,
      Option.map_map, Function.comp_def, keeps]
  have entrega (id : IdSql) (f : Entrega → Entrega) :
      (db.alterarEntrega id f).usuarioDoChat c = db.usuarioDoChat c := by
    rw [Db.alterarEntrega]
    split <;> rfl
  have pedido (id : IdSql) (f : Pedido → Pedido) :
      (db.alterarPedidoDaEntrega id f).usuarioDoChat c = db.usuarioDoChat c := by
    rw [Db.alterarPedidoDaEntrega]
    split <;> rfl
  have venda (id : IdSql) (f : Venda → Venda) :
      (db.alterarVendaDaEntrega id f).usuarioDoChat c = db.usuarioDoChat c := by
    rw [Db.alterarVendaDaEntrega]
    split <;> rfl
  cases q with
  | insertUsuario chat => exact absurd rfl (registro chat)
  | updateNumero | updateSenha => exact alterado _ _ fun _ => rfl
  | updateEndereco | receberEntrega | falharEntrega | receber | justificar => exact entrega _ _
  | receberPedido | falharPedido => exact pedido _ _
  | receberVenda => exact venda _ _
  | _ => rfl

namespace Ato

variable {R : Regra} {c : Chat} {n : Nat} {m : Mundo}

theorem visao_conversa (f : Conversa → Conversa) (m : Mundo) :
    (m.conversa c f).visao c = (m.visao c).com f := by
  rw [Mundo.visao, Mundo.conversas_conversa]
  rfl

/-- What a statement does to the view. -/
theorem visao_query {q : SqlBot} (registro : ∀ chat, q ≠ .insertUsuario chat) (m : Mundo) :
    ((Ato.query c q).sem m).2.visao c = (m.visao c).com (·.anota
      (if q.recusa.isSome then []
        else q.fatos ((m.conversas c).atual.bind (·.cadastroEstado)) m.db)) := by
  rw [sem]
  cases q.recusa with
  | some erro => rfl
  | none =>
    have clock := relogio_sem q m.db
    simp only [Mundo.visao, Visao.com, clock.1, clock.2, usuario_sem registro, Option.isSome_none,
      Bool.false_eq_true, if_false]
    rw [show (_ : Mundo).conversas c = _ from Mundo.conversas_conversa ..]

theorem visao_parada {o : Ato} (parada : ∀ m, (o.sem m).2.visao c = m.visao c) (m : Mundo) :
    (o.exec m).2.visao c = m.visao c :=
  exec_regra (R := fun _ m' => m'.visao c = m.visao c) (fun _ => parada _) (fun _ _ _ => rfl)
    fun _ _ _ => parada _

theorem visao_nota {o : Ato} {fato : Fato} (nota : ∀ m, (o.sem m).2.visao c = (m.visao c).anota fato)
    (m : Mundo) :
    (o.exec m).2.visao c = m.visao c ∨ (o.exec m).2.visao c = (m.visao c).anota fato :=
  exec_regra (R := fun _ m' => m'.visao c = m.visao c ∨ m'.visao c = (m.visao c).anota fato)
    (fun _ => .inr (nota _)) (fun _ _ _ => .inl rfl) fun _ _ _ => .inr (nota _)

theorem visao_compare (setor : Setor) (texto : Texto) (hash : String) (m : Mundo) :
    (porta R c n).post (.compare c setor texto hash) (m.visao c)
      (Ato.exec (.compare c setor texto hash) m).1
      ((Ato.exec (.compare c setor texto hash) m).2.visao c) := by
  have note (m : Mundo) : ((Ato.compare c setor texto hash).sem m).2.visao c =
      (m.visao c).com (·.anota
        (if m.bcrypt texto hash = true ∧ m.db.setores setor = some hash then [.senhaSetor setor]
          else [])) := by
    refine (visao_conversa ..).trans ?_
    simp only [decide_eq_true_eq, Bool.decide_and, Bool.and_eq_true]
  have effect (falhas : List Falha) :
      ((((Ato.compare c setor texto hash).sem (m.comFalhas falhas)).2.visao c = m.visao c ∧
        (((Ato.compare c setor texto hash).sem (m.comFalhas falhas)).1 = .ok true →
          m.db.setores setor ≠ some hash)) ∨
        ((Ato.compare c setor texto hash).sem (m.comFalhas falhas)).2.visao c =
          (m.visao c).anota (.senhaSetor setor)) := by
    rw [note, Mundo.bcrypt_comFalhas, Mundo.db_comFalhas]
    by_cases right : m.bcrypt texto hash = true ∧ m.db.setores setor = some hash
    · exact .inr (by rw [if_pos right]; rfl)
    · refine .inl ⟨by rw [if_neg right]; rfl, fun accepted known => right ⟨?_, known⟩⟩
      exact Except.ok.inj accepted
  refine exec_regra (R := fun answer m' =>
    (m'.visao c = m.visao c ∧ (answer = .ok true → m.db.setores setor ≠ some hash)) ∨
      m'.visao c = (m.visao c).anota (.senhaSetor setor)) effect (fun _ _ _ => .inl ⟨rfl, ?_⟩)
    fun _ falhas _ => (effect falhas).imp (fun h => ⟨h.1, ?_⟩) id
  · exact fun wrong => by cases wrong
  · exact fun wrong => by cases wrong

theorem visao_consulta (q : SqlBot) (m : Mundo) :
    (porta R c n).post (.query c q) (m.visao c) (Ato.exec (.query c q) m).1
      ((Ato.exec (.query c q) m).2.visao c) := by
  cases q with
  | selectSetor setor =>
    refine ⟨visao_parada (visao_query (by simp)) m, ?_⟩
    refine exec_regra (o := .query c (.selectSetor setor))
      (R := fun answer _ => ∀ senha, answer = .ok senha → senha = m.db.setores setor)
      (fun _ senha answered => (Except.ok.inj answered).symm) (fun _ _ _ senha wrong => ?_)
      fun _ _ _ senha wrong => ?_
    · cases wrong
    · cases wrong
  | selectLogin chatId senha =>
    have effect (m : Mundo) : (((Ato.query c (.selectLogin chatId senha)).sem m).2.visao c =
          m.visao c ∧
        ∀ u, ((Ato.query c (.selectLogin chatId senha)).sem m).1 ≠ .ok (some u)) ∨
        ((Ato.query c (.selectLogin chatId senha)).sem m).2.visao c =
          (m.visao c).anota .senhaPessoal := by
      have note := visao_query (c := c) (q := .selectLogin chatId senha) (by simp) m
      cases found : (SqlBot.sem (.selectLogin chatId senha) m.db).1 with
      | some u =>
        have facts (estado) : SqlBot.fatos estado m.db (.selectLogin chatId senha) =
            [.senhaPessoal] := if_pos (by rw [found]; rfl)
        rw [facts] at note
        exact .inr note
      | none =>
        have facts (estado) : SqlBot.fatos estado m.db (.selectLogin chatId senha) = [] :=
          if_neg (by rw [found]; simp)
        rw [facts] at note
        refine .inl ⟨note, fun u answered => ?_⟩
        have same : some u = none := (Except.ok.inj answered).symm.trans found
        cases same
    exact exec_regra (o := .query c (.selectLogin chatId senha))
      (R := fun answer m' => (m'.visao c = m.visao c ∧ ∀ u, answer ≠ .ok (some u)) ∨
        m'.visao c = (m.visao c).anota .senhaPessoal) (fun _ => effect _)
      (fun _ _ _ => .inl ⟨rfl, by simp⟩)
      fun _ falhas _ => (effect (m.comFalhas falhas)).imp (fun h => ⟨h.1, by simp⟩) id
  | updateSenha chatId senha =>
    have effect (m : Mundo) : ((Ato.query c (.updateSenha chatId senha)).sem m).2.visao c =
        (m.visao c).anota (.senhaDefinida ((m.visao c).k.atual.bind (·.cadastroEstado))) :=
      visao_query (by simp) m
    exact exec_regra (R := fun answer m' => (m'.visao c = m.visao c ∧ answer ≠ .ok ()) ∨
      m'.visao c = (m.visao c).anota
        (.senhaDefinida ((m.visao c).k.atual.bind (·.cadastroEstado))))
      (fun _ => .inr (effect _)) (fun _ _ _ => .inl ⟨rfl, by simp⟩) fun _ _ _ => .inr (effect _)
  | selectUsuario chat =>
    refine ⟨visao_parada (visao_query (by simp)) m, fun mine => ?_⟩
    refine exec_regra (o := .query c (.selectUsuario chat))
      (R := fun answer _ => ∀ u, answer = .ok u → u.map (·.1) = m.db.usuarioDoChat c)
      (fun _ u answered => ?_) (fun _ _ _ u wrong => ?_) fun _ _ _ u wrong => ?_
    · exact mine ▸ congrArg (Option.map (·.1)) (Except.ok.inj answered).symm
    · cases wrong
    · cases wrong
  | insertUsuario chat =>
    have note (m : Mundo) : ((Ato.query c (.insertUsuario chat)).sem m).2.visao c =
        { m.visao c with usuario := (SqlBot.sem (.insertUsuario chat) m.db).2.usuarioDoChat c } := by
      have same : ((Ato.query c (.insertUsuario chat)).sem m).2.conversas c = m.conversas c :=
        Mundo.conversas_conversa ..
      rw [Mundo.visao, same]
      rfl
    exact exec_regra (R := fun _ m' => ∃ usuario, m'.visao c = { m.visao c with usuario := usuario })
      (fun _ => ⟨_, note _⟩) (fun _ _ _ => ⟨_, rfl⟩) fun _ _ _ => ⟨_, note _⟩
  | _ => exact visao_parada (fun m => (visao_query (by simp) m).trans (by split <;> rfl)) m

/-- The contract says what a call answers and how the conversation looks afterwards. -/
theorem visao_exec {o : Ato} (mine : o.livre = false → ∀ c', o.chat = some c' → c' = c)
    (limite : ∀ r, (m.conversas c).sessao = some r → r < n)
    (dentro : ((o.exec m).2.conversas c).proximo ≤ n) :
    (porta R c n).post o (m.visao c) (o.exec m).1 ((o.exec m).2.visao c) := by
  cases o with
  | get c' =>
    obtain rfl := mine rfl c' rfl
    exact ⟨rfl, rfl, limite⟩
  | set c' | delete c' | atribuir c' | botao c' | chama c' =>
    obtain rfl := mine rfl c' rfl
    exact ⟨visao_conversa .., rfl⟩
  | novo c' inicio =>
    obtain rfl := mine rfl c' rfl
    rw [exec_infalivel rfl] at dentro ⊢
    refine ⟨visao_conversa .., rfl, ?_⟩
    rw [sem, Mundo.conversas_conversa] at dentro
    exact dentro
  | ler c' =>
    obtain rfl := mine rfl c' rfl
    exact ⟨rfl, rfl⟩
  | dateNow => exact ⟨rfl, rfl⟩
  | compare c' setor texto hash =>
    obtain rfl := mine rfl c' rfl
    exact visao_compare setor texto hash m
  | call c' chamada =>
    obtain rfl := mine rfl c' rfl
    exact visao_nota (o := .call _ chamada) (visao_conversa _) m
  | updateComprovante c' imagem id =>
    obtain rfl := mine rfl c' rfl
    exact visao_nota (o := .updateComprovante _ imagem id) (visao_conversa _) m
  | commitVenda c' r =>
    obtain rfl := mine rfl c' rfl
    exact visao_nota (o := .commitVenda _ r) (visao_conversa _) m
  | query c' q =>
    obtain rfl := mine rfl c' rfl
    exact visao_consulta q m
  | _ => exact visao_parada (fun _ => rfl) m

end Ato

/-- The door is kept, and the map holds an object before the `n`-th. -/
structure Guardado (n : Nat) (k : Conversa) : Prop where
  guardada : Guardada k
  limite : ∀ r, k.sessao = some r → r < n

namespace Guardado

variable {R : Regra} {c : Chat} {n : Nat} {k : Conversa} {v v' : Visao} {o : Ato}
  {answer : Except String o.Res}

theorem nota (g : Guardado n k) {fato : Fato} (comum : fato.comum = true) :
    Guardado n (k.anota [fato]) :=
  ⟨g.guardada.nota comum, g.limite⟩

/-- What a call may do keeps the door. -/
theorem segue (g : Guardado n v.k) (pre : (porta R c n).pre o v)
    (post : (porta R c n).post o v answer v') : Guardado n v'.k := by
  obtain ⟨mine, pre⟩ := pre
  have notou (fato : Fato) (comum : fato.comum = true) (post : v' = v ∨ v' = v.anota fato) :
      Guardado n v'.k := by
    rcases post with rfl | rfl
    · exact g
    · exact g.nota comum
  cases o with
  | get | ler | dateNow =>
    obtain ⟨rfl, -⟩ := post
    exact g
  | set c' r =>
    obtain ⟨rfl, -⟩ := post
    exact ⟨g.guardada.guarda r, fun r' same => Option.some.inj same ▸ pre⟩
  | delete c' saida =>
    obtain ⟨rfl, -⟩ := post
    exact ⟨g.guardada.apaga saida, fun r gone => by cases gone⟩
  | novo c' inicio =>
    obtain ⟨rfl, -⟩ := post
    exact ⟨g.guardada.cria inicio, g.limite⟩
  | atribuir c' r campos =>
    obtain ⟨rfl, -⟩ := post
    exact ⟨g.guardada.atribui pre.1, g.limite⟩
  | botao c' data =>
    obtain ⟨rfl, -⟩ := post
    exact g.nota rfl
  | chama c' r setor =>
    obtain ⟨rfl, -⟩ := post
    exact ⟨g.guardada.chama pre.1 pre.2, g.limite⟩
  | compare => exact notou _ rfl (post.imp And.left id)
  | call | updateComprovante | commitVenda => exact notou _ rfl post
  | query c' q =>
    cases q with
    | selectSetor | selectUsuario => exact notou .senhaPessoal rfl (.inl post.1)
    | insertUsuario =>
      obtain ⟨usuario, rfl⟩ := post
      exact g
    | selectLogin | updateSenha => exact notou _ rfl (post.imp And.left id)
    | _ => exact notou .senhaPessoal rfl (.inl post)
  | _ => exact notou .senhaPessoal rfl (.inl post)

end Guardado

theorem conversas_livre {o : Ato} (livre : o.livre = true) (m : Mundo) (c : Chat) :
    (o.exec m).2.conversas c = m.conversas c := by
  refine Ato.exec_regra (R := fun _ m' => m'.conversas c = m.conversas c) (fun _ => ?_)
    (fun _ _ _ => rfl) fun _ _ _ => ?_ <;> cases o <;> first | rfl | cases livre

def Mantem (R : Regra) (I : Conversa → Prop) : Prop :=
  ∀ c n o v answer v', (porta R c n).pre o v → (porta R c n).post o v answer v' →
    Guardado n v.k → I v.k → I v'.k

structure EmCurso (c : Chat) (n : Nat) (I : Conversa → Prop) (outras : Chat → Conversa) (m : Mundo)
    (v : Visao) : Prop where
  visao : m.visao c = v
  guardado : Guardado n v.k
  mantida : I v.k
  alheias : ∀ c', c' ≠ c → m.conversas c' = outras c'

theorem emCurso_exec {R : Regra} {c : Chat} {n : Nat} {I : Conversa → Prop}
    {outras : Chat → Conversa} {m : Mundo} {v : Visao} {o : Ato} (mantem : Mantem R I)
    (curso : EmCurso c n I outras m v) (pre : (porta R c n).pre o v)
    (dentro : ((o.exec m).2.conversas c).proximo ≤ n) :
    ∃ v', (porta R c n).post o v (o.exec m).1 v' ∧ EmCurso c n I outras (o.exec m).2 v' := by
  obtain ⟨rfl, guardado, mantida, alheias⟩ := curso
  have post := Ato.visao_exec (R := R) pre.1 guardado.limite dentro
  refine ⟨_, post, rfl, guardado.segue pre post, mantem c n o _ _ _ pre post guardado mantida,
    fun c' other => ?_⟩
  rw [← alheias c' other]
  cases livre : o.livre with
  | true => exact conversas_livre livre m c'
  | false => exact Ato.conversas_exec (fun here => other (pre.1 livre c' (Ato.chat_of_dono here))) m

theorem proximo_exec (c : Chat) (o : Ato) (m : Mundo) :
    (m.conversas c).proximo ≤ ((o.exec m).2.conversas c).proximo := by
  have cresce {c' : Chat} {f : Conversa → Conversa} (m : Mundo)
      (um : ∀ k, k.proximo ≤ (f k).proximo) :
      (m.conversas c).proximo ≤ ((m.conversa c' f).conversas c).proximo := by
    by_cases mine : c = c'
    · rw [mine, Mundo.conversas_conversa]
      exact um _
    · rw [Mundo.conversas_conversa_ne mine]
  have effect (m : Mundo) : (m.conversas c).proximo ≤ ((o.sem m).2.conversas c).proximo := by
    cases o with
    | query c' q =>
      rw [Ato.sem]
      split
      · exact Nat.le_refl _
      · exact cresce m fun _ => Nat.le_refl _
    | novo => exact cresce m fun _ => Nat.le_succ _
    | set | delete | atribuir | botao | chama | compare | call | updateComprovante | commitVenda =>
      exact cresce m fun _ => Nat.le_refl _
    | _ => exact Nat.le_refl _
  exact Ato.exec_regra (R := fun _ m' => (m.conversas c).proximo ≤ (m'.conversas c).proximo)
    (fun falhas => effect (m.comFalhas falhas)) (fun _ _ _ => Nat.le_refl _)
    fun _ falhas _ => effect (m.comFalhas falhas)

theorem proximo_run {α : Type} (c : Chat) (f : Fluxo α) (m : Mundo) :
    (m.conversas c).proximo ≤ ((f.run Ato.exec m).2.conversas c).proximo := by
  induction f generalizing m with
  | done a => exact Nat.le_refl _
  | fail e => exact Nat.le_refl _
  | call o next ih => exact Nat.le_trans (proximo_exec c o m) (ih _ _)

/-- Between two events the door is kept, and the map holds an object that exists. -/
def Boa (k : Conversa) : Prop := Guardado k.proximo k

/-- A handler of a chat keeps the doors of all, and makes only calls that the rule allows. -/
theorem boa_run {α : Type} {R : Regra} {I : Conversa → Prop} {c : Chat} {f : Fluxo α} {m : Mundo}
    (mantem : Mantem R I) (boa : ∀ c', Boa (m.conversas c') ∧ I (m.conversas c'))
    (passa : ∀ n, (∀ r, (m.conversas c).sessao = some r → r < n) →
      Meets (porta R c n) f (fun _ _ => True) (m.visao c)) :
    (∀ c', Boa ((f.run Ato.exec m).2.conversas c') ∧ I ((f.run Ato.exec m).2.conversas c')) ∧
      ∀ x ∈ f.trace Ato.exec m, ∃ n, (porta R c n).pre x.1 (x.2.visao c) := by
  let n := ((f.run Ato.exec m).2.conversas c).proximo
  have limite (r : Nat) (here : (m.conversas c).sessao = some r) : r < n :=
    Nat.lt_of_lt_of_le ((boa c).1.limite r here) (proximo_run c f m)
  have start : EmCurso c n I m.conversas m (m.visao c) :=
    ⟨rfl, ⟨(boa c).1.guardada, limite⟩, (boa c).2, fun _ _ => rfl⟩
  have back (o : Ato) (m : Mundo) (inside : ((o.exec m).2.conversas c).proximo ≤ n) :
      (m.conversas c).proximo ≤ n := Nat.le_trans (proximo_exec c o m) inside
  have honours (o : Ato) (m' : Mundo) (v : Visao) (curso : EmCurso c n I m.conversas m' v)
      (pre : (porta R c n).pre o v) (inside : ((o.exec m').2.conversas c).proximo ≤ n) :
      ∃ v', (porta R c n).post o v (o.exec m').1 v' ∧
        EmCurso c n I m.conversas (o.exec m').2 v' := emCurso_exec mantem curso pre inside
  constructor
  · obtain ⟨v', -, visao, guardado, mantida, alheias⟩ :=
      meets_run_within (fun m => (m.conversas c).proximo ≤ n) back honours (passa n limite) start
        (Nat.le_refl n)
    intro c'
    by_cases mine : c' = c
    · subst mine
      rw [← visao] at guardado mantida
      exact ⟨guardado, mantida⟩
    · rw [alheias c' mine]
      exact boa c'
  · intro x member
    obtain ⟨v, curso, pre⟩ :=
      meets_trace_within (fun m => (m.conversas c).proximo ≤ n) back honours (passa n limite) start
        (Nat.le_refl n) x member
    exact ⟨n, curso.visao ▸ pre⟩

end IceClube
