import IceClube.Execucao
import IceClube.Growth
import IceClube.Lockstep

/-! Two worlds that differ only in the deliveries of other couriers, and the calls that do not
tell them apart when they are made for one courier. -/
namespace IceClube

open Coop Prog System

section Bancos

variable {u : Nat} {c : Chat}

/-- The deliveries of the courier are the same ones, with the same contents. -/
def MesmasEntregas (u : Nat) (entregas entregas' : Table Entrega) : Prop :=
  ∀ n, (entregas.get n).filter (·.de (some u)) = (entregas'.get n).filter (·.de (some u))

def Db.sobEntregas (db : Db) (entregas : Table Entrega) : Db := { db with entregas := entregas }

def Db.Parecido (u : Nat) (db db' : Db) : Prop :=
  ∃ entregas, db' = db.sobEntregas entregas ∧ MesmasEntregas u db.entregas entregas

/-- The user of the chat is the courier `u`, and no seller. -/
structure Db.Cadastra (u : Nat) (c : Chat) (db : Db) : Prop where
  existe : ∃ usuario, db.usuarios.get u = some usuario ∧ usuario.chatId = c
  unico : ∀ n usuario, db.usuarios.get n = some usuario → usuario.chatId = c →
    n = u ∧ usuario.cargo ≠ some .vendedor

structure Sessao.DoEntregador (u : Nat) (s : Sessao) : Prop where
  usuario : s.usuarioId = none ∨ s.usuarioId = some u
  cargo : s.cargo ≠ some .vendedor
  setor : s.setor ≠ some .vendas

def Campo.DoEntregador (u : Nat) : Campo → Prop
  | usuarioId valor => valor = none ∨ valor = some u
  | cargo valor => valor ≠ some .vendedor
  | setor valor => valor ≠ some .vendas
  | _ => True

/-- The statement reads of the deliveries only those of the courier, and what it writes elsewhere
does not depend on the others. -/
def SqlBot.Discreta (u : Nat) (c : Chat) : SqlBot → Prop
  | selectUsuario chatId | selectLogin chatId _ => chatId = c
  | insertUsuario _ => False
  | selectEntregas v | selectAtribuidas v | selectValores v | selectDetalhes _ v
  | selectDetalhesItens _ v | iniciarEntregas v | pedidosNaRua v | finalizarEntregas v
  | finalizarPedidos v => v = none ∨ v = some u
  | selectEndereco _ | receberPedido _ | receberVenda _ | falharPedido _ => False
  | _ => True

/-- Calls for the chat `c`, whose user is the courier `u`. -/
def sigilo (u : Nat) (c : Chat) : Contract String Ato.Res Unit where
  pre
    | .ler c' _, _ => c' = c
    | .atribuir c' _ campos, _ => c' = c ∧ ∀ campo ∈ campos, campo.DoEntregador u
    | .query c' q, _ => c' = c ∧ q.Discreta u c
    | _, _ => True
  post
    | .ler .., _, answer, _ => ∀ s, answer = .ok s → s.DoEntregador u
    | .query _ (.selectUsuario _), _, answer, _ => ∀ found, answer = .ok found →
      ∃ usuario, found = some (u, usuario) ∧ usuario.cargo ≠ some .vendedor
    | .query _ (.selectLogin ..), _, answer, _ => ∀ n usuario, answer = .ok (some (n, usuario)) →
      usuario.cargo ≠ some .vendedor
    | _, _, _, _ => True

section Entregas

variable {entregas entregas' : Table Entrega} (mesmas : MesmasEntregas u entregas entregas')
include mesmas

theorem filter_minhas {v : Option Nat} (meu : v = none ∨ v = some u) (p : Entrega → Bool)
    (n : Nat) : (entregas.get n).filter (fun e => p e && e.de v) =
      (entregas'.get n).filter fun e => p e && e.de v := by
  rcases meu with rfl | rfl
  · have nobody (e : Entrega) : (p e && e.de none) = false := Bool.and_false _
    cases entregas.get n <;> cases entregas'.get n <;> simp [nobody, Option.filter_some]
  · have turned : (fun e : Entrega => p e && e.de (some u)) = fun e => e.de (some u) && p e :=
      funext fun e => Bool.and_comm _ _
    rw [turned, ← Option.filter_filter, ← Option.filter_filter, mesmas n]

theorem rows_minhas {v : Option Nat} (meu : v = none ∨ v = some u) (p : Entrega → Bool) :
    entregas.rows.filter (fun row => p row.2 && row.2.de v) =
      entregas'.rows.filter fun row => p row.2 && row.2.de v :=
  Table.filter_rows (filter_minhas mesmas meu p)

theorem mesmas_alter {f : Nat → Entrega → Entrega}
    (mesmo : ∀ n e, (f n e).entregadorId = e.entregadorId) :
    MesmasEntregas u (entregas.alter f) (entregas'.alter f) := by
  intro n
  have de (e : Entrega) : (f n e).de (some u) = e.de (some u) := by rw [Entrega.de, mesmo]; rfl
  rw [Table.get_alter, Table.get_alter, Option.filter_map, Option.filter_map]
  exact congrArg (Option.map (f n)) (by simpa only [Function.comp_def, de] using mesmas n)

variable (db : Db)

theorem entregasDe_parecido (status : List StatusEntrega) {v : Option Nat}
    (meu : v = none ∨ v = some u) : (db.sobEntregas entregas).entregasDe status v =
      (db.sobEntregas entregas').entregasDe status v :=
  rows_minhas mesmas meu fun e => db.pedidoValido e.pedidoId && status.contains e.status

theorem detalhes_parecido (id : IdSql) {v : Option Nat} (meu : v = none ∨ v = some u) :
    (db.sobEntregas entregas).detalhes id v = (db.sobEntregas entregas').detalhes id v := by
  have minha (n : Nat) : (entregas.get n).filter (·.de v) = (entregas'.get n).filter (·.de v) := by
    simpa using filter_minhas mesmas meu (fun _ => true) n
  simp only [Db.detalhes, Db.sobEntregas, minha]

theorem naEntregaDe_parecido (status : StatusEntrega) {v : Option Nat}
    (meu : v = none ∨ v = some u) (pedidoId : Nat) :
    (db.sobEntregas entregas).naEntregaDe status v pedidoId =
      (db.sobEntregas entregas').naEntregaDe status v pedidoId := by
  have same := congrArg (List.any · fun _ => true)
    (rows_minhas mesmas meu fun e => e.pedidoId = pedidoId && e.status = status)
  simp only [List.any_filter, Bool.and_true] at same
  simpa only [Db.naEntregaDe, Db.sobEntregas, Bool.and_right_comm] using same

theorem parecido_alterarEntrega (id : IdSql) {f : Entrega → Entrega}
    (mesmo : ∀ e, (f e).entregadorId = e.entregadorId) :
    Db.Parecido u ((db.sobEntregas entregas).alterarEntrega id f)
      ((db.sobEntregas entregas').alterarEntrega id f) := by
  cases linha : id.linha with
  | none =>
    rw [Db.alterarEntrega, Db.alterarEntrega, linha]
    exact ⟨entregas', rfl, mesmas⟩
  | some n =>
    rw [Db.alterarEntrega, Db.alterarEntrega, linha]
    refine ⟨entregas'.modify n f, rfl, mesmas_alter mesmas fun other e => ?_⟩
    split
    · exact mesmo e
    · rfl

theorem parecido_alterarEntregasDe (v : Option Nat) {f : Entrega → Entrega}
    (mesmo : ∀ e, (f e).entregadorId = e.entregadorId) :
    Db.Parecido u ((db.sobEntregas entregas).alterarEntregasDe v f)
      ((db.sobEntregas entregas').alterarEntregasDe v f) := by
  refine ⟨_, rfl, mesmas_alter mesmas fun n e => ?_⟩
  split
  · exact mesmo e
  · rfl

theorem parecido_alterarPedidosDe (status : StatusEntrega) {v : Option Nat}
    (meu : v = none ∨ v = some u) (f : Pedido → Pedido) :
    Db.Parecido u ((db.sobEntregas entregas).alterarPedidosDe status v f)
      ((db.sobEntregas entregas').alterarPedidosDe status v f) := by
  refine ⟨entregas', ?_, mesmas⟩
  simp only [Db.alterarPedidosDe, naEntregaDe_parecido mesmas db status meu]
  rfl

/-- Databases that differ in the deliveries of others only answer a discreet statement alike. -/
theorem parecido_sem {q : SqlBot} (discreta : q.Discreta u c) :
    (q.sem (db.sobEntregas entregas)).1 = (q.sem (db.sobEntregas entregas')).1 ∧
      Db.Parecido u (q.sem (db.sobEntregas entregas)).2 (q.sem (db.sobEntregas entregas')).2 := by
  have parada : Db.Parecido u (db.sobEntregas entregas) (db.sobEntregas entregas') :=
    ⟨entregas', rfl, mesmas⟩
  cases q with
  | insertUsuario | selectEndereco | receberPedido | receberVenda | falharPedido =>
    exact discreta.elim
  | selectEntregas v => exact ⟨entregasDe_parecido mesmas db _ discreta, parada⟩
  | selectAtribuidas v => exact ⟨entregasDe_parecido mesmas db _ discreta, parada⟩
  | selectValores v =>
    refine ⟨?_, parada⟩
    rw [SqlBot.sem, SqlBot.sem, entregasDe_parecido mesmas db _ discreta]
    rfl
  | selectDetalhes id v => exact ⟨detalhes_parecido mesmas db id discreta, parada⟩
  | selectDetalhesItens id v =>
    refine ⟨?_, parada⟩
    rw [SqlBot.sem, SqlBot.sem, detalhes_parecido mesmas db id discreta]
  | iniciarEntregas v =>
    exact ⟨rfl, parecido_alterarEntregasDe mesmas db v
      (f := fun e => { e with horaInicio := some db.agora, dataSaida := some db.agora })
      fun _ => rfl⟩
  | finalizarEntregas v =>
    exact ⟨rfl, parecido_alterarEntregasDe mesmas db v
      (f := fun e => { e with horaFim := some db.agora, status := .finalizado }) fun _ => rfl⟩
  | pedidosNaRua v => exact ⟨rfl, parecido_alterarPedidosDe mesmas db .rua discreta _⟩
  | finalizarPedidos v => exact ⟨rfl, parecido_alterarPedidosDe mesmas db .finalizado discreta _⟩
  | updateEndereco id | receberEntrega id | falharEntrega _ id | receber _ id
  | justificar _ _ id =>
    exact ⟨rfl, parecido_alterarEntrega mesmas db id fun _ => rfl⟩
  | _ => exact ⟨rfl, entregas', rfl, mesmas⟩

end Entregas

section Cadastro

variable {db : Db} (cadastra : db.Cadastra u c)
include cadastra

theorem selectUsuario_cadastra {found : Option (Nat × Usuario)}
    (answered : (SqlBot.sem (.selectUsuario c) db).1 = found) :
    ∃ usuario, found = some (u, usuario) ∧ usuario.cargo ≠ some .vendedor := by
  obtain ⟨usuario, row, mine⟩ := cadastra.existe
  subst answered
  cases search : db.usuarios.rows.find? fun v => v.2.chatId = c with
  | none =>
    have missed := List.find?_eq_none.mp search (u, usuario) (Table.mem_rows.mpr row)
    exact absurd mine (by simpa using missed)
  | some outra =>
    obtain ⟨n, outro⟩ := outra
    have dele : outro.chatId = c := by simpa using List.find?_some search
    have row := Table.mem_rows.mp (List.mem_of_find?_eq_some search)
    obtain ⟨rfl, cargo⟩ := cadastra.unico n outro row dele
    exact ⟨outro, search, cargo⟩

theorem selectLogin_cadastra {senha : Texto} {n : Nat} {usuario : Usuario}
    (answered : (SqlBot.sem (.selectLogin c senha) db).1 = some (n, usuario)) :
    usuario.cargo ≠ some .vendedor := by
  have dele := List.find?_some answered
  simp only [decide_eq_true_eq] at dele
  exact (cadastra.unico n usuario
    (Table.mem_rows.mp (List.mem_of_find?_eq_some answered)) dele.1).2

theorem cadastra_alterarUsuario (chatId : Nat) {f : Usuario → Usuario}
    (chat : ∀ v, (f v).chatId = v.chatId) (cargo : ∀ v, (f v).cargo = v.cargo) :
    (db.alterarUsuario chatId f).Cadastra u c := by
  have get (n : Nat) : (db.alterarUsuario chatId f).usuarios.get n =
      (db.usuarios.get n).map fun v => if v.chatId = chatId then f v else v := rfl
  have mesmo (v : Usuario) : (if v.chatId = chatId then f v else v).chatId = v.chatId ∧
      (if v.chatId = chatId then f v else v).cargo = v.cargo := by
    split
    · exact ⟨chat v, cargo v⟩
    · exact ⟨rfl, rfl⟩
  constructor
  · obtain ⟨usuario, row, mine⟩ := cadastra.existe
    exact ⟨_, by rw [get, row]; rfl, (mesmo usuario).1.trans mine⟩
  · intro n usuario row mine
    rw [get] at row
    obtain ⟨antes, found, rfl⟩ := Option.map_eq_some_iff.mp row
    rw [(mesmo antes).1] at mine
    rw [(mesmo antes).2]
    exact cadastra.unico n antes found mine

theorem cadastra_sem {q : SqlBot} (discreta : q.Discreta u c) : (q.sem db).2.Cadastra u c := by
  have igual {db' : Db} (same : db'.usuarios = db.usuarios) : db'.Cadastra u c :=
    ⟨same ▸ cadastra.existe, same ▸ cadastra.unico⟩
  cases q with
  | insertUsuario | selectEndereco | receberPedido | receberVenda | falharPedido =>
    exact discreta.elim
  | updateNumero chatId numero =>
    exact cadastra_alterarUsuario cadastra chatId (f := fun v => { v with numero := some numero })
      (fun _ => rfl) fun _ => rfl
  | updateSenha chatId senha =>
    exact cadastra_alterarUsuario cadastra chatId
      (f := fun v => { v with senha := some (db.sha2 senha) }) (fun _ => rfl) fun _ => rfl
  | updateEndereco id | receberEntrega id | falharEntrega _ id | receber _ id
  | justificar _ _ id =>
    refine igual ?_
    rw [SqlBot.sem, Db.alterarEntrega]
    split <;> rfl
  | _ => exact igual rfl

end Cadastro

end Bancos

section Mundos

variable {u : Nat} {c : Chat}

def Mundo.comDb (m : Mundo) (db : Db) : Mundo := { m with db := db }

/-- The worlds differ in the deliveries of others only, and the chat is the courier's. -/
structure Mundo.Parecido (u : Nat) (c : Chat) (m m' : Mundo) : Prop where
  db : m.db.Parecido u m'.db
  resto : m' = m.comDb m'.db
  cadastra : m.db.Cadastra u c
  sessoes : ∀ r, ((m.conversas c).objetos r).DoEntregador u

theorem doEntregador_atribuir {s : Sessao} (meu : s.DoEntregador u) {campo : Campo}
    (dele : campo.DoEntregador u) : (s.atribuir campo).DoEntregador u := by
  obtain ⟨usuario, cargo, setor⟩ := meu
  cases campo with
  | usuarioId valor => exact ⟨dele, cargo, setor⟩
  | cargo valor => exact ⟨usuario, dele, setor⟩
  | setor valor => exact ⟨usuario, cargo, dele⟩
  | _ => exact ⟨usuario, cargo, setor⟩

theorem doEntregador_atribuirTodos {s : Sessao} (meu : s.DoEntregador u) {campos : List Campo}
    (deles : ∀ campo ∈ campos, campo.DoEntregador u) : (s.atribuirTodos campos).DoEntregador u := by
  induction campos generalizing s with
  | nil => exact meu
  | cons campo resto ih =>
    rw [List.forall_mem_cons] at deles
    exact ih (doEntregador_atribuir meu deles.1) deles.2

theorem doEntregador_novo (inicio : Inicio) : inicio.sessao.DoEntregador u :=
  ⟨.inl rfl, by simp [Inicio.sessao], by simp [Inicio.sessao]⟩

theorem sessoes_sem {m : Mundo} (sessoes : ∀ r, ((m.conversas c).objetos r).DoEntregador u)
    {o : Ato} (pre : (sigilo u c).pre o ()) (r : Nat) :
    (((o.sem m).2.conversas c).objetos r).DoEntregador u := by
  cases o with
  | novo c' inicio =>
    by_cases mine : c = c'
    · subst mine
      simp only [Ato.sem, Mundo.conversas_conversa, Conversa.cria, Conversa.troca]
      split
      · exact doEntregador_novo inicio
      · exact sessoes r
    · rw [Ato.sem, Mundo.conversas_conversa_ne mine]
      exact sessoes r
  | atribuir c' r' campos =>
    obtain ⟨rfl, deles⟩ := pre
    simp only [Ato.sem, Mundo.conversas_conversa]
    by_cases here : r = r'
    · rw [here, Conversa.objetos_atribui]
      exact doEntregador_atribuirTodos (sessoes r') deles
    · rw [Conversa.objetos_atribui_ne _ _ _ here]
      exact sessoes r
  | _ =>
    rw [objetos_sem rfl]
    exact sessoes r

theorem parecido_query {m : Mundo} {entregas : Table Entrega}
    (mesmas : MesmasEntregas u m.db.entregas entregas) (cadastra : m.db.Cadastra u c)
    (sessoes : ∀ r, ((m.conversas c).objetos r).DoEntregador u) {c' : Chat} {q : SqlBot}
    (pre : (sigilo u c).pre (.query c' q) ()) :
    ((Ato.query c' q).sem m).1 = ((Ato.query c' q).sem (m.comDb (m.db.sobEntregas entregas))).1 ∧
      (sigilo u c).post (.query c' q) () ((Ato.query c' q).sem m).1 () ∧
      ((Ato.query c' q).sem m).2.Parecido u c
        ((Ato.query c' q).sem (m.comDb (m.db.sobEntregas entregas))).2 := by
  obtain ⟨rfl, discreta⟩ := pre
  have depois := sessoes_sem sessoes (o := .query c' q) ⟨rfl, discreta⟩
  obtain ⟨answer, after⟩ := parecido_sem mesmas m.db discreta
  have cadastra' := cadastra_sem cadastra discreta
  rw [Ato.sem, Ato.sem]
  rw [Ato.sem] at depois
  cases refused : q.recusa with
  | some erro =>
    refine ⟨rfl, ?_, ⟨entregas, rfl, mesmas⟩, rfl, cadastra, sessoes⟩
    cases q with
    | selectUsuario | selectLogin => cases refused
    | _ => trivial
  | none =>
    simp only [refused] at depois ⊢
    have fatos (estado : Option CadastroEstado) :
        q.fatos estado (m.db.sobEntregas entregas) = q.fatos estado m.db := by
      cases q <;> rfl
    refine ⟨congrArg Except.ok answer, ?_, after, ?_, cadastra', depois⟩
    · cases q with
      | selectUsuario chatId =>
        obtain rfl : chatId = c' := discreta
        rintro found same
        exact selectUsuario_cadastra cadastra (Except.ok.inj same)
      | selectLogin chatId senha =>
        obtain rfl : chatId = c' := discreta
        rintro n usuario same
        exact selectLogin_cadastra cadastra (Except.ok.inj same)
      | _ => trivial
    · simp only [Mundo.comDb, Mundo.conversa, fatos]

/-- The effect and the answer of a call that is not refused. -/
theorem parecido_efeito {m m' : Mundo} (parecido : m.Parecido u c m') {o : Ato}
    (pre : (sigilo u c).pre o ()) :
    (o.sem m).1 = (o.sem m').1 ∧ (sigilo u c).post o () (o.sem m).1 () ∧
      (o.sem m).2.Parecido u c (o.sem m').2 := by
  obtain ⟨⟨entregas, same, mesmas⟩, resto, cadastra, sessoes⟩ := parecido
  have depois := sessoes_sem sessoes pre
  rw [same] at resto
  subst resto
  cases o with
  | query c' q => exact parecido_query mesmas cadastra sessoes pre
  | ler c' r =>
    obtain rfl : c' = c := pre
    refine ⟨rfl, ?_, ⟨entregas, rfl, mesmas⟩, rfl, cadastra, depois⟩
    rintro s answered
    cases answered
    exact sessoes r
  | updateComprovante =>
    exact ⟨rfl, trivial, ⟨entregas, rfl, mesmas⟩, rfl, ⟨cadastra.existe, cadastra.unico⟩, depois⟩
  | _ => exact ⟨rfl, trivial, ⟨entregas, rfl, mesmas⟩, rfl, cadastra, depois⟩

theorem post_error (o : Ato) (erro : String) : (sigilo u c).post o () (.error erro) () := by
  cases o with
  | ler =>
    rintro s same
    cases same
  | query c' q =>
    cases q with
    | selectUsuario =>
      rintro found same
      cases same
    | selectLogin =>
      rintro n usuario same
      cases same
    | _ => trivial
  | _ => trivial

theorem Mundo.Parecido.comFalhas {m m' : Mundo} (parecido : m.Parecido u c m')
    (falhas : List Falha) : (m.comFalhas falhas).Parecido u c (m'.comFalhas falhas) where
  db := parecido.db
  resto := by rw [parecido.resto]; rfl
  cadastra := parecido.cadastra
  sessoes := parecido.sessoes

/-- Neither the answer of a call nor what it leaves tells the worlds apart. -/
theorem discreto_exec : Discreet bot (sigilo u c) (Mundo.Parecido u c) := by
  intro o m m' parecido pre
  change (o.exec m).1 = (o.exec m').1 ∧ (sigilo u c).post o () (o.exec m).1 () ∧
    (o.exec m).2.Parecido u c (o.exec m').2
  have falhas : m'.falhas = m.falhas := by rw [parecido.resto]; rfl
  rw [Ato.exec, Ato.exec, falhas]
  obtain ⟨answer, post, after⟩ := parecido_efeito (parecido.comFalhas m.falhas.tail) pre
  cases o.infalivel with
  | true => exact parecido_efeito parecido pre
  | false =>
    cases m.falhas.headD .nenhuma with
    | nenhuma => exact ⟨answer, post, after⟩
    | rejeitada erro => exact ⟨rfl, post_error o erro, parecido.comFalhas _⟩
    | perdida => exact ⟨rfl, post_error o _, after⟩

end Mundos
end IceClube
