import IceClube.Contas
import IceClube.Sharing
import IceClube.Translation

/-! Who gets into the pages of the site. The pages ask the browser's `localStorage` alone, which
`login.html` fills in from the answer of `POST /login`; no other route of the server asks who
sends the request. -/
namespace IceClube

open Coop Prog

section Paginas

structure LocalStorage where
  usuario : Option String := none
  permissao : Option String := none
  deriving DecidableEq, Repr

def presente (item : Option String) : Bool := item.any (· ≠ "")

def LocalStorage.autenticado (l : LocalStorage) : Bool :=
  presente l.usuario && presente l.permissao

inductive PaginaDoSite where
  | adminIndex | adminEntregas | adminEstoque | adminLancamentos | adminPromocoes
  | adminUsuarios | adminVendas
  | vendasIndex | vendasConferencia | vendasEntregas | vendasEstoque | vendasLancamentos
  | vendasJsIndex
  | producao | producaoEstoque | producaoDevolucoes
  deriving DecidableEq, Repr

/-- What a page checks when it is loaded, before it sends the visitor to `login.html`. -/
structure Exigencia where
  autenticado : Bool
  permissoes : Option (List String)
  deriving DecidableEq, Repr

/-- Four pages of the sales panel do not ask for the name, those of the production and the sales
page of the administration do not ask for the permission, and the returns ask for nothing. -/
def PaginaDoSite.exige : PaginaDoSite → Exigencia
  | adminIndex | adminEntregas | adminEstoque | adminLancamentos | adminPromocoes
  | adminUsuarios => ⟨true, some ["admin"]⟩
  | adminVendas | producao | producaoEstoque => ⟨true, none⟩
  | vendasIndex => ⟨false, some ["vendas", "admin"]⟩
  | vendasConferencia | vendasEntregas | vendasJsIndex => ⟨false, some ["vendas"]⟩
  | vendasEstoque | vendasLancamentos => ⟨true, some ["vendas"]⟩
  | producaoDevolucoes => ⟨false, none⟩

def PaginaDoSite.aceita (pagina : PaginaDoSite) (l : LocalStorage) : Bool :=
  (!pagina.exige.autenticado || l.autenticado) &&
    pagina.exige.permissoes.all fun permissoes => l.permissao.any (· ∈ permissoes)

/-- The button of the first page; `none` is `login.html`. -/
def acessarPainel (l : LocalStorage) : Option PaginaDoSite :=
  if !l.autenticado then none
  else if l.permissao = some "producao" then some .producao
  else if l.permissao = some "admin" then some .adminIndex
  else if l.permissao = some "vendas" then some .vendasIndex
  else none

end Paginas

structure Site where
  contas : Contas := {}
  localStorage : Nat → LocalStorage := fun _ => {}

inductive OpSite where
  | conta (q : SqlContas)
  | deleteWeb (id : Nat)
  | setItem (navegador : Nat) (l : LocalStorage)

@[reducible] def OpSite.Res : OpSite → Type
  | .conta q => q.Res
  | _ => Unit

def OpSite.sem : (o : OpSite) → Site → o.Res × Site
  | .conta q, s => ((q.sem s.contas).1, { s with contas := (q.sem s.contas).2 })
  | .deleteWeb id, s =>
    ((), { s with contas :=
      { s.contas with usuariosWeb := s.contas.usuariosWeb.erase id } })
  | .setItem navegador l, s =>
    ((), { s with localStorage := fun n => if n = navegador then l else s.localStorage n })

section Requisicoes

abbrev RotaSite := Prog String OpSite.Res

def noSite {α : Type} (rota : RotaConta α) : RotaSite α :=
  through (fun q => attempt (OpSite.conta q)) rota

/-- `DELETE /api/usuarios_web/:id`. -/
def deleteWeb (id : Option Nat) : RotaSite RespostaConta :=
  let json (status : Nat) (mensagem : String) : RotaSite RespostaConta :=
    pure (.json ⟨status, mensagem, none⟩)
  match id with
  | none => json 400 "ID inválido"
  | some id =>
    let apagar : RotaSite RespostaConta := do
      let existing ← ask (OpSite.conta (.selectWeb id))
      if existing = [] then json 404 "Usuário web não encontrado"
      else do
        ask (OpSite.deleteWeb id)
        json 200 "Usuário web deletado com sucesso"
    apagar.handle fun _ => json 500 "Erro ao deletar usuário web"

/-- `login()` of `login.html`; any answer but the account leaves the browser on the page. -/
def fazerLogin (navegador : Nat) (usuario senha : String) : RotaSite RespostaConta := do
  let resposta ← noSite (login usuario senha)
  match resposta with
  | .entrou usuario permissao =>
    ask (OpSite.setItem navegador ⟨some usuario, some permissao⟩)
    pure resposta
  | .json _ => pure resposta

inductive ReqSite where
  | conta (requisicao : ReqConta)
  | deleteWeb (id : Option Nat)
  | fazerLogin (navegador : Nat) (usuario senha : String)
  | logout (navegador : Nat)
  deriving DecidableEq, Repr

/-- The `logout` of the pages asks nobody; that of the returns leaves the items where they are. -/
def ReqSite.rota (dataInvalida : String → Bool) : ReqSite → RotaSite RespostaConta
  | conta requisicao => noSite (requisicao.rota dataInvalida)
  | deleteWeb id => IceClube.deleteWeb id
  | fazerLogin navegador usuario senha => IceClube.fazerLogin navegador usuario senha
  | logout navegador => do
    ask (OpSite.setItem navegador {})
    pure (.json ⟨302, "login.html", none⟩)

def ReqSite.navegador : ReqSite → Option Nat
  | fazerLogin navegador .. | logout navegador => some navegador
  | _ => none

/-- The request stores this password for this name with this permission. -/
def ReqSite.cadastra (usuario senha permissao : String) : ReqSite → Prop
  | conta (.postWeb corpo) | conta (.putWeb _ corpo) => corpo = ⟨usuario, senha, permissao⟩
  | _ => False

/-- Requests interleave at their statements, and an answer takes its time to the browser. -/
def site (dataInvalida : String → Bool) :
    System ReqSite Empty String OpSite.Res RespostaConta (Faulty Site) :=
  autocommit OpSite.sem Tx.rejeicao (ReqSite.rota dataInvalida) fun _ s => s

end Requisicoes

section Origem

variable (b : Contas) (chegadas : List ReqSite) (existiu : UsuarioWeb → Prop)

def UsuarioWeb.valido (linha : UsuarioWeb) : Prop :=
  linha.usuario ≠ "" ∧ linha.permissao ∈ validPermissions

/-- A row that was there, or that one of the requests made of the password it names. -/
def Cadastrada (linha : UsuarioWeb) : Prop :=
  (∃ id, b.usuariosWeb.get id = some linha) ∨ linha.valido ∧
    ∃ senha sal, linha.senha = b.hash sal senha ∧
      ∃ r ∈ chegadas, r.cadastra linha.usuario senha linha.permissao

/-- A name and a password were typed in at the browser that match a row that existed. -/
def Digitou (navegador : Nat) (usuario permissao : String) : Prop :=
  ∃ digitado senha linha, .fazerLogin navegador digitado senha ∈ chegadas ∧ existiu linha ∧
    b.peso linha.usuario = b.peso digitado ∧ linha.usuario = usuario ∧
    linha.permissao = permissao ∧ b.compare senha linha.senha = true

/-- Only such rows are written, and a browser keeps the account that was found there. -/
def contratoDoSite : Contract String OpSite.Res Unit where
  pre
    | .conta (.insertWeb linha), _ | .conta (.updateWeb linha _), _ => Cadastrada b chegadas linha
    | .setItem navegador l, _ => l = {} ∨ ∃ usuario permissao, l = ⟨some usuario, some permissao⟩ ∧
      Digitou b chegadas existiu navegador usuario permissao
    | _, _ => True
  post
    | .conta (.selectLogin usuario), _, .ok linhas, _ =>
      ∀ linha ∈ linhas, existiu linha ∧ b.peso linha.usuario = b.peso usuario
    | .conta (.hash senha), _, .ok resumo, _ => ∃ sal, resumo = b.hash sal senha
    | .conta (.compare senha resumo), _, .ok igual, _ => igual = b.compare senha resumo
    | _, _, _, _ => True

def contratoDeContas : Contract String SqlContas.Res Unit where
  pre q := (contratoDoSite b chegadas existiu).pre (.conta q)
  post q := (contratoDoSite b chegadas existiu).post (.conta q)

structure Rastreado (s : Site) : Prop where
  linhas : ∀ id linha, s.contas.usuariosWeb.get id = some linha → Cadastrada b chegadas linha
  hash : s.contas.hash = b.hash
  compare : s.contas.compare = b.compare
  peso : s.contas.peso = b.peso
  navegadores : ∀ navegador, s.localStorage navegador = {} ∨ ∃ usuario permissao,
    s.localStorage navegador = ⟨some usuario, some permissao⟩ ∧
      Digitou b chegadas existiu navegador usuario permissao

variable {b : Contas} {chegadas : List ReqSite} {existiu : UsuarioWeb → Prop}

theorem valido_of_recusa {corpo : CorpoWeb} (accepted : corpo.recusa = none) (resumo : String) :
    (corpo.linha resumo).valido := by
  rw [CorpoWeb.recusa] at accepted
  split at accepted
  · cases accepted
  next complete =>
    split at accepted
    · cases accepted
    next known =>
      exact ⟨fun empty => complete (.inl empty), not_not.mp known⟩

theorem cadastrada_nova {corpo : CorpoWeb} {resumo : String} {r : ReqSite} (arrived : r ∈ chegadas)
    (stores : r.cadastra corpo.usuario corpo.senha corpo.permissao)
    (accepted : corpo.recusa = none) (hashed : ∃ sal, resumo = b.hash sal corpo.senha) :
    Cadastrada b chegadas (corpo.linha resumo) := by
  obtain ⟨sal, rfl⟩ := hashed
  exact .inr ⟨valido_of_recusa accepted _, corpo.senha, sal, rfl, r, arrived, stores⟩

theorem obeys_responder (status : Nat) (mensagem : String) (id : Option Nat) :
    Obeys (contratoDeContas b chegadas existiu) (responder status mensagem id) := trivial

theorem obeys_postWeb {corpo : CorpoWeb} (arrived : .conta (.postWeb corpo) ∈ chegadas) :
    Obeys (contratoDeContas b chegadas existiu) (postWeb corpo) := by
  rw [postWeb]
  split
  · exact obeys_responder ..
  next accepted =>
    refine obeys_handle (obeys_call trivial fun existing _ => ?_) fun _ => obeys_responder ..
    split
    · exact obeys_responder ..
    · refine obeys_call trivial fun resumo hashed => obeys_call ?_ fun _ _ => obeys_responder ..
      exact cadastrada_nova arrived rfl accepted hashed

theorem obeys_putWeb {id : Option Nat} {corpo : CorpoWeb}
    (arrived : .conta (.putWeb id corpo) ∈ chegadas) :
    Obeys (contratoDeContas b chegadas existiu) (putWeb id corpo) := by
  rw [putWeb.eq_def]
  split
  · exact obeys_responder ..
  · exact obeys_responder ..
  next accepted =>
    refine obeys_handle (obeys_call trivial fun existing _ => ?_) fun _ => obeys_responder ..
    split
    · exact obeys_responder ..
    · refine obeys_call trivial fun duplicate _ => ?_
      split
      · exact obeys_responder ..
      · refine obeys_call trivial fun resumo hashed => obeys_call ?_ fun _ _ => obeys_responder ..
        exact cadastrada_nova arrived rfl accepted hashed

theorem obeys_usuarios (dataInvalida : String → Bool) (corpo : CorpoUsuario) (id : Option Nat) :
    Obeys (contratoDeContas b chegadas existiu) (postUsuario dataInvalida corpo) ∧
      Obeys (contratoDeContas b chegadas existiu) (putUsuario dataInvalida id corpo) := by
  constructor
  · rw [postUsuario]
    split
    · exact obeys_responder ..
    · refine obeys_handle (obeys_call trivial fun existing _ => ?_) fun _ => obeys_responder ..
      split
      · exact obeys_responder ..
      · exact obeys_call trivial fun _ _ => obeys_responder ..
  · rw [putUsuario.eq_def]
    split
    · exact obeys_responder ..
    · exact obeys_responder ..
    · refine obeys_handle (obeys_call trivial fun existing _ => ?_) fun _ => obeys_responder ..
      split
      · exact obeys_responder ..
      · refine obeys_call trivial fun duplicate _ => ?_
        split
        · exact obeys_responder ..
        · exact obeys_call trivial fun _ _ => obeys_responder ..

/-- A login names the account of a row that its password matches. -/
theorem meets_login (usuario senha : String) :
    Meets (contratoDeContas b chegadas existiu) (login usuario senha)
      (fun r _ => ∀ nome permissao, r = .ok (.entrou nome permissao) →
        ∃ linha, existiu linha ∧ b.peso linha.usuario = b.peso usuario ∧ linha.usuario = nome ∧
          linha.permissao = permissao ∧ b.compare senha linha.senha = true) () := by
  rw [login, meets_bind, meets_ask]
  refine ⟨trivial, fun answer _ read => ?_⟩
  cases answer with
  | error e => exact fun _ _ failed => by cases failed
  | ok linhas =>
    cases linhas with
    | nil => exact fun _ _ refused => by cases refused
    | cons conta rest =>
      rw [then_ok, meets_bind, meets_ask]
      refine ⟨trivial, fun answer _ compared => ?_⟩
      cases answer with
      | error e => exact fun _ _ failed => by cases failed
      | ok igual =>
        obtain ⟨stored, named⟩ := read conta List.mem_cons_self
        have compared : igual = b.compare senha conta.senha := compared
        cases igual with
        | false => exact fun _ _ refused => by cases refused
        | true =>
          intro nome permissao entered
          cases entered
          exact ⟨conta, stored, named, rfl, rfl, compared.symm⟩

theorem meets_noSite {α : Type} {rota : RotaConta α} {Q : Except String α → Unit → Prop}
    (meets : Meets (contratoDeContas b chegadas existiu) rota Q ()) :
    Meets (contratoDoSite b chegadas existiu) (noSite rota) Q () := by
  refine meets_through (fun q v allowed => ?_) meets
  exact ⟨allowed, fun answer _ told => ⟨answer, rfl, told⟩⟩

theorem obeys_conta {dataInvalida : String → Bool} {requisicao : ReqConta}
    (arrived : .conta requisicao ∈ chegadas) :
    Obeys (contratoDeContas b chegadas existiu) (requisicao.rota dataInvalida) := by
  cases requisicao with
  | postWeb corpo => exact obeys_postWeb arrived
  | putWeb id corpo => exact obeys_putWeb arrived
  | postUsuario corpo => exact (obeys_usuarios dataInvalida corpo none).1
  | putUsuario id corpo => exact (obeys_usuarios dataInvalida corpo id).2
  | login usuario senha => exact meets_mono (meets_login usuario senha) fun _ _ _ => trivial

theorem obeys_deleteWeb (id : Option Nat) :
    Obeys (contratoDoSite b chegadas existiu) (deleteWeb id) := by
  rw [deleteWeb.eq_def]
  split
  · trivial
  · refine obeys_handle (obeys_call trivial fun existing _ => ?_) fun _ => trivial
    split
    · trivial
    · exact obeys_call trivial fun _ _ => trivial

theorem obeys_fazerLogin {navegador : Nat} {usuario senha : String}
    (arrived : .fazerLogin navegador usuario senha ∈ chegadas) :
    Obeys (contratoDoSite b chegadas existiu) (fazerLogin navegador usuario senha) := by
  rw [Obeys, fazerLogin, meets_bind]
  refine meets_mono (meets_noSite (meets_login usuario senha)) fun r _ told => ?_
  cases r with
  | error e => trivial
  | ok resposta =>
    cases resposta with
    | json answer => trivial
    | entrou nome permissao =>
      obtain ⟨linha, stored, typed, named, allowed, matched⟩ := told nome permissao rfl
      exact obeys_call (.inr ⟨nome, permissao, rfl, usuario, senha, linha, arrived, stored, typed,
        named, allowed, matched⟩) fun _ _ => trivial

theorem obeys_rota {dataInvalida : String → Bool} {r : ReqSite} (arrived : r ∈ chegadas) :
    Obeys (contratoDoSite b chegadas existiu) (r.rota dataInvalida) := by
  cases r with
  | conta requisicao => exact meets_noSite (obeys_conta arrived)
  | deleteWeb id => exact obeys_deleteWeb id
  | fazerLogin navegador usuario senha => exact obeys_fazerLogin arrived
  | logout navegador => exact obeys_call (.inl rfl) fun _ _ => trivial

variable {s : Site}

/-- A statement leaves the rows that were there, and the one it was allowed to write. -/
theorem rastreado_conta {q : SqlContas} (traced : Rastreado b chegadas existiu s)
    (allowed : (contratoDeContas b chegadas existiu).pre q ()) :
    Rastreado b chegadas existiu { s with contas := (q.sem s.contas).2 } := by
  obtain ⟨linhas, hash, compare, peso, navegadores⟩ := traced
  cases q with
  | insertWeb linha =>
    refine ⟨fun id found row => ?_, hash, compare, peso, navegadores⟩
    simp only [SqlContas.sem, Table.get_insert] at row
    split at row
    · cases row
      exact allowed
    · exact linhas id found row
  | updateWeb linha alvo =>
    refine ⟨fun id found row => ?_, hash, compare, peso, navegadores⟩
    simp only [SqlContas.sem, Table.get_modify] at row
    split at row
    · obtain ⟨_, -, rfl⟩ := Option.map_eq_some_iff.mp row
      exact allowed
    · exact linhas id found row
  | _ => exact ⟨linhas, hash, compare, peso, navegadores⟩

theorem rastreado_sem {o : OpSite} (traced : Rastreado b chegadas existiu s)
    (allowed : (contratoDoSite b chegadas existiu).pre o ()) : Rastreado b chegadas existiu (o.sem s).2 := by
  cases o with
  | conta q => exact rastreado_conta traced allowed
  | deleteWeb alvo =>
    obtain ⟨linhas, hash, compare, peso, navegadores⟩ := traced
    refine ⟨fun id found row => ?_, hash, compare, peso, navegadores⟩
    simp only [OpSite.sem, Table.get_erase] at row
    split at row
    · cases row
    · exact linhas id found row
  | setItem navegador l =>
    obtain ⟨linhas, hash, compare, peso, navegadores⟩ := traced
    refine ⟨linhas, hash, compare, peso, fun n => ?_⟩
    simp only [OpSite.sem]
    split
    next here =>
      subst here
      exact allowed
    next => exact navegadores n

/-- The answers tell what the contract says, where the rows of the moment are such as existed. -/
theorem conta_responde {o : OpSite} (traced : Rastreado b chegadas existiu s)
    (rows : ∀ id linha, s.contas.usuariosWeb.get id = some linha → existiu linha) :
    (contratoDoSite b chegadas existiu).post o () (.ok (o.sem s).1) () := by
  obtain ⟨-, hash, compare, peso, -⟩ := traced
  cases o with
  | conta q =>
    cases q with
    | selectLogin usuario =>
      intro linha member
      obtain ⟨⟨id, row⟩, found, rfl⟩ := List.mem_map.mp member
      obtain ⟨there, named⟩ := List.mem_filter.mp found
      refine ⟨rows id row (Table.mem_rows.mp there), ?_⟩
      rw [← peso]
      exact Option.some.inj (of_decide_eq_true named)
    | hash senha => exact ⟨s.contas.sais, congrArg (· s.contas.sais senha) hash⟩
    | compare senha resumo => exact congrArg (· senha resumo) compare
    | _ => trivial
  | _ => trivial

end Origem

section Resultados

variable (dataInvalida : String → Bool) (b : Contas) (faults : List Bool)

/-- A run from the accounts `b`, with no browser logged in. -/
def siteApos (passos : List (Action ReqSite Empty)) : Site :=
  ((site dataInvalida).execute passos ⟨⟨{ contas := b }, faults⟩, []⟩).state.state

/-- The account was stored at a moment of the run, at its start or by a request. -/
def Existiu (passos : List (Action ReqSite Empty)) (linha : UsuarioWeb) : Prop :=
  Cadastrada b (arrivals passos) linha ∧ ∃ antes depois, passos = antes ++ depois ∧
    ∃ id, (siteApos dataInvalida b faults antes).contas.usuariosWeb.get id = some linha

theorem rastreado_exec {chegadas : List ReqSite} {existiu : UsuarioWeb → Prop} {o : OpSite}
    {w : Faulty Site} (traced : Rastreado b chegadas existiu w.state)
    (rows : ∀ id linha, w.state.contas.usuariosWeb.get id = some linha → existiu linha)
    (allowed : (contratoDoSite b chegadas existiu).pre o ()) :
    (contratoDoSite b chegadas existiu).post o () ((site dataInvalida).exec o w).1 () ∧
      Rastreado b chegadas existiu ((site dataInvalida).exec o w).2.state := by
  cases fault : w.faults.headD false with
  | true =>
    simp only [site, autocommit, Faulty.exec_rejected o fault]
    refine ⟨?_, traced⟩
    cases o with
    | conta q => cases q <;> trivial
    | _ => trivial
  | false =>
    simp only [site, autocommit, Faulty.exec_answered o fault]
    exact ⟨conta_responde traced rows, rastreado_sem traced allowed⟩

/-- The account of a browser existed at the moment when the login looked it up. -/
theorem sempre_rastreado (passos : List (Action ReqSite Empty)) :
    Rastreado b (arrivals passos) (Existiu dataInvalida b faults passos)
      (siteApos dataInvalida b faults passos) := by
  refine System.execute_obeys_seen (M := site dataInvalida)
    (K := contratoDoSite b (arrivals passos) (Existiu dataInvalida b faults passos))
    (J := fun w : Faulty Site =>
      Rastreado b (arrivals passos) (Existiu dataInvalida b faults passos) w.state)
    (I := fun w : Faulty Site => ∃ antes depois, passos = antes ++ depois ∧
      w.state = siteApos dataInvalida b faults antes)
    (fun _ => rfl) (fun o w seen traced => ?_) (fun _ => rfl) (fun change => change.elim)
    (fun antes depois split => ⟨antes, depois, split, rfl⟩) (fun _ arrived => obeys_rota arrived)
    ⟨⟨fun id _ row => .inl ⟨id, row⟩, rfl, rfl, rfl, fun _ => .inl rfl⟩,
      fun _ member => absurd member List.not_mem_nil⟩
  obtain ⟨antes, depois, split, here⟩ := seen
  refine rastreado_exec dataInvalida b traced fun id linha row => ?_
  exact ⟨traced.linhas id linha row, antes, depois, split, id, here ▸ row⟩

/-- However requests and answers interleave, whatever statements are rejected: a page lets nobody
stay but who typed in, at that browser, a name and a password that match an account with a
permission of the page, stored at a moment of the run, whether it was there from the start or a
request had made it of that password. -/
theorem so_entra_quem_digitou (passos : List (Action ReqSite Empty)) (navegador : Nat)
    (pagina : PaginaDoSite)
    (accepted : pagina.aceita ((siteApos dataInvalida b faults passos).localStorage navegador)) :
    pagina = .producaoDevolucoes ∨
      ∃ usuario permissao, pagina.aceita ⟨some usuario, some permissao⟩ = true ∧
        Digitou b (arrivals passos) (Existiu dataInvalida b faults passos) navegador usuario
          permissao := by
  rcases (sempre_rastreado dataInvalida b faults passos).navegadores navegador with
    empty | ⟨usuario, permissao, kept, typed⟩
  · left
    have accepted : pagina.aceita {} = true := empty ▸ accepted
    revert accepted
    cases pagina <;> decide
  · exact .inr ⟨usuario, permissao, kept ▸ accepted, typed⟩

def umLogin : List (Action ReqSite Empty) :=
  [.arrive (.conta (.postWeb ⟨"ana", "1234", "vendas"⟩)), .step 0, .step 0, .step 0,
    .arrive (.fazerLogin 1 "ana" "1234"), .step 1, .step 1, .step 1]

def umSite (passos : List (Action ReqSite Empty)) : Site := siteApos (fun _ => false) {} [] passos

theorem so_entra_quem_digitou_umLogin :
    PaginaDoSite.vendasIndex.aceita ((umSite umLogin).localStorage 1) = true ∧
      ∃ usuario permissao, PaginaDoSite.vendasIndex.aceita ⟨some usuario, some permissao⟩ = true ∧
        Digitou {} (arrivals umLogin) (Existiu (fun _ => false) {} [] umLogin) 1 usuario
          permissao := by
  have accepted : PaginaDoSite.vendasIndex.aceita ((umSite umLogin).localStorage 1) = true := by
    decide +kernel
  exact ⟨accepted, (so_entra_quem_digitou (fun _ => false) {} [] umLogin 1 .vendasIndex
    accepted).resolve_left (by decide)⟩

/-- From accounts with a name and a permission of the site: the first page leads whoever is logged
in to a page that lets him stay, and everybody else to the login. -/
theorem painel_aceita (passos : List (Action ReqSite Empty)) (navegador : Nat)
    (validos : ∀ id linha, b.usuariosWeb.get id = some linha → linha.valido) :
    let l := (siteApos dataInvalida b faults passos).localStorage navegador
    (∀ pagina, acessarPainel l = some pagina → pagina.aceita l = true) ∧
      (acessarPainel l = none → l = {}) := by
  intro l
  rcases (sempre_rastreado dataInvalida b faults passos).navegadores navegador with
    empty | ⟨usuario, permissao, kept, _, _, linha, _, ⟨stored, -⟩, _, rfl, rfl, _⟩
  · rw [show l = {} from empty]
    exact ⟨fun _ led => (by cases led), fun _ => rfl⟩
  · rw [show l = ⟨some linha.usuario, some linha.permissao⟩ from kept]
    have valid : linha.valido := by
      rcases stored with ⟨id, row⟩ | ⟨valid, -⟩
      · exact validos id linha row
      · exact valid
    obtain ⟨named, known⟩ := valid
    obtain ⟨usuario, resumo, permissao⟩ := linha
    have known : permissao = "admin" ∨ permissao = "vendas" ∨ permissao = "producao" := by
      simpa [validPermissions] using known
    rcases known with rfl | rfl | rfl <;>
      simp [acessarPainel, LocalStorage.autenticado, presente, PaginaDoSite.aceita,
        PaginaDoSite.exige, named]

theorem painel_aceita_umLogin :
    acessarPainel ((umSite umLogin).localStorage 1) = some .vendasIndex ∧
      PaginaDoSite.vendasIndex.aceita ((umSite umLogin).localStorage 1) = true := by
  have led : acessarPainel ((umSite umLogin).localStorage 1) = some .vendasIndex := by
    decide +kernel
  have led_to := painel_aceita (fun _ => false) {} [] umLogin 1 fun _ _ row => (by cases row)
  exact ⟨led, led_to.1 _ led⟩

end Resultados

section Alheios

/-- A request writes to its own browser only. -/
def soNoSeu (r : ReqSite) : Contract String OpSite.Res Unit where
  pre
    | .setItem navegador _, _ => r.navegador = some navegador
    | _, _ => True
  post _ _ _ _ := True

theorem obeys_soNoSeu (dataInvalida : String → Bool) (r : ReqSite) :
    Obeys (soNoSeu r) (r.rota dataInvalida) := by
  have conta {α : Type} (rota : RotaConta α) : Obeys (soNoSeu r) (noSite rota) := by
    refine meets_through (fun q v _ => ?_) (calls_any rota)
    exact ⟨trivial, fun answer _ _ => ⟨answer, rfl, trivial⟩⟩
  cases r with
  | conta requisicao => exact conta _
  | deleteWeb id =>
    rw [ReqSite.rota, deleteWeb.eq_def]
    split
    · trivial
    · refine obeys_handle (obeys_call trivial fun existing _ => ?_) fun _ => trivial
      split
      · trivial
      · exact obeys_call trivial fun _ _ => trivial
  | fazerLogin navegador usuario senha =>
    refine obeys_bind (conta _) fun resposta => ?_
    cases resposta with
    | json answer => trivial
    | entrou nome permissao => exact obeys_call rfl fun _ _ => trivial
  | logout navegador => exact obeys_call rfl fun _ _ => trivial

/-- While only requests that are not made at a browser take steps there, also such that change or
delete the account that was logged in, every page treats it as before. -/
theorem portas_abertas (dataInvalida : String → Bool) {s : Faulty Site} {navegador : Nat}
    (antes passos : List (Action ReqSite Empty))
    (alheios : ∀ inicio a fim, passos = inicio ++ a :: fim →
      ∀ r ∈ System.author (antes ++ inicio) a, r.navegador ≠ some navegador)
    (pagina : PaginaDoSite) :
    pagina.aceita (((site dataInvalida).execute (antes ++ passos) ⟨s, []⟩).state.state.localStorage
        navegador) =
      pagina.aceita (((site dataInvalida).execute antes ⟨s, []⟩).state.state.localStorage
        navegador) := by
  refine congrArg pagina.aceita ?_
  refine System.execute_foreign (M := site dataInvalida) (K := soNoSeu)
    (fun w : Faulty Site => w.state.localStorage navegador)
    (fun r => r.navegador ≠ some navegador) (fun _ => rfl) (obeys_soNoSeu dataInvalida)
    (fun _ _ _ _ => trivial) (fun r o w foreign own => ?_) (fun change => change.elim) antes passos
    alheios
  refine Worker.faulty_keeps
    (Q := fun s : Site => s.localStorage navegador = w.state.localStorage navegador) o rfl ?_
  cases o with
  | setItem n l =>
    refine if_neg fun here => foreign ?_
    rw [here]
    exact own
  | _ => rfl

def apagada : List (Action ReqSite Empty) := [.arrive (.deleteWeb (some 1)), .step 2, .step 2]

theorem portas_abertas_apagada :
    (umSite (umLogin ++ apagada)).contas.usuariosWeb.get 1 = none ∧
      PaginaDoSite.vendasIndex.aceita ((umSite (umLogin ++ apagada)).localStorage 1) =
        PaginaDoSite.vendasIndex.aceita ((umSite umLogin).localStorage 1) := by
  refine ⟨by decide +kernel, portas_abertas (fun _ => false) umLogin apagada
    (fun inicio a fim split r mine => ?_) .vendasIndex⟩
  have other : ReqSite.navegador (.deleteWeb (some 1)) ≠ some 1 := by decide
  rcases inicio with _ | ⟨x, _ | ⟨y, _ | ⟨z, inicio⟩⟩⟩
  · cases split
    cases mine
    exact other
  · cases split
    cases mine
    exact other
  · cases split
    cases mine
    exact other
  · simp [apagada] at split

end Alheios
end IceClube
