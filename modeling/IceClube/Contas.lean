import IceClube.Texto
import IceClube.Transacoes
import IceClube.Keys
import IceClube.Statements

/-! The accounts of the site (`usuarios_web`) and the employees (`usuarios`): their creation
and their edition, and the login that looks an account up by its name. The tables have no
unique key beside the identifiers. -/
namespace IceClube

open Coop Prog

structure UsuarioWeb where
  usuario : String
  senha : String
  permissao : String
  deriving DecidableEq, Repr

/-- A row of `usuarios` with the columns that the site writes. -/
structure Funcionario where
  nome : String
  numero : Option String
  cargo : Option String := none
  departamento : Option String := none
  email : Option String := none
  dataContratacao : Option String := none
  salario : Option ℚ := none
  deriving DecidableEq, Repr

structure Contas where
  usuariosWeb : Table UsuarioWeb := .empty
  usuarios : Table Funcionario := .empty
  /-- `bcrypt.hash` with the salt of that number; the package is not in the repository. -/
  hash : Nat → String → String := fun _ senha => senha
  /-- `bcrypt.compare`. -/
  compare : String → String → Bool := fun senha resumo => senha = resumo
  /-- The salts drawn so far. -/
  sais : Nat := 0
  /-- What the collation tells texts apart by, which is not in the repository. -/
  peso : String → String := id

inductive SqlContas where
  | selectPorUsuario (usuario : String)
  | selectWeb (id : Nat)
  | selectOutroUsuario (usuario : String) (id : Nat)
  | insertWeb (linha : UsuarioWeb)
  | updateWeb (linha : UsuarioWeb) (id : Nat)
  | selectLogin (usuario : String)
  | selectPorNumero (numero : String)
  | selectUsuario (id : Nat)
  | selectOutroNumero (numero : String) (id : Nat)
  | insertUsuario (linha : Funcionario)
  | updateUsuario (linha : Funcionario) (id : Nat)
  | hash (senha : String)
  | compare (senha resumo : String)

/-- The identifiers found, the rows found, or the identifier inserted. -/
@[reducible] def SqlContas.Res : SqlContas → Type
  | .insertWeb _ | .insertUsuario _ => Nat
  | .updateWeb .. | .updateUsuario .. => Unit
  | .selectLogin _ => List UsuarioWeb
  | .hash _ => String
  | .compare .. => Bool
  | _ => List Nat

namespace Contas

def porUsuario (usuario : String) (b : Contas) : List (Nat × UsuarioWeb) :=
  b.usuariosWeb.rows.filter fun u => some (b.peso u.2.usuario) = some (b.peso usuario)

def porNumero (numero : String) (b : Contas) : List (Nat × Funcionario) :=
  b.usuarios.rows.filter fun u => u.2.numero.map b.peso = some (b.peso numero)

end Contas

def SqlContas.sem : (q : SqlContas) → Contas → q.Res × Contas
  | .selectPorUsuario usuario, b => ((b.porUsuario usuario).map (·.1), b)
  | .selectWeb id, b => ((b.usuariosWeb.get id).toList.map fun _ => id, b)
  | .selectOutroUsuario usuario id, b =>
    (((b.porUsuario usuario).map (·.1)).filter (· ≠ id), b)
  | .insertWeb linha, b =>
    (b.usuariosWeb.next, { b with usuariosWeb := b.usuariosWeb.insert linha })
  | .updateWeb linha id, b =>
    ((), { b with usuariosWeb := b.usuariosWeb.modify id fun _ => linha })
  | .selectLogin usuario, b => ((b.porUsuario usuario).map (·.2), b)
  | .selectPorNumero numero, b => ((b.porNumero numero).map (·.1), b)
  | .selectUsuario id, b => ((b.usuarios.get id).toList.map fun _ => id, b)
  | .selectOutroNumero numero id, b => (((b.porNumero numero).map (·.1)).filter (· ≠ id), b)
  | .insertUsuario linha, b => (b.usuarios.next, { b with usuarios := b.usuarios.insert linha })
  | .updateUsuario linha id, b =>
    ((), { b with usuarios := b.usuarios.modify id fun _ => linha })
  | .hash senha, b => (b.hash b.sais senha, { b with sais := b.sais + 1 })
  | .compare senha resumo, b => (b.compare senha resumo, b)

/-- The answer of a login names the account; the others are a status and a text. -/
inductive RespostaConta where
  | json (resposta : Resposta)
  | entrou (usuario permissao : String)
  deriving DecidableEq, Repr

abbrev RotaConta := Prog String SqlContas.Res

abbrev sqlContas (q : SqlContas) : RotaConta q.Res := ask q

def responder (status : Nat) (mensagem : String) (id : Option Nat := none) :
    RotaConta RespostaConta :=
  pure (.json ⟨status, mensagem, id⟩)

/-- The body of a request to `/api/usuarios_web`; a missing field is empty. -/
structure CorpoWeb where
  usuario : String
  senha : String
  permissao : String
  deriving DecidableEq, Repr

structure CorpoUsuario where
  nome : String
  numero : String
  cargo : String := ""
  departamento : String := ""
  email : String := ""
  dataContratacao : String := ""
  salario : Option ℚ := none
  deriving DecidableEq, Repr

section UsuariosWeb

def validPermissions : List String := ["admin", "vendas", "producao"]

def CorpoWeb.recusa (corpo : CorpoWeb) : Option String :=
  if corpo.usuario = "" ∨ corpo.senha = "" ∨ corpo.permissao = "" then
    some "Usuário, senha e permissão são obrigatórios"
  else if corpo.permissao ∉ validPermissions then some "Permissão inválida"
  else none

def CorpoWeb.linha (corpo : CorpoWeb) (hashedPassword : String) : UsuarioWeb :=
  ⟨corpo.usuario, hashedPassword, corpo.permissao⟩

/-- `POST /api/usuarios_web`. -/
def postWeb (corpo : CorpoWeb) : RotaConta RespostaConta :=
  match corpo.recusa with
  | some erro => responder 400 erro
  | none =>
    let gravar : RotaConta RespostaConta := do
      let existing ← sqlContas (.selectPorUsuario corpo.usuario)
      if existing ≠ [] then responder 400 "Usuário já existe"
      else do
        let hashedPassword ← sqlContas (.hash corpo.senha)
        let id ← sqlContas (.insertWeb (corpo.linha hashedPassword))
        responder 201 "Usuário web adicionado com sucesso" (some id)
    gravar.handle fun _ => responder 500 "Erro ao adicionar usuário web"

/-- `PUT /api/usuarios_web/:id`; `none` is an identifier that is not a number. -/
def putWeb (id : Option Nat) (corpo : CorpoWeb) : RotaConta RespostaConta :=
  match id, corpo.recusa with
  | none, _ => responder 400 "ID inválido"
  | some _, some erro => responder 400 erro
  | some id, none =>
    let gravar : RotaConta RespostaConta := do
      let existing ← sqlContas (.selectWeb id)
      if existing = [] then responder 404 "Usuário web não encontrado"
      else do
        let duplicate ← sqlContas (.selectOutroUsuario corpo.usuario id)
        if duplicate ≠ [] then responder 400 "Novo nome de usuário já está em uso"
        else do
          let hashedPassword ← sqlContas (.hash corpo.senha)
          sqlContas (.updateWeb (corpo.linha hashedPassword) id)
          responder 200 "Usuário web atualizado com sucesso"
    gravar.handle fun _ => responder 500 "Erro ao atualizar usuário web"

/-- `POST /login`; a rejected query is thrown out of the route. -/
def login (usuario senha : String) : RotaConta RespostaConta := do
  match ← sqlContas (.selectLogin usuario) with
  | [] => responder 401 "Usuário ou senha inválidos"
  | conta :: _ => do
    if ← sqlContas (.compare senha conta.senha) then pure (.entrou conta.usuario conta.permissao)
    else responder 401 "Usuário ou senha inválidos"

end UsuariosWeb

section Usuarios

/-- `/^\d{10,15}$/`. -/
def numeroDeTelefone (numero : Texto) : Bool :=
  numero.all Char.isDigit && 10 ≤ numero.length && numero.length ≤ 15

/-- `/^[^\s@]+@[^\s@]+\.[^\s@]+$/`: one at sign, and a point inside what follows it. -/
def emailValido (email : Texto) : Bool :=
  email.all (fun c => !espaco c) &&
    match email.splitOn '@' with
    | [usuario, dominio] => usuario ≠ [] && '.' ∈ (dominio.drop 1).dropLast
    | _ => false

/-- `dataInvalida` tells the texts that `new Date` takes for no date. -/
def CorpoUsuario.recusa (dataInvalida : String → Bool) (corpo : CorpoUsuario) : Option String :=
  if corpo.nome = "" ∨ corpo.numero = "" then some "Nome e número são obrigatórios"
  else if !numeroDeTelefone corpo.numero.toList then some "Número deve ter entre 10 e 15 dígitos"
  else if corpo.email ≠ "" ∧ !emailValido corpo.email.toList then some "Email inválido"
  else if corpo.dataContratacao ≠ "" ∧ dataInvalida corpo.dataContratacao then
    some "Data de contratação inválida"
  else none

def CorpoUsuario.linha (corpo : CorpoUsuario) : Funcionario where
  nome := corpo.nome
  numero := some corpo.numero
  cargo := naoVazio corpo.cargo
  departamento := naoVazio corpo.departamento
  email := naoVazio corpo.email
  dataContratacao := naoVazio corpo.dataContratacao
  salario := corpo.salario.filter fun x => x ≠ 0

variable (dataInvalida : String → Bool)

/-- `POST /api/usuarios`. -/
def postUsuario (corpo : CorpoUsuario) : RotaConta RespostaConta :=
  match corpo.recusa dataInvalida with
  | some erro => responder 400 erro
  | none =>
    let gravar : RotaConta RespostaConta := do
      let existing ← sqlContas (.selectPorNumero corpo.numero)
      if existing ≠ [] then responder 400 "Número já registrado"
      else do
        let id ← sqlContas (.insertUsuario corpo.linha)
        responder 201 "Usuário adicionado com sucesso" (some id)
    gravar.handle fun _ => responder 500 "Erro ao adicionar usuário"

/-- `PUT /api/usuarios/:id`. -/
def putUsuario (id : Option Nat) (corpo : CorpoUsuario) : RotaConta RespostaConta :=
  match id, corpo.recusa dataInvalida with
  | none, _ => responder 400 "ID inválido"
  | some _, some erro => responder 400 erro
  | some id, none =>
    let gravar : RotaConta RespostaConta := do
      let existing ← sqlContas (.selectUsuario id)
      if existing = [] then responder 404 "Usuário não encontrado"
      else do
        let duplicate ← sqlContas (.selectOutroNumero corpo.numero id)
        if duplicate ≠ [] then responder 400 "Número já está em uso"
        else do
          sqlContas (.updateUsuario corpo.linha id)
          responder 200 "Usuário atualizado com sucesso"
    gravar.handle fun _ => responder 500 "Erro ao atualizar usuário"

end Usuarios

inductive ReqConta where
  | postWeb (corpo : CorpoWeb)
  | putWeb (id : Option Nat) (corpo : CorpoWeb)
  | postUsuario (corpo : CorpoUsuario)
  | putUsuario (id : Option Nat) (corpo : CorpoUsuario)
  | login (usuario senha : String)
  deriving DecidableEq, Repr

def ReqConta.rota (dataInvalida : String → Bool) : ReqConta → RotaConta RespostaConta
  | .postWeb corpo => IceClube.postWeb corpo
  | .putWeb id corpo => IceClube.putWeb id corpo
  | .postUsuario corpo => IceClube.postUsuario dataInvalida corpo
  | .putUsuario id corpo => IceClube.putUsuario dataInvalida id corpo
  | .login usuario senha => IceClube.login usuario senha

/-- Nothing but these requests changes the two tables. -/
def servidorDeContas (dataInvalida : String → Bool) :
    System ReqConta Empty String SqlContas.Res RespostaConta (Faulty Contas) :=
  autocommit SqlContas.sem Tx.rejeicao (ReqConta.rota dataInvalida) fun _ b => b

section Unicos

/-- The keys by which the routes look the rows up are unique, and a login finds one account. -/
structure Inequivocas (b : Contas) : Prop where
  usuarios : b.usuariosWeb.UniqueKey fun u => some (b.peso u.usuario)
  numeros : b.usuarios.UniqueKey fun u => u.numero.map b.peso
  login : ∀ usuario, (b.porUsuario usuario).length ≤ 1

/-- What a statement writes is in no other row. -/
def SqlContas.Livre (b : Contas) : SqlContas → Prop
  | .insertWeb linha =>
    b.usuariosWeb.Free (fun u => some (b.peso u.usuario)) (b.peso linha.usuario) none
  | .updateWeb linha id => (b.usuariosWeb.get id).isSome →
    b.usuariosWeb.Free (fun u => some (b.peso u.usuario)) (b.peso linha.usuario) (some id)
  | .insertUsuario linha => ∀ numero, linha.numero.map b.peso = some numero →
    b.usuarios.Free (fun u => u.numero.map b.peso) numero none
  | .updateUsuario linha id => (b.usuarios.get id).isSome →
    ∀ numero, linha.numero.map b.peso = some numero →
      b.usuarios.Free (fun u => u.numero.map b.peso) numero (some id)
  | _ => True

theorem inequivocas_iff {b : Contas} : Inequivocas b ↔
    (b.usuariosWeb.UniqueKey fun u => some (b.peso u.usuario)) ∧
      b.usuarios.UniqueKey fun u => u.numero.map b.peso := by
  constructor
  · intro unique
    exact ⟨unique.usuarios, unique.numeros⟩
  · rintro ⟨usuarios, numeros⟩
    exact ⟨usuarios, numeros, fun usuario => usuarios.length_le_one (b.peso usuario)⟩

theorem inequivocas_sem (q : SqlContas) (b : Contas) (unique : Inequivocas b) :
    Inequivocas (q.sem b).2 ↔ q.Livre b := by
  have whole : Inequivocas b := unique
  rw [inequivocas_iff] at unique ⊢
  obtain ⟨usuarios, numeros⟩ := unique
  cases q with
  | insertWeb linha =>
    have added := Table.uniqueKey_insert usuarios linha
    simp only [Option.some.injEq, forall_eq'] at added
    simp only [SqlContas.sem, SqlContas.Livre]
    exact (and_iff_left numeros).trans added
  | updateWeb linha id =>
    have changed := Table.uniqueKey_modify usuarios id fun _ => linha
    simp only [Option.some.injEq, forall_eq'] at changed
    simp only [SqlContas.sem, SqlContas.Livre, Option.isSome_iff_exists, forall_exists_index]
    exact (and_iff_left numeros).trans changed
  | insertUsuario linha =>
    have added := Table.uniqueKey_insert numeros linha
    simp only [SqlContas.sem, SqlContas.Livre]
    exact (and_iff_right usuarios).trans added
  | updateUsuario linha id =>
    have changed := Table.uniqueKey_modify numeros id fun _ => linha
    simp only [SqlContas.sem, SqlContas.Livre, Option.isSome_iff_exists, forall_exists_index]
    exact (and_iff_right usuarios).trans changed
  | _ => exact iff_of_true ⟨usuarios, numeros⟩ trivial

def SempreInequivocas (dataInvalida : String → Bool)
    (c : Config String SqlContas.Res RespostaConta (Faulty Contas))
    (passos : List (Action ReqConta Empty)) : Prop :=
  ∀ pre post, passos = pre ++ post →
    Inequivocas ((servidorDeContas dataInvalida).execute pre c).state.state

theorem sempreInequivocas_iff (dataInvalida : String → Bool)
    (c : Config String SqlContas.Res RespostaConta (Faulty Contas))
    (passos : List (Action ReqConta Empty)) :
    SempreInequivocas dataInvalida c passos ↔
      Inequivocas c.state.state ∧
        (servidorDeContas dataInvalida).Runs (fun c a => ∀ q, c.effect a = some q →
          q.Livre c.state.state) passos c := by
  have still : ∀ (change : Empty) b, Inequivocas b → Inequivocas b := fun change => change.elim
  simp only [SempreInequivocas, servidorDeContas]
  exact Autocommit.always_iff still inequivocas_sem

def doisCadastros : List (Action ReqConta Empty) :=
  [.arrive (.postWeb ⟨"ana", "1234", "vendas"⟩), .arrive (.postWeb ⟨"ana", "abcd", "admin"⟩),
    .step 0, .step 1, .step 0, .step 1, .step 0, .step 1]

theorem dois_cadastros : ¬ SempreInequivocas (fun _ => false) ⟨⟨{}, []⟩, []⟩ doisCadastros := by
  intro always
  have final := (always doisCadastros [] rfl).login "ana"
  revert final
  decide +kernel

end Unicos
end IceClube
