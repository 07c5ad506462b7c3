import JobDispatch.CoprBuild
import JobDispatch.Error
import JobDispatch.Log

/-! Programs over the collaborators. A program is what a job does, as a tree: it logs, asks, and
goes on with each possible answer. What it does is fixed before any collaborator is chosen. -/

namespace JobDispatch

inductive ForgeCall
  | packageConfig (project : Project) (ref : String)
  | taggedCommit (project : Project) (tag : String)
  | comment (project : Project) (target : CommentTarget) (body : String)
  deriving DecidableEq

def ForgeCall.Result : ForgeCall → Type
  | .packageConfig .. => PackageConfig
  | .taggedCommit .. => String
  | .comment .. => Unit

inductive PackagingCall
  | sourceUrl (package : PackageConfig) (downstream : Project)
  | carryBack (package : PackageConfig) (upstream : Project)
      (distGitBranch upstreamBranch : String)
  | checkPullRequest (package : PackageConfig) (upstream : Project) (number : UInt64)
      (distGitBranch : String)
  | proposeRelease (package : PackageConfig) (upstream : Project) (distGitBranch version : String)
  | build (package : PackageConfig) (project : Project) (request : CoprBuildRequest)

def PackagingCall.Result : PackagingCall → Type
  | .sourceUrl .. => Option String
  | .carryBack .. => Unit
  | .checkPullRequest .. => Unit
  | .proposeRelease .. => Unit
  | .build .. => CoprBuild

/-- What handlers may do beside using the collaborators: acts of their own, each with a type of
answers. -/
structure Extras where
  Act : Type
  Answer : Act → Type

def Extras.none : Extras := ⟨Empty, fun _ => Unit⟩

/-- A program with a result in `α`. To reach a forge is a step of its own, which tells the side the
forge says it serves, and which may connect it; a call to the forge on a side comes after that. -/
inductive Program (X : Extras) (α : Type) : Type
  | done (a : α)
  | log (r : Log.Record) (next : Program X α)
  | reach (side : Side) (next : Except ForgeError Side → Program X α)
  | askForge (side : Side) (call : ForgeCall)
      (next : Except ForgeError call.Result → Program X α)
  | askPackaging (call : PackagingCall)
      (next : Except PackagingError call.Result → Program X α)
  | act (a : X.Act) (next : X.Answer a → Program X α)

namespace Program

variable {X : Extras} {α β γ : Type}

def bind (p : Program X α) (f : α → Program X β) : Program X β :=
  match p with
  | .done a => f a
  | .log r next => .log r (bind next f)
  | .reach side next => .reach side fun x => bind (next x) f
  | .askForge side call next => .askForge side call fun x => bind (next x) f
  | .askPackaging call next => .askPackaging call fun x => bind (next x) f
  | .act a next => .act a fun x => bind (next x) f

instance : Monad (Program X) where
  pure := .done
  bind := bind

@[simp] theorem pure_eq (a : α) : (pure a : Program X α) = .done a := rfl

@[simp] theorem bind_eq (p : Program X α) (f : α → Program X β) : p >>= f = bind p f := rfl

@[simp] theorem done_bind (a : α) (f : α → Program X β) : bind (.done a) f = f a := rfl

@[simp] theorem log_bind (r : Log.Record) (next : Program X α) (f : α → Program X β) :
    bind (.log r next) f = .log r (bind next f) := rfl

@[simp] theorem reach_bind (side : Side) (next : Except ForgeError Side → Program X α)
    (f : α → Program X β) : bind (.reach side next) f = .reach side fun x => bind (next x) f := rfl

@[simp] theorem askForge_bind (side : Side) (call : ForgeCall)
    (next : Except ForgeError call.Result → Program X α) (f : α → Program X β) :
    bind (.askForge side call next) f = .askForge side call fun x => bind (next x) f := rfl

@[simp] theorem askPackaging_bind (call : PackagingCall)
    (next : Except PackagingError call.Result → Program X α) (f : α → Program X β) :
    bind (.askPackaging call next) f = .askPackaging call fun x => bind (next x) f := rfl

@[simp] theorem act_bind (a : X.Act) (next : X.Answer a → Program X α) (f : α → Program X β) :
    bind (.act a next) f = .act a fun x => bind (next x) f := rfl

@[simp] theorem bind_done (p : Program X α) : bind p .done = p := by
  induction p with
  | done a => rfl
  | log r next ih => simp [ih]
  | reach side next ih => simp [ih]
  | askForge side call next ih => simp [ih]
  | askPackaging call next ih => simp [ih]
  | act a next ih => simp [ih]

theorem bind_assoc (p : Program X α) (f : α → Program X β) (g : β → Program X γ) :
    bind (bind p f) g = bind p fun a => bind (f a) g := by
  induction p with
  | done a => rfl
  | log r next ih => simp [ih]
  | reach side next ih => simp [ih]
  | askForge side call next ih => simp [ih]
  | askPackaging call next ih => simp [ih]
  | act a next ih => simp [ih]

instance : LawfulMonad (Program X) :=
  LawfulMonad.mk' (Program X) (fun p => bind_done p) (fun _ _ => rfl) bind_assoc

def write : List Log.Record → Program X Unit
  | [] => .done ()
  | r :: rs => .log r (write rs)

def ofLogged (x : Logged α) : Program X α :=
  bind (write x.log) fun _ => .done x.value

end Program

abbrev Job (X : Extras) := ExceptT JobError (Program X)

namespace Job

variable {X : Extras} {α : Type}

def ofProgram (p : Program X α) : Job X α :=
  ExceptT.mk (p.bind fun a => .done (.ok a))

def fail (e : JobError) : Job X α :=
  ExceptT.mk (.done (.error e))

def log (r : Log.Record) : Job X Unit :=
  ExceptT.mk (.log r (.done (.ok ())))

def tell (x : Logged α) : Job X α :=
  ofProgram (.ofLogged x)

def reach (side : Side) : Job X Side :=
  ExceptT.mk (.reach side fun x => .done (x.mapError .forge))

def askForge (side : Side) (call : ForgeCall) : Job X call.Result :=
  ExceptT.mk (.askForge side call fun x => .done (x.mapError .forge))

def askPackaging (call : PackagingCall) : Job X call.Result :=
  ExceptT.mk (.askPackaging call fun x => .done (x.mapError .packaging))

def act (a : X.Act) : Job X (X.Answer a) :=
  ExceptT.mk (.act a fun x => .done (.ok x))

end Job

end JobDispatch
