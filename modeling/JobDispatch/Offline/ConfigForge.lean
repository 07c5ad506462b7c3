import JobDispatch.Files
import JobDispatch.Run

/-! A forge that is a directory of package configurations. The configuration of a project is one
file for all refs, tags are unknown, and comments are logged. -/

namespace JobDispatch

open Log.Record Text

def CommentTarget.inspect : CommentTarget → String
  | .commit sha => "Commit(CommitSha(" ++ quoted sha ++ "))"
  | .pullRequest number => "PullRequest(PullRequestNumber(" ++ toString number ++ "))"

structure ConfigForge where
  kind : Side
  root : String

namespace ConfigForge

variable {m : Type → Type} [Monad m]

def configPath (f : ConfigForge) (p : Project) : String :=
  joinPath (joinPath f.root p.owner) (p.repo ++ ".json")

def configOf (p : Project) (ref path : String) : Except FileError String →
    Except ForgeError PackageConfig
  | .ok text =>
    (PackageConfig.read.ofText text).mapError fun e => .invalidConfig p.path e.message
  | .error .missing => .error (.configNotFound p.path ref)
  | .error e => .error (.request ("failed to read '" ++ path ++ "': " ++ e.message))

def commentNote (side : Side) (p : Project) (target : CommentTarget) (body : String) :
    Log.Record :=
  info .offline "Comment recorded"
    [("forge", side.name), ("project", p.path), ("target", target.inspect), ("body", body)]

def ask (files : Files m) (f : ConfigForge) :
    (call : ForgeCall) → m (Logged (Except ForgeError call.Result))
  | .packageConfig p ref => do
    let path := f.configPath p
    return ⟨configOf p ref path (← files.readText path), []⟩
  | .taggedCommit p tag => return ⟨.error (.tagNotFound p.path tag), []⟩
  | .comment p target body => return ⟨.ok (), [commentNote f.kind p target body]⟩

def forge (files : Files m) (f : ConfigForge) : Forge m :=
  ⟨f.kind, f.ask files⟩

def connect (files : Files m) (kind : Side) (root : String) :
    m (Logged (Except ForgeError ConfigForge)) := do
  if ← files.isDirectory root then
    return ⟨.ok ⟨kind, root⟩,
      [debug .offline "Local forge opened" [("forge", kind.name), ("root", root)]]⟩
  else
    return ⟨.error (.connection kind ("'" ++ root ++ "' is not a directory")), []⟩

end ConfigForge

end JobDispatch
