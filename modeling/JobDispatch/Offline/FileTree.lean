import JobDispatch.Files
import JobDispatch.Text.Blank

namespace JobDispatch

inductive FileTree
  | file (bytes : List UInt8)
  | directory (entries : List (String × FileTree))

instance : Inhabited FileTree := ⟨.directory []⟩

namespace FileTree

def isDirectory : FileTree → Bool
  | .file _ => false
  | .directory _ => true

def maxName : Nat := 255

def maxPath : Nat := 4095

/-- Where a walk stands: the node, with the directories it came through. The top has itself as its
parent. -/
structure Position where
  node : FileTree
  parents : List FileTree := []

def Position.up (p : Position) : Position :=
  match p.parents with
  | [] => p
  | parent :: parents => ⟨parent, parents⟩

def Position.step (p : Position) (name : String) : Except FileError Position :=
  match p.node with
  | .file _ => .error .notDirectory
  | .directory entries =>
    if name.isEmpty || name = "." then .ok p
    else if name = ".." then .ok p.up
    else if maxName < name.utf8ByteSize then .error .nameTooLong
    else
      match entries.lookup name with
      | some node => .ok ⟨node, p.node :: p.parents⟩
      | none => .error .missing

def Position.walk (p : Position) : List String → Except FileError Position
  | [] => .ok p
  | name :: names => do (← p.step name).walk names

def components (path : String) : List String :=
  (Text.pieces '/' path.toList).map String.ofList

def resolve (top : FileTree) (cwd path : String) : Except FileError FileTree := do
  if path.toList.contains '\x00' then .error .nulInName
  else if path.isEmpty then .error .missing
  else if maxPath < path.utf8ByteSize then .error .nameTooLong
  else
    let p ← Position.walk ⟨top, []⟩ (components (joinPath cwd path))
    return p.node

def read (top : FileTree) (cwd path : String) : Except FileError (List UInt8) := do
  match ← top.resolve cwd path with
  | .file bytes => return bytes
  | .directory _ => .error .directory

def files {m : Type → Type} [Pure m] (top : FileTree) (cwd : String) : Files m where
  isDirectory path := pure <|
    match top.resolve cwd path with
    | .ok node => node.isDirectory
    | .error _ => false
  read path := pure (top.read cwd path)

def graft (node : FileTree) : List String → FileTree → FileTree
  | [], _ => node
  | name :: names, tree =>
    let entries := match tree with
      | .directory entries => entries
      | .file _ => []
    let inner := (entries.lookup name).getD (.directory [])
    .directory ((name, graft node names inner) :: entries.filter (·.1 != name))

end FileTree

end JobDispatch
