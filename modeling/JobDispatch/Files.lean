namespace JobDispatch

inductive FileError
  | missing
  | notDirectory
  | directory
  | nameTooLong
  | nulInName
  | notUtf8
  | other (message : String)
  deriving DecidableEq

def FileError.message : FileError → String
  | .missing => "No such file or directory (os error 2)"
  | .notDirectory => "Not a directory (os error 20)"
  | .directory => "Is a directory (os error 21)"
  | .nameTooLong => "File name too long (os error 36)"
  | .nulInName => "file name contained an unexpected NUL byte"
  | .notUtf8 => "stream did not contain valid UTF-8"
  | .other message => message

structure Files (m : Type → Type) where
  isDirectory : String → m Bool
  read : String → m (Except FileError (List UInt8))

variable {m : Type → Type}

def decodeUtf8 (bytes : List UInt8) : Except FileError String :=
  match String.fromUTF8? ⟨bytes.toArray⟩ with
  | some s => .ok s
  | none => .error .notUtf8

def Files.readText [Monad m] (files : Files m) (path : String) : m (Except FileError String) := do
  match ← files.read path with
  | .ok bytes => return decodeUtf8 bytes
  | .error e => return .error e

def Files.lift {n : Type → Type} [MonadLift m n] (files : Files m) : Files n where
  isDirectory path := liftM (files.isDirectory path)
  read path := liftM (files.read path)

/-- Joins a path to a directory. An absolute path stands alone. -/
def joinPath (directory path : String) : String :=
  if path.toList.head? = some '/' then path
  else if directory.isEmpty || directory.toList.getLast? = some '/' then directory ++ path
  else directory ++ "/" ++ path

end JobDispatch
