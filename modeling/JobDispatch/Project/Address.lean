import JobDispatch.Event
import JobDispatch.Text.Blank

/-! Addresses of projects: web addresses, clone addresses with a `.git` ending, and the short form
`user@host:owner/repo`. The owner and the repository are the last two parts of the path. -/

namespace JobDispatch.Address

open Text

def core (cs : List Char) : List Char :=
  dropSuffix ['.', 'g', 'i', 't'] (dropEnd (· == '/') (trim cs))

/-- What follows the host. Without a scheme the host ends at the first colon, if there is one. -/
def path? (cs : List Char) : Option (List Char) :=
  match after? [':', '/', '/'] cs with
  | some rest => (splitOnce '/' rest).map (·.2)
  | none => some ((splitOnce ':' cs).elim cs (·.2))

def segments (cs : List Char) : List (List Char) :=
  (pieces '/' cs).filter (!·.isEmpty)

def ownerAndRepo? (address : String) : Option (String × String) := do
  let path ← path? (core address.toList)
  match (segments path).reverse with
  | repo :: owner :: _ =>
    let repo ← nonempty? (String.ofList repo)
    let owner ← nonempty? (String.ofList owner)
    return (owner, repo)
  | _ => none

end JobDispatch.Address
