import JobDispatch.Text.Blank
import JobDispatch.Text.Decimal
import JobDispatch.Text.Pattern.Automaton
import JobDispatch.Text.Pattern.Reader

namespace JobDispatch.Log

/-- What the text of a field may be. The fields of spans are texts, and no text is a number or a
truth value. -/
inductive FieldValue
  | noText
  | pattern (written : List Char) (p : Text.Pattern)
  deriving DecidableEq

namespace FieldValue

def ofChars? (cs : List Char) : Option FieldValue :=
  if Text.isNumeral cs || cs = "true".toList || cs = "false".toList then some .noText
  else (Text.Pattern.ofChars? cs).map (.pattern cs)

def accepts (text : String) : FieldValue → Bool
  | .noText => false
  | .pattern _ p => p.accepts text.toList

end FieldValue

structure FieldTest where
  name : List Char
  value : Option FieldValue := none
  deriving DecidableEq

namespace FieldTest

def ofChars? (cs : List Char) : Option FieldTest :=
  match Text.pieces '=' cs with
  | name :: value :: _ => (FieldValue.ofChars? value).map fun value => ⟨name, some value⟩
  | _ => if cs.isEmpty then none else some ⟨cs, none⟩

def passes (t : FieldTest) (fields : List (String × String)) : Bool :=
  fields.any fun f => f.1 = String.ofList t.name && t.value.all (·.accepts f.2)

end FieldTest

end JobDispatch.Log
