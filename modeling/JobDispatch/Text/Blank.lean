/-! White space by the Unicode property White_Space, trimming, and splitting at a character. -/

namespace JobDispatch.Text

def isBlank (c : Char) : Bool :=
  let n := c.toNat
  (0x9 ≤ n && n ≤ 0xd) || n == 0x20 || n == 0x85 || n == 0xa0 || n == 0x1680 ||
    (0x2000 ≤ n && n ≤ 0x200a) || n == 0x2028 || n == 0x2029 || n == 0x202f || n == 0x205f ||
    n == 0x3000

def dropEnd (p : Char → Bool) (cs : List Char) : List Char :=
  (cs.reverse.dropWhile p).reverse

def trim (cs : List Char) : List Char :=
  dropEnd isBlank (cs.dropWhile isBlank)

def trimmed (s : String) : String :=
  String.ofList (trim s.toList)

def splitOnce (sep : Char) : List Char → Option (List Char × List Char)
  | [] => none
  | c :: cs =>
    if c = sep then some ([], cs) else (splitOnce sep cs).map fun p => (c :: p.1, p.2)

def after? (word : List Char) : List Char → Option (List Char)
  | [] => if word = [] then some [] else none
  | c :: cs =>
    if word.isPrefixOf (c :: cs) then some ((c :: cs).drop word.length) else after? word cs

def dropSuffix (word cs : List Char) : List Char :=
  if word.isSuffixOf cs then cs.take (cs.length - word.length) else cs

section Pieces

variable {α : Type} [DecidableEq α]

def consPiece (sep x : α) : List (List α) → List (List α)
  | [] => if x = sep then [[], []] else [[x]]
  | p :: ps => if x = sep then [] :: p :: ps else (x :: p) :: ps

def pieces (sep : α) (xs : List α) : List (List α) :=
  xs.foldr (consPiece sep) [[]]

@[simp] theorem pieces_nil (sep : α) : pieces sep [] = [[]] := rfl

@[simp] theorem pieces_cons (sep x : α) (xs : List α) :
    pieces sep (x :: xs) = consPiece sep x (pieces sep xs) := rfl

theorem pieces_ne_nil (sep : α) (xs : List α) : pieces sep xs ≠ [] := by
  cases xs with
  | nil => simp
  | cons x xs =>
    rw [pieces_cons]
    cases pieces sep xs <;> simp only [consPiece] <;> split <;> simp

def dropCarriage (cr : α) (xs : List α) : List α :=
  if xs.getLast? = some cr then xs.dropLast else xs

/-- The lines of a text. A line ends at `lf`, with one `cr` before it; the last one may be open,
and then keeps its `cr`. -/
def lines (lf cr : α) (xs : List α) : List (List α) :=
  let ps := pieces lf xs
  let closed := ps.dropLast.map (dropCarriage cr)
  match ps.getLast? with
  | some (x :: rest) => closed ++ [x :: rest]
  | _ => closed

end Pieces

end JobDispatch.Text
