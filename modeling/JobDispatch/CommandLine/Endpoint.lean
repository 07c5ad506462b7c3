/-! Which addresses a trace collector may have: a host, maybe with a number after a colon, alone or
in an address with a scheme and a path. Only the form is checked here. -/

namespace JobDispatch.CommandLine.Endpoint

def isAlphanumeric (c : Char) : Bool :=
  ('a' ≤ c && c ≤ 'z') || ('A' ≤ c && c ≤ 'Z') || ('0' ≤ c && c ≤ '9')

def inScheme (c : Char) : Bool :=
  isAlphanumeric c || "+-.~".toList.contains c

def inAuthority (c : Char) : Bool :=
  isAlphanumeric c || "!$&'()*+,-.:;=@[]_~%".toList.contains c

def endsAuthority (c : Char) : Bool :=
  c = '/' || c = '?' || c = '#'

def inPath (c : Char) : Bool :=
  let n := c.toNat
  n = 0x21 || (0x24 ≤ n && n ≤ 0x3b) || n = 0x3d || (0x40 ≤ n && n ≤ 0x5f) ||
    (0x61 ≤ n && n ≤ 0x7e) || n = 0x22 || 0x80 ≤ n

def inQuery (c : Char) : Bool :=
  let n := c.toNat
  n = 0x21 || (0x24 ≤ n && n ≤ 0x3b) || n = 0x3d || (0x3f ≤ n && n ≤ 0x7e) || 0x80 ≤ n

structure Seen where
  colons : Nat := 0
  opened : Bool := false
  closed : Bool := false
  percent : Bool := false
  userLast : Bool := false

def Seen.next (s : Seen) (c : Char) : Option Seen :=
  let s := { s with userLast := false }
  if c = ':' then if 8 ≤ s.colons then none else some { s with colons := s.colons + 1 }
  else if c = '[' then if s.percent || s.opened then none else some { s with opened := true }
  else if c = ']' then
    if !s.opened || s.closed then none
    else some { s with closed := true, colons := 0, percent := false }
  else if c = '@' then some { s with colons := 0, percent := false, userLast := true }
  else if c = '%' then some { s with percent := true }
  else if inAuthority c then some s
  else none

def Seen.isHost (s : Seen) : Bool :=
  s.opened == s.closed && s.colons ≤ 1 && !s.userLast && !s.percent

def isAuthority (cs : List Char) : Bool :=
  (cs.foldlM Seen.next {}).any Seen.isHost

def isQuery (cs : List Char) : Bool :=
  (cs.takeWhile (· != '#')).all inQuery

def isPath (cs : List Char) : Bool :=
  let path := cs.takeWhile fun c => c != '?' && c != '#'
  path.all inPath &&
    match cs.drop path.length with
    | '?' :: query => isQuery query
    | _ => true

def afterScheme? (cs : List Char) : Option (List Char) :=
  let scheme := cs.takeWhile inScheme
  match cs.drop scheme.length with
  | ':' :: '/' :: '/' :: rest => if scheme.length ≤ 64 then some rest else none
  | _ => none

def isValid (endpoint : String) : Bool :=
  let cs := endpoint.toList
  if cs.isEmpty || 65534 < endpoint.utf8ByteSize then false
  else if cs = ['*'] then true
  else if cs.head? = some '/' then isPath cs
  else
    match afterScheme? cs with
    | none => isAuthority cs
    | some rest =>
      let host := rest.takeWhile fun c => !endsAuthority c
      !host.isEmpty && isAuthority host && isPath (rest.drop host.length)

end JobDispatch.CommandLine.Endpoint
