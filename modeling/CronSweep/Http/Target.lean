namespace CronSweep.Http

structure Target where
  path : List Char
  query : List Char

inductive TargetError
  | tooLong
  | badCharacter
  | malformed
deriving DecidableEq

def TargetError.message : TargetError → String
  | .tooLong => "uri too long"
  | .badCharacter => "invalid uri character"
  | .malformed => "invalid format"

namespace Target

/-- Characters that a path may hold. Quotes and curly brackets belong escaped, but are let
through. -/
def isPathChar (c : Char) : Bool :=
  let n := c.toNat
  n == 0x21 || n == 0x22 || (0x24 ≤ n && n ≤ 0x3b) || n == 0x3d || (0x40 ≤ n && n ≤ 0x5f) ||
    (0x61 ≤ n && n ≤ 0x7e)

def isQueryChar (c : Char) : Bool :=
  let n := c.toNat
  n == 0x21 || (0x24 ≤ n && n ≤ 0x3b) || n == 0x3d || (0x3f ≤ n && n ≤ 0x7e)

/-- A target starts with its path. A question mark ends the path; what follows a hash mark is not
part of a request. -/
def ofPath? (isExtra : Char → Bool) (cs : List Char) : Except TargetError Target :=
  let cs := cs.takeWhile (· != '#')
  let path := cs.takeWhile (· != '?')
  let query := (cs.dropWhile (· != '?')).drop 1
  if path.all (fun c => isPathChar c || isExtra c) &&
      query.all (fun c => isQueryChar c || isExtra c) then
    .ok ⟨path, query⟩
  else .error .badCharacter

def longest : Nat := 65534

def toSend? (path : String) : Except TargetError Target :=
  if longest ≤ path.utf8ByteSize then .error .tooLong
  else ofPath? (fun _ => false) path.toList

def text (t : Target) : String :=
  String.ofList (if t.query.isEmpty then t.path else t.path ++ '?' :: t.query)

def isSchemeChar (c : Char) : Bool := c.isAlphanum || c == '+' || c == '-' || c == '.' || c == '~'

def longestScheme : Nat := 64

def afterScheme? (cs : List Char) : Except TargetError (Option (List Char)) :=
  match cs.dropWhile isSchemeChar with
  | ':' :: '/' :: '/' :: rest =>
      if longestScheme < (cs.takeWhile isSchemeChar).length then .error .malformed
      else .ok (some rest)
  | _ => .ok none

def isAuthorityChar (c : Char) : Bool :=
  c.isAlphanum || "!$&'()*+,-.:;=@[]_~%".toList.contains c

def endsAuthority (c : Char) : Bool := c == '/' || c == '?' || c == '#'

/-- How far an authority has been read. A bracket or an at sign closes what came before it, so the
colons and percent signs are those of the last part. -/
structure AuthorityScan where
  colons : Nat
  percent : Bool
  opened : Bool
  closed : Bool

def AuthorityScan.next? (s : AuthorityScan) (c : Char) : Option AuthorityScan :=
  if c = ':' then if s.colons < 8 then some { s with colons := s.colons + 1 } else none
  else if c = '[' then if s.percent || s.opened then none else some { s with opened := true }
  else if c = ']' then
    if !s.opened || s.closed then none
    else some { s with colons := 0, percent := false, closed := true }
  else if c = '@' then some { s with colons := 0, percent := false }
  else if c = '%' then some { s with percent := true }
  else some s

/-- A host, with the user before it or not and the port after it or not. Only the user may have
percent signs, and only brackets may hold several colons. -/
def isAuthority (cs : List Char) : Bool :=
  match cs.foldlM AuthorityScan.next? ⟨0, false, false, false⟩ with
  | some s =>
      cs.all isAuthorityChar && s.opened == s.closed && s.colons ≤ 1 && !s.percent &&
        cs.getLast? != some '@'
  | none => false

def isBeyondAscii (c : Char) : Bool := 0x80 ≤ c.toNat

def ofHost? (cs : List Char) : Except TargetError Target := do
  match ← afterScheme? cs with
  | none => if isAuthority cs && !cs.any endsAuthority then .ok ⟨[], []⟩ else .error .malformed
  | some rest =>
      let host := rest.takeWhile (!endsAuthority ·)
      if host.isEmpty || !isAuthority host then .error .malformed
      else
        let t ← ofPath? isBeyondAscii (rest.dropWhile (!endsAuthority ·))
        return { t with path := if t.path.isEmpty then ['/'] else t.path }

def ofText? (s : String) : Except TargetError Target :=
  if longest < s.utf8ByteSize then .error .tooLong
  else
    match s.toList with
    | [] => .error .malformed
    | ['*'] => .ok ⟨['*'], []⟩
    | '/' :: cs => ofPath? isBeyondAscii ('/' :: cs)
    | cs => ofHost? cs

end Target

end CronSweep.Http
