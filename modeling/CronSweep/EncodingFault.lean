import CronSweep.Text.Basic

namespace CronSweep

/-- Why a value cannot be written, and where in the text. Lines are counted from one; line zero is
no place at all. -/
structure EncodingFault where
  message : String
  line : Nat
  column : Nat
deriving DecidableEq

namespace EncodingFault

def cutLast? (mark : List Char) : List Char → Option (List Char × List Char)
  | [] => none
  | c :: cs =>
      match cutLast? mark cs with
      | some (before, after) => some (c :: before, after)
      | none =>
          if mark.isPrefixOf (c :: cs) then some ([], (c :: cs).drop mark.length) else none

def lineMark : List Char := " at line ".toList

def columnMark : List Char := " column ".toList

def greatestPosition : Nat := 18_446_744_073_709_551_615

def position? (cs : List Char) : Option (Nat × Nat) := do
  let rest := cs.dropWhile Char.isDigit
  guard (columnMark.isPrefixOf rest)
  let line ← Text.number? greatestPosition (cs.takeWhile Char.isDigit)
  let column ← Text.number? greatestPosition (rest.drop columnMark.length)
  return (line, column)

/-- A place at the end of a text is not part of the message. -/
def ofText (s : String) : EncodingFault :=
  match cutLast? lineMark s.toList with
  | some (before, after) =>
      (position? after).elim ⟨s, 0, 0⟩ fun p => ⟨String.ofList before, p.1, p.2⟩
  | none => ⟨s, 0, 0⟩

def text (f : EncodingFault) : String :=
  if f.line = 0 then f.message
  else f.message ++ " at line " ++ toString f.line ++ " column " ++ toString f.column

end EncodingFault

end CronSweep
