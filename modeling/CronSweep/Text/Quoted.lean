import CronSweep.Text.Printable

namespace CronSweep.Text

def hexDigits (n : Nat) : List Char := Nat.toDigits 16 n

/-- A character inside a quoted text: the five short escapes first, then the code point in braces
for what would not show by itself. -/
def quoteChar (c : Char) : List Char :=
  if c = '\x00' then ['\\', '0']
  else if c = '\t' then ['\\', 't']
  else if c = '\r' then ['\\', 'r']
  else if c = '\n' then ['\\', 'n']
  else if c = '\\' || c = '"' then ['\\', c]
  else if isVisible c then [c]
  else ['\\', 'u', '\x7b'] ++ hexDigits c.toNat ++ ['\x7d']

def quoted (s : String) : String :=
  String.ofList ('"' :: s.toList.flatMap quoteChar ++ ['"'])

end CronSweep.Text
