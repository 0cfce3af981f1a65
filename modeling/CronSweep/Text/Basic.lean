namespace CronSweep.Text

/-- The code points with the Unicode property White_Space. -/
def isBlank (c : Char) : Bool :=
  let n := c.toNat
  (9 ≤ n && n ≤ 13) || n == 0x20 || n == 0x85 || n == 0xa0 || n == 0x1680 ||
    (0x2000 ≤ n && n ≤ 0x200a) || n == 0x2028 || n == 0x2029 || n == 0x202f || n == 0x205f ||
    n == 0x3000

def trimStart (cs : List Char) : List Char := cs.dropWhile isBlank

def trim (cs : List Char) : List Char := (trimStart (trimStart cs).reverse).reverse

def digitValue (c : Char) : Nat := c.toNat - '0'.toNat

def decimalValue (ds : List Char) : Nat := ds.foldl (fun n d => 10 * n + digitValue d) 0

def number? (limit : Nat) (ds : List Char) : Option Nat :=
  let n := decimalValue ds
  if !ds.isEmpty && ds.all Char.isDigit && n ≤ limit then some n else none

end CronSweep.Text
