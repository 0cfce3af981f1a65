import CronSweep.Calendar
import CronSweep.Instant.Basic
import CronSweep.Text.Basic

namespace CronSweep.Instant

def padded (width n : Nat) : List Char :=
  List.replicate (width - (Nat.toDigits 10 n).length) '0' ++ Nat.toDigits 10 n

/-- Four digits for the years 0 to 9999, a sign in front of them for all others. -/
def yearText (year : Int) : List Char :=
  if 0 ≤ year ∧ year ≤ 9999 then padded 4 year.toNat
  else (if year < 0 then '-' else '+') :: padded 4 year.natAbs

def dateText (d : Calendar.Date) : List Char :=
  yearText d.year ++ '-' :: padded 2 d.month ++ '-' :: padded 2 d.day

/-- The second of a leap second is written 60. -/
def clockText (t : Instant) : List Char :=
  let s := t.timeOfDay.toNat
  padded 2 (s / 3600) ++ ':' :: padded 2 (s / 60 % 60) ++ ':' ::
    padded 2 (s % 60 + t.nano / 1_000_000_000)

inductive Precision
  | seconds
  | micros
  /-- The fewest of 0, 3, 6 and 9 digits that show it exactly. -/
  | exactly
deriving DecidableEq

def fractionText (precision : Precision) (t : Instant) : List Char :=
  let n := t.nano % 1_000_000_000
  match precision with
  | .seconds => []
  | .micros => '.' :: padded 6 (n / 1000)
  | .exactly =>
      if n = 0 then []
      else if n % 1_000_000 = 0 then '.' :: padded 3 (n / 1_000_000)
      else if n % 1000 = 0 then '.' :: padded 6 (n / 1000)
      else '.' :: padded 9 n

def chars (precision : Precision) (t : Instant) : List Char :=
  dateText (Calendar.Date.ofDayNumber (t.second / 86400)) ++ 'T' ::
    (clockText t ++ fractionText precision t ++ ['Z'])

def text (t : Instant) (precision : Precision) : String := String.ofList (t.chars precision)

def readNumber (limit : Nat) (cs : List Char) : Option (Nat × List Char) :=
  let ds := (cs.take limit).takeWhile Char.isDigit
  if ds.isEmpty then none else some (Text.decimalValue ds, cs.drop ds.length)

/-- A number with a sign may have any number of digits, one without has four at most. -/
def readYear (cs : List Char) : Option (Int × List Char) :=
  match Text.trimStart cs with
  | '-' :: cs => (readNumber cs.length cs).map fun r => (-(r.1 : Int), r.2)
  | '+' :: cs => (readNumber cs.length cs).map fun r => ((r.1 : Int), r.2)
  | cs => (readNumber 4 cs).map fun r => ((r.1 : Int), r.2)

/-- The mark between two parts, blanks before it allowed. -/
def readMark (mark : Char) (cs : List Char) : Option (List Char) :=
  match Text.trimStart cs with
  | c :: cs => if c = mark then some cs else none
  | [] => none

def readPair (cs : List Char) : Option (Nat × List Char) := readNumber 2 (Text.trimStart cs)

def readDate (cs : List Char) : Option (Calendar.Date × List Char) := do
  let (year, cs) ← readYear cs
  let (month, cs) ← readPair (← readMark '-' cs)
  let (day, cs) ← readPair (← readMark '-' cs)
  if Calendar.Date.IsValid ⟨year, month, day⟩ then some (⟨year, month, day⟩, cs) else none

/-- The part of a second in nanoseconds; digits after the ninth are skipped. -/
def readFraction : List Char → Option (Nat × List Char)
  | '.' :: cs => do
      let (n, rest) ← readNumber 9 cs
      return (n * Nat.pow 10 (9 - (cs.length - rest.length)), rest.dropWhile Char.isDigit)
  | cs => some (0, cs)

/-- The seconds and the nanoseconds since midnight. Second 60 is a leap second: it prolongs
second 59. -/
def readClock (cs : List Char) : Option ((Nat × Nat) × List Char) := do
  let (hour, cs) ← readPair cs
  let (minute, cs) ← readPair (← readMark ':' cs)
  let (second, cs) ← readPair (← readMark ':' cs)
  let (nano, cs) ← readFraction cs
  if hour < 24 ∧ minute < 60 ∧ second ≤ 60 then
    let start := hour * 3600 + minute * 60
    if second = 60 then some ((start + 59, 1_000_000_000 + nano), cs)
    else some ((start + second, nano), cs)
  else none

def digit? (c : Char) : Option Nat := if c.isDigit then some (Text.digitValue c) else none

def readTwoDigits : List Char → Option (Nat × List Char)
  | a :: b :: cs => do return (10 * (← digit? a) + (← digit? b), cs)
  | _ => none

def readOffset (cs : List Char) : Option (Int × List Char) :=
  match Text.trimStart cs with
  | 'Z' :: cs | 'z' :: cs => some (0, cs)
  | u :: t :: c :: cs =>
      if u.toLower = 'u' ∧ t.toLower = 't' ∧ c.toLower = 'c' then some (0, cs)
      else do
        let sign : Int ←
          if u = '+' then some 1 else if u = '-' ∨ u = '\u2212' then some (-1) else none
        let (hours, rest) ← readTwoDigits (t :: c :: cs)
        let (minutes, rest) ← readTwoDigits
          (rest.dropWhile fun c => c == ':' || Text.isBlank c)
        if hours < 24 ∧ minutes < 60 then some (sign * (hours * 3600 + minutes * 60 : Nat), rest)
        else none
  | _ => none

def read (cs : List Char) : Option Instant := do
  let (date, cs) ← readDate cs
  let (mark, cs) ← match cs with
    | c :: cs => some (c, cs)
    | [] => none
  guard (mark = 'T' ∨ mark = 't' ∨ mark = ' ')
  let ((second, nano), cs) ← readClock cs
  let (offset, cs) ← readOffset cs
  guard (Text.trimStart cs = [])
  let midnight := date.dayNumber * 86400
  let _ ← ofParts? (midnight + second) nano
  ofParts? (midnight + second - offset) nano

def ofText? (s : String) : Option Instant := read s.toList

end CronSweep.Instant
