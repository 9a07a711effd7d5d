import Accounts.Text.Blank
import Accounts.Time.Timestamp
/-! A lenient reading of RFC 3339: single digits, blanks between the parts, any fraction, and
offsets spelled in several ways are accepted too. -/
namespace Accounts.Time.Lenient

def digitOf? (c : Char) : Option Nat := if c.isDigit then some (c.toNat - '0'.toNat) else none

/-- As many digits as there are, but at most `width`; there has to be one. -/
def digits? (width : Option Nat) (cs : List Char) : Option (Nat × Nat × List Char) :=
  let ds := cs.takeWhile Char.isDigit
  let ds := match width with
    | some w => ds.take w
    | none => ds
  if ds.isEmpty then none
  else some (ds.foldl (fun n c => n * 10 + (c.toNat - '0'.toNat)) 0, ds.length, cs.drop ds.length)

/-- Blanks and then a number of one or two digits between the bounds. -/
def pair? (low high : Nat) (cs : List Char) : Option (Nat × List Char) := do
  let (n, _, rest) ← digits? (some 2) (dropBlanks cs)
  if low ≤ n && n ≤ high then some (n, rest) else none

/-- Four digits at most, or a sign and any number of digits. -/
def year? (cs : List Char) : Option (Int × List Char) :=
  match dropBlanks cs with
  | '-' :: rest => (digits? none rest).map fun (n, _, rest) => (-(n : Int), rest)
  | '+' :: rest => (digits? none rest).map fun (n, _, rest) => ((n : Int), rest)
  | rest => (digits? (some 4) rest).map fun (n, _, rest) => ((n : Int), rest)

/-- Blanks and then this character. -/
def literal? (c : Char) (cs : List Char) : Option (List Char) :=
  match dropBlanks cs with
  | d :: rest => if d = c then some rest else none
  | [] => none

def date? (cs : List Char) : Option (Date × List Char) := do
  let (year, cs) ← year? cs
  let (month, cs) ← pair? 1 12 (← literal? '-' cs)
  let (day, cs) ← pair? 1 31 (← literal? '-' cs)
  let d : Date := ⟨year, month, day⟩
  if d.isValid then some (d, cs) else none

/-- A point and digits, of which the first nine count. -/
def fraction? : List Char → Option (Nat × List Char)
  | '.' :: cs => do
    let (n, width, rest) ← digits? (some 9) cs
    return (n * Nat.pow 10 (9 - width), rest.dropWhile Char.isDigit)
  | cs => some (0, cs)

/-- The second of the day and the nanoseconds; second 60 is a second past 59. -/
def time? (cs : List Char) : Option (Nat × Nat × List Char) := do
  let (hour, cs) ← pair? 0 23 cs
  let (minute, cs) ← pair? 0 59 (← literal? ':' cs)
  let (second, cs) ← pair? 0 60 (← literal? ':' cs)
  let (nanos, cs) ← fraction? cs
  let leap := if second = 60 then 1 else 0
  return (hour * 3600 + minute * 60 + (second - leap), nanos + leap * 1000000000, cs)

def isSeparator (c : Char) : Bool := c = 'T' || c = 't' || c = ' '

/-- Hours and minutes of two digits each, with colons or blanks between them. -/
def hoursMinutes? : List Char → Option (Nat × List Char)
  | a :: b :: rest => do
    let hours := (← digitOf? a) * 10 + (← digitOf? b)
    match rest.dropWhile fun c => c = ':' || isBlank c with
    | c :: d :: rest => do
      let minutes := (← digitOf? c) * 10 + (← digitOf? d)
      if hours < 24 && minutes < 60 then some (hours * 3600 + minutes * 60, rest) else none
    | _ => none
  | _ => none

/-- Seconds east of UTC. -/
def offset? (cs : List Char) : Option (Int × List Char) :=
  if (cs.take 3).map Char.toUpper = ['U', 'T', 'C'] then some (0, cs.drop 3)
  else match cs with
    | 'Z' :: rest => some (0, rest)
    | 'z' :: rest => some (0, rest)
    | '+' :: rest => (hoursMinutes? rest).map fun (n, rest) => ((n : Int), rest)
    | '-' :: rest => (hoursMinutes? rest).map fun (n, rest) => (-(n : Int), rest)
    | '\u2212' :: rest => (hoursMinutes? rest).map fun (n, rest) => (-(n : Int), rest)
    | _ => none

/-- The timestamp, if the local time and the one in UTC are both in range. -/
def parse? (s : String) : Option Timestamp := do
  let (date, cs) ← date? s.toList
  match cs with
  | [] => none
  | c :: cs =>
    if !isSeparator c then none
    else
      let (second, nanos, cs) ← time? cs
      let (offset, cs) ← offset? (dropBlanks cs)
      if !(dropBlanks cs).isEmpty then none
      else
        let wall := date.toDays * 86400 + second
        if Timestamp.least ≤ wall && wall ≤ Timestamp.greatest then Timestamp.of? (wall - offset) nanos
        else none

end Accounts.Time.Lenient
