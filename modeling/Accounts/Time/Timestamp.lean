import Accounts.Text.Decimal
import Accounts.Time.Calendar
/-! Instants: what the clock shows, and timestamps that may also lie inside a leap second. A timestamp is written
as RFC 3339 text in UTC with three digits of fraction, and stored with as many as it needs. -/
namespace Accounts.Time

/-- Microseconds since the start of 1970. -/
abbrev Instant := Int

/-- A length of time in microseconds. -/
abbrev Span := Int

def second : Span := 1000000

def seconds (n : Int) : Span := n * second

def wholeSeconds (t : Instant) : Int := t / second

/-- Seconds since the start of 1970 and a fraction in nanoseconds, which is a second or more inside a
leap second. -/
structure Timestamp where
  seconds : Int
  nanos : Nat
  deriving DecidableEq, Repr

namespace Timestamp

def least : Int := -8334601228800

def greatest : Int := 8210266876799

/-- A leap second follows the last second of a minute. -/
def isValid (t : Timestamp) : Bool :=
  least ≤ t.seconds && t.seconds ≤ greatest &&
  (t.nanos < 1000000000 || (t.nanos < 2000000000 && t.seconds % 60 = 59))

def of? (seconds : Int) (nanos : Nat) : Option Timestamp :=
  if isValid ⟨seconds, nanos⟩ then some ⟨seconds, nanos⟩ else none

def ofInstant (t : Instant) : Timestamp := ⟨t / 1000000, (t % 1000000).toNat * 1000⟩

def truncated (t : Timestamp) : Timestamp := { t with nanos := t.nanos / 1000000 * 1000000 }

/-- A year outside 0 to 9999 has a sign. -/
def yearText (year : Int) : String :=
  if 0 ≤ year && year ≤ 9999 then Decimal.padded 4 year.toNat
  else (if year < 0 then "-" else "+") ++ Decimal.padded 4 year.natAbs

def dateText (d : Date) : String :=
  yearText d.year ++ "-" ++ Decimal.padded 2 d.month ++ "-" ++ Decimal.padded 2 d.day

/-- A leap second is second 60. -/
def clockText (secondOfDay nanos : Nat) : String :=
  Decimal.padded 2 (secondOfDay / 3600) ++ ":" ++ Decimal.padded 2 (secondOfDay / 60 % 60) ++ ":" ++
  Decimal.padded 2 (secondOfDay % 60 + nanos / 1000000000)

/-- Date and time of day up to the whole second. -/
def wholeText (t : Timestamp) : String :=
  dateText (Date.ofDays (t.seconds / 86400)) ++ "T" ++ clockText (t.seconds % 86400).toNat t.nanos

def text (t : Timestamp) : String := t.wholeText ++ "." ++ Decimal.padded 3 (t.nanos % 1000000000 / 1000000) ++ "Z"

/-- A fraction in nanoseconds with none, three, six or nine digits. -/
def fractionText (nanos : Nat) : String :=
  if nanos = 0 then ""
  else if nanos % 1000000 = 0 then "." ++ Decimal.padded 3 (nanos / 1000000)
  else if nanos % 1000 = 0 then "." ++ Decimal.padded 6 (nanos / 1000)
  else "." ++ Decimal.padded 9 nanos

/-- The form in which a database keeps and compares timestamps. -/
def storedText (t : Timestamp) : String := t.wholeText ++ fractionText (t.nanos % 1000000000) ++ "+00:00"

end Timestamp

def instantText (t : Instant) : String := (Timestamp.ofInstant t).text

def storedInstant (t : Instant) : String := (Timestamp.ofInstant t).storedText

end Accounts.Time
