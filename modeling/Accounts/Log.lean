import Accounts.Json.Value
import Accounts.Text.Alphanumeric
import Accounts.Text.Blank
/-! Log lines, and the filter that says which of them are written. -/
namespace Accounts.Log
open Json

inductive Level
  | error
  | warn
  | info
  | debug
  | trace
  deriving DecidableEq, Repr

namespace Level

def text : Level → String
  | error => "ERROR"
  | warn => "WARN"
  | info => "INFO"
  | debug => "DEBUG"
  | trace => "TRACE"

def rank : Level → Nat
  | error => 1
  | warn => 2
  | info => 3
  | debug => 4
  | trace => 5

end Level

structure Line where
  level : Level
  /-- The part of the program that writes it. -/
  target : String
  message : String
  fields : List (String × Value)

namespace Line

def content (l : Line) : Value := .object (("message", .string l.message) :: l.fields)

def toJson (l : Line) : Value :=
  .object [("level", .string l.level.text), ("fields", l.content), ("target", .string l.target)]

end Line

/-- How much of a target is written, as a rank; 0 is nothing. -/
structure Directive where
  /-- The start of the target's name. -/
  target : String
  /-- Names of fields that a line has to have. -/
  fields : List String
  /-- Whether only lines inside a span are meant, and there is none. -/
  inSpan : Bool
  rank : Nat
  deriving DecidableEq, Repr

/-- The number of a level, or a name in any case. -/
def rank? (s : String) : Option Nat :=
  let digits := if s.startsWith "+" then s.toList.drop 1 else s.toList
  if digits ≠ [] && digits.all Char.isDigit then
    let n := digits.foldl (fun n c => n * 10 + (c.toNat - '0'.toNat)) 0
    if n ≤ 5 then some n else none
  else match s.map Char.toLower with
    | "off" => some 0
    | "error" => some 1
    | "warn" => some 2
    | "info" => some 3
    | "debug" => some 4
    | "trace" => some 5
    | _ => none

namespace Directive

/-- Where in its text a directive is read; a part is known by the position of its first character. -/
inductive Place
  | start
  | name (first : Nat)
  | span (first : Nat)
  | field (first : Nat)
  | fields
  | ended
  | level (first : Nat)
  deriving DecidableEq, Repr

def part (text : List Char) (first last : Nat) : String := String.ofList ((text.take last).drop first)

/-- A field that has a value is one of a span. -/
def withField (d : Directive) (field : String) : Directive :=
  if field.toList.contains '=' then { d with inSpan := true } else { d with fields := d.fields ++ [field] }

/-- One more character, at position `i`. -/
def step (text : List Char) (d : Directive) (place : Place) (c : Char) (i : Nat) : Option (Directive × Place) :=
  match place with
  | .start =>
    if c = '[' then some (d, .span (i + 1))
    else if isAlphanumeric c || c = '-' || c = ':' || c = '_' then some (d, .name i)
    else none
  | .name first =>
    if c = '=' then some ({ d with target := part text first i }, .level (i + 1))
    else if c = '[' then some ({ d with target := part text first i }, .span (i + 1))
    else some (d, place)
  | .span first =>
    if c = ']' then some ({ d with inSpan := true }, .ended)
    else if c = '\x7b' then some ({ d with inSpan := i ≠ first }, .field (i + 1))
    else some (d, place)
  | .field first =>
    if c ≠ '\x7d' then some (d, place)
    else if i = first then none
    else some (d.withField (part text first i), .fields)
  | .fields => if c = ']' then some (d, .ended) else none
  | .ended => if c = '=' then some (d, .level (i + 1)) else none
  | .level _ => some (d, place)

/-- What a directive is at the end of its text: a level, a target, or a target and its level. -/
def finish? (text : List Char) (d : Directive) : Place → Option Directive
  | .name first =>
    let name := part text first text.length
    match rank? name with
    | some rank => some { d with rank }
    | none => some { d with target := name }
  | .level first =>
    if text.length ≤ first then some d
    else (rank? (part text first text.length)).map fun rank => { d with rank }
  | .ended => some d
  | _ => none

/-- The directive that a text writes. Blanks around it are passed over, but count for the positions of its parts. -/
def read? (s : String) : Option Directive := do
  let text := s.toList
  let trimmed := (dropBlanks (dropBlanks text).reverse).reverse
  let (d, place) ← trimmed.zipIdx.foldlM (fun (d, place) (c, i) => step text d place c i)
    (⟨"", [], false, 5⟩, Place.start)
  finish? text d place

def ofRank (rank : Nat) : Directive := ⟨"", [], false, rank⟩

/-- Whether a line is one that the directive is about. -/
def isAbout (d : Directive) (l : Line) : Bool :=
  !d.inSpan && l.target.startsWith d.target &&
  d.fields.all fun name => name = "message" || l.fields.any fun (n, _) => n = name

/-- Whether a directive says as much about its lines as another, or more. -/
def isAsClose (d other : Directive) : Bool :=
  other.target.utf8ByteSize < d.target.utf8ByteSize ||
  (other.target.utf8ByteSize = d.target.utf8ByteSize && other.fields.length ≤ d.fields.length)

end Directive

/-- The filter that a text asks for: without a text, or for one that cannot be read, everything down to `info`. -/
def filter (text : Option String) : List Directive :=
  match text with
  | none => [.ofRank 3]
  | some text =>
    let parts := (text.splitOn ",").filter fun s => !s.isEmpty
    if parts.isEmpty then [.ofRank 1] else (parts.mapM Directive.read?).getD [.ofRank 3]

/-- The closest directive counts, and of those the last. -/
def closest? (ds : List Directive) (l : Line) : Option Directive :=
  (ds.filter (·.isAbout l)).foldl (fun best d =>
    match best with
    | none => some d
    | some other => if d.isAsClose other then some d else some other) none

def isWritten (ds : List Directive) (l : Line) : Bool := (closest? ds l).any fun d => l.level.rank ≤ d.rank

end Accounts.Log
