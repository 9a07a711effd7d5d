/-! Media types: a type, a subtype that may have a suffix after a plus sign, and parameters. -/
namespace Accounts.Http

structure MediaType where
  main : String
  sub : String
  suffix : Option String
  deriving DecidableEq, Repr

namespace MediaType

def isTokenChar (c : Char) : Bool := c.isAlphanum || "!#$%&'*+-.^_\x60|~".toList.contains c

/-- A character that may stand between quotes; a backslash is one like any other. -/
def isQuotedChar (c : Char) : Bool := 32 ≤ c.toNat && c.toNat ≤ 126

/-- What follows a quoted text whose opening quote was read. It has a character or more, of which the first may be a
quote. -/
def quotedRest? : List Char → Option (List Char)
  | [] => none
  | c :: cs =>
    match cs.dropWhile fun c => isQuotedChar c && c ≠ '"' with
    | '"' :: rest => if isQuotedChar c then some rest else none
    | _ => none

/-- What follows a parameter's value: a quoted text and spaces, or a token, which is empty only at the end. -/
def valueRest? : List Char → Option (List Char)
  | '"' :: rest => (quotedRest? rest).map fun rest => rest.dropWhile (· = ' ')
  | c :: rest => if isTokenChar c then some (rest.dropWhile isTokenChar) else none
  | [] => some []

/-- Whether these are parameters, each after a semicolon. A semicolon may stand alone at the end. -/
def areParams (fuel : Nat) (cs : List Char) : Bool :=
  match fuel, cs with
  | _, [] => true
  | fuel + 1, ';' :: rest =>
    let rest := rest.dropWhile (· = ' ')
    if rest = [] then true
    else match rest.takeWhile isTokenChar, rest.dropWhile isTokenChar with
      | _ :: _, '=' :: value => (valueRest? value).any (areParams fuel)
      | _, _ => false
  | _, _ => false

/-- The suffix starts after the last plus sign that is not the first character. -/
def splitSuffix (sub : List Char) : List Char × Option (List Char) :=
  let suffix := (sub.reverse.takeWhile (· ≠ '+')).reverse
  let before := sub.length - suffix.length - 1
  if before = 0 || suffix.length = sub.length then (sub, none) else (sub.take before, some suffix)

def parse? (s : String) : Option MediaType :=
  let cs := s.toList
  match cs.takeWhile isTokenChar, cs.dropWhile isTokenChar with
  | c :: main, '/' :: rest =>
    let (sub, suffix) := splitSuffix (rest.takeWhile isTokenChar)
    let params := rest.dropWhile isTokenChar
    if (sub ≠ [] || params = []) && areParams params.length params then
      let lower (cs : List Char) : String := String.ofList (cs.map Char.toLower)
      some ⟨lower (c :: main), lower sub, suffix.map lower⟩
    else none
  | _, _ => none

/-- JSON, or a format written in JSON. -/
def isJson (m : MediaType) : Bool := m.main = "application" && (m.sub = "json" || m.suffix = some "json")

end MediaType
end Accounts.Http
