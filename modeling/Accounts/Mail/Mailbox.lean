import Accounts.Text.Alphanumeric
import Accounts.Text.Blank
import Accounts.Text.DomainName
/-! E-mail addresses as they stand in mail headers: alone, or in angle brackets after a name. -/
namespace Accounts.Mail

structure Address where
  user : String
  domain : String
  deriving DecidableEq, Repr

def Address.text (a : Address) : String := a.user ++ "@" ++ a.domain

inductive AddressFault
  | invalidInput
  | invalidUser
  | invalidDomain
  deriving DecidableEq, Repr

def AddressFault.message : AddressFault → String
  | invalidInput => "email address parse error: Invalid input"
  | invalidUser => "email address parse error: Invalid email user"
  | invalidDomain => "email address parse error: Invalid email domain"

def isAscii (c : Char) : Bool := c.toNat < 128

def isSign (c : Char) : Bool := "!#$%&'*+-/=?^_\x60\x7b|\x7d~".toList.contains c

/-- The characters of an atom; outside ASCII any will do. -/
def isAtomChar (c : Char) : Bool := c.isAlphanum || isSign c || !isAscii c

def isSpaceOrTab (c : Char) : Bool := c = ' ' || c = '\t'

namespace Mailbox

def dropSpaces (cs : List Char) : List Char := cs.dropWhile isSpaceOrTab

/-- A point and an atom, as often as they follow. -/
def dotted (cs : List Char) : List Char × List Char :=
  match cs with
  | '.' :: rest =>
    match _ : rest.takeWhile isAtomChar with
    | [] => ([], '.' :: rest)
    | a :: atom =>
      let (more, rest) := dotted (rest.drop (atom.length + 1))
      ('.' :: a :: atom ++ more, rest)
  | _ => ([], cs)
  termination_by cs.length
  decreasing_by simp only [List.length_cons, List.length_drop]; omega

/-- Atoms with points between them, after spaces. -/
def dotAtom? (cs : List Char) : Option (List Char × List Char) :=
  let cs := dropSpaces cs
  match cs.takeWhile isAtomChar with
  | [] => none
  | a :: atom =>
    let (more, rest) := dotted (cs.drop (atom.length + 1))
    some (a :: atom ++ more, rest)

/-- A character that may stand between quotes without a backslash. -/
def isQuotedChar (c : Char) : Bool :=
  let n := c.toNat
  (1 ≤ n && n ≤ 8) || n = 11 || n = 12 || (14 ≤ n && n ≤ 31) || n = 127 ||
  n = 33 || (35 ≤ n && n ≤ 91) || (93 ≤ n && n ≤ 126) || !isAscii c

/-- A character that may follow a backslash. -/
def isEscapable (c : Char) : Bool := isAscii c && c ≠ '\x00' && c ≠ '\n' && c ≠ '\r'

/-- The inside of a quoted text up to the closing quote; of space before a character one stays. -/
def quotedOn? : List Char → List Char → Option (List Char × List Char)
  | _, '"' :: rest => some ([], rest)
  | space, '\\' :: c :: rest =>
    if isEscapable c then (quotedOn? [] rest).map fun (cs, rest) => (space ++ c :: cs, rest) else none
  | space, c :: rest =>
    if isSpaceOrTab c then quotedOn? (if space = [] then [c] else space) rest
    else if isQuotedChar c then (quotedOn? [] rest).map fun (cs, rest) => (space ++ c :: cs, rest)
    else none
  | _, [] => none

def quoted? : List Char → Option (List Char × List Char)
  | '"' :: rest => quotedOn? [] rest
  | _ => none

def addressSpec? (cs : List Char) : Option (Address × List Char) := do
  let (user, cs) ← (dotAtom? cs).or (quoted? cs)
  match cs with
  | '@' :: cs =>
    let (domain, cs) ← dotAtom? cs
    return (⟨String.ofList user, String.ofList domain⟩, cs)
  | _ => none

/-- What follows one word: a quoted text or an atom. -/
def word? (cs : List Char) : Option (List Char) :=
  match quoted? cs with
  | some (_, rest) => some rest
  | none => if (cs.takeWhile isAtomChar).isEmpty then none else some (cs.dropWhile isAtomChar)

/-- What follows as many words, points and spaces as there are, at most `fuel`. -/
def phraseOn : Nat → List Char → List Char
  | 0, cs => cs
  | fuel + 1, cs =>
    match word? (dropSpaces cs) with
    | some rest => phraseOn fuel rest
    | none =>
      match dropSpaces cs with
      | '.' :: rest => phraseOn fuel rest
      | rest => rest

/-- What follows a name, if there is one. -/
def skipName (cs : List Char) : List Char :=
  match word? cs with
  | some rest => phraseOn rest.length rest
  | none => cs

/-- An address in angle brackets, after a name or not. -/
def bracketed? (cs : List Char) : Option (Address × List Char) :=
  match skipName cs with
  | '<' :: cs =>
    match addressSpec? cs with
    | some (a, '>' :: rest) => some (a, dropBlanks rest)
    | _ => none
  | _ => none

/-- The address that a whole text writes, not checked further. -/
def read? (s : String) : Option Address :=
  let cs := dropBlanks s.toList
  match (bracketed? cs).or (addressSpec? cs) with
  | some (a, rest) => if (dropBlanks rest).isEmpty then some a else none
  | none => none

end Mailbox

namespace Address

/-- A character of a checked atom: a sign, or a letter or number of any script. -/
def isPlainChar (c : Char) : Bool := isAlphanumeric c || isSign c

/-- The inside of a local part that keeps its quotes, where a backslash stands before a character to be seen. -/
def isQuotedContent : List Char → Bool
  | [] => true
  | '\\' :: c :: rest => '!' ≤ c && c ≤ '~' && isQuotedContent rest
  | c :: rest =>
    (isSpaceOrTab c || !isAscii c || ('!' ≤ c && c ≤ '~' && c ≠ '"' && c ≠ '\\')) && isQuotedContent rest

/-- Atoms with points between them, or a text in quotes of its own. -/
def isUser (s : String) : Bool :=
  s.utf8ByteSize ≤ 64 &&
  if s.startsWith "\"" && s.endsWith "\"" then
    2 < s.length && isQuotedContent (s.toList.drop 1).dropLast
  else (Parts.splitAt '.' s.toList).all fun p => p ≠ [] && p.all isPlainChar

/-- A label starts and ends with a letter or number. -/
def isLabel (p : List Char) : Bool :=
  (String.ofList p).utf8ByteSize ≤ 63 && p.head?.any isAlphanumeric && p.getLast?.any isAlphanumeric &&
  p.all isPlainChar

def isPlainDomain (cs : List Char) : Bool :=
  (String.ofList cs).utf8ByteSize ≤ 254 && (Parts.splitAt '.' cs).all isLabel

/-- A name that is sound as it is, or once it is written in ASCII. -/
def isDomain (s : String) : Bool :=
  isPlainDomain s.toList || (DomainName.ascii? s.toList).any isPlainDomain

/-- The address that a text writes. -/
def parse (s : String) : Except AddressFault Address :=
  match Mailbox.read? s with
  | none => .error .invalidInput
  | some a =>
    if !isUser a.user then .error .invalidUser
    else if !isDomain a.domain then .error .invalidDomain
    else .ok a

end Address
end Accounts.Mail
