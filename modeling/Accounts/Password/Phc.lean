import Accounts.Text.Base64
import Accounts.Text.Decimal
/-! The text form of a password hash: fields after dollar signs that name the algorithm, its version and
parameters, the salt and the hash. All but the algorithm may be left out. -/
namespace Accounts.Password

structure Phc where
  algorithm : String
  version : Option Nat
  params : List (String × String)
  /-- In base64, as written. -/
  salt : Option String
  hash : Option Bytes
  deriving DecidableEq, Repr

namespace Phc

def parts (sep : Char) : List Char → List (List Char)
  | [] => [[]]
  | c :: rest =>
    match parts sep rest with
    | [] => [[]]
    | p :: ps => if c = sep then [] :: p :: ps else (c :: p) :: ps

def isLowerOrDigit (c : Char) : Bool := c.isLower || c.isDigit

def isName (cs : List Char) : Bool :=
  cs ≠ [] && cs.length ≤ 32 && cs.all fun c => isLowerOrDigit c || c = '-'

def isValueChar (c : Char) : Bool := c.isAlphanum || c = '/' || c = '+' || c = '.' || c = '-'

def isValue (cs : List Char) : Bool := cs.length ≤ 64 && cs.all isValueChar

/-- A number of 32 bits without leading zeros. -/
def number? (cs : List Char) : Option Nat :=
  if cs = [] || !cs.all Char.isDigit || (cs.head? = some '0' && cs.length ≠ 1) then none
  else
    let n := cs.foldl (fun n c => n * 10 + (c.toNat - '0'.toNat)) 0
    if n ≤ Decimal.maxU32 then some n else none

def param? (cs : List Char) : Option (String × String) :=
  match parts '=' cs with
  | [name, value] =>
    if isName name && isValue value then some (String.ofList name, String.ofList value) else none
  | _ => none

def params? (cs : List Char) : Option (List (String × String)) :=
  if 127 < cs.length then none else (parts ',' cs).mapM param?

def salt? (cs : List Char) : Option String :=
  if 4 ≤ cs.length && isValue cs then some (String.ofList cs) else none

def hash? (cs : List Char) : Option Bytes := do
  let bytes ← Base64.decode? .standard (Bytes.ofText (String.ofList cs))
  if 10 ≤ bytes.length && bytes.length ≤ 64 then some bytes else none

/-- The version, if the first of the fields gives one. -/
def takeVersion : List (List Char) → Option (Option Nat × List (List Char))
  | ('v' :: '=' :: cs) :: rest =>
    if cs.contains ',' then some (none, ('v' :: '=' :: cs) :: rest)
    else if isValue cs then (number? cs).map fun n => (some n, rest) else none
  | fields => some (none, fields)

/-- The parameters, if the first of the fields gives some. -/
def takeParams : List (List Char) → Option (List (String × String) × List (List Char))
  | field :: rest =>
    if field.contains '=' then (params? field).map fun ps => (ps, rest) else some ([], field :: rest)
  | [] => some ([], [])

def parse? (s : String) : Option Phc :=
  match parts '$' s.toList with
  | [] :: algorithm :: fields =>
    if isName algorithm then do
      let (version, fields) ← takeVersion fields
      let (params, fields) ← takeParams fields
      let name := String.ofList algorithm
      match fields with
      | [] => return ⟨name, version, params, none, none⟩
      | [salt] => return ⟨name, version, params, some (← salt? salt), none⟩
      | [salt, hash] => return ⟨name, version, params, some (← salt? salt), some (← hash? hash)⟩
      | _ => none
    else none
  | _ => none

end Phc
end Accounts.Password
