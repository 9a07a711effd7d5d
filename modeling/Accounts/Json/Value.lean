import Accounts.Json.Token
/-! JSON values: their compact text, and reading one from tokens with a stack of open brackets. A repeated member
counts once, with its last value, or is kept each time. -/
namespace Accounts.Json

inductive Value
  | null
  | bool (b : Bool)
  | number (n : Number)
  | string (s : String)
  | array (items : List Value)
  | object (members : List (String × Value))

namespace Value

def int (n : Int) : Value := .number (.integer n)

def nat (n : Nat) : Value := .int n

/-- Nothing is written as null. -/
def ofOption {α : Type} (f : α → Value) : Option α → Value
  | none => .null
  | some a => f a

def get? (key : String) : Value → Option Value
  | .object members => members.lookup key
  | _ => none

end Value

/-- In a list of members, one replaced or added at the end. -/
def setMember (key : String) (v : Value) (members : List (String × Value)) : List (String × Value) :=
  if members.any (·.1 == key) then members.map fun m => if m.1 == key then (key, v) else m
  else members ++ [(key, v)]

def Number.text : Number → String
  | .integer n => toString n
  | .decimal negative digits exponent =>
    (if negative then "-" else "") ++ toString digits ++ "e" ++ toString exponent

namespace Value

mutual

/-- The value without white space. -/
def render : Value → Bytes
  | .null => Bytes.ofText "null"
  | .bool true => Bytes.ofText "true"
  | .bool false => Bytes.ofText "false"
  | .number n => Bytes.ofText n.text
  | .string s => Quoted.encode s
  | .array items => '['.toUInt8 :: renderItems items ++ [']'.toUInt8]
  | .object members => '{'.toUInt8 :: renderMembers members ++ ['}'.toUInt8]

def renderItems : List Value → Bytes
  | [] => []
  | [v] => render v
  | v :: w :: rest => render v ++ ','.toUInt8 :: renderItems (w :: rest)

def renderMembers : List (String × Value) → Bytes
  | [] => []
  | [(k, v)] => Quoted.encode k ++ ':'.toUInt8 :: render v
  | (k, v) :: m :: rest =>
    Quoted.encode k ++ ':'.toUInt8 :: render v ++ ','.toUInt8 :: renderMembers (m :: rest)

end

/-- The compact text. Every part of it is UTF-8. -/
def compact (v : Value) : String := (Bytes.text? v.render).getD ""

/-- An open bracket, with what it holds so far; the items of an array are kept in reverse. -/
inductive Frame
  | array (items : List Value)
  | object (members : List (String × Value)) (key : String)

inductive Goal
  | value
  | done (v : Value)

/-- The value of a token that stands alone. -/
def ofToken? : Token → Option Value
  | .null => some .null
  | .bool b => some (.bool b)
  | .number l => l.value?.map .number
  | .string inside => (Quoted.decode? inside).map .string
  | _ => none

/-- Members with one more of this name. -/
abbrev Adder := String → Value → List (String × Value) → List (String × Value)

/-- Reads on below the open brackets; at most `room` more of them may open. -/
def readOn (add : Adder) (room : Nat) : List Frame → Goal → List Token → Option (Value × List Token)
  | [], .done v, rest => some (v, rest)
  | .array items :: stack, .done v, .comma :: rest => readOn add room (.array (v :: items) :: stack) .value rest
  | .array items :: stack, .done v, .closeArray :: rest =>
    readOn add (room + 1) stack (.done (.array (v :: items).reverse)) rest
  | .object members key :: stack, .done v, .comma :: .string next :: .colon :: rest =>
    (Quoted.decode? next).bind fun next =>
      readOn add room (.object (add key v members) next :: stack) .value rest
  | .object members key :: stack, .done v, .closeObject :: rest =>
    readOn add (room + 1) stack (.done (.object (add key v members))) rest
  | stack, .value, .openArray :: .closeArray :: rest =>
    if room = 0 then none else readOn add room stack (.done (.array [])) rest
  | stack, .value, .openArray :: rest =>
    if room = 0 then none else readOn add (room - 1) (.array [] :: stack) .value rest
  | stack, .value, .openObject :: .closeObject :: rest =>
    if room = 0 then none else readOn add room stack (.done (.object [])) rest
  | stack, .value, .openObject :: .string key :: .colon :: rest =>
    if room = 0 then none
    else (Quoted.decode? key).bind fun key => readOn add (room - 1) (.object [] key :: stack) .value rest
  | stack, .value, t :: rest => (ofToken? t).bind fun v => readOn add room stack (.done v) rest
  | _, _, _ => none

def maxDepth : Nat := 127

/-- The value that a text holds, with nothing after it. -/
def read? (add : Adder) (text : Bytes) : Option Value :=
  match readOn add maxDepth [] .value (Token.ofBytes text) with
  | some (v, []) => some v
  | _ => none

/-- The value in which each name counts once. -/
def parse? (text : Bytes) : Option Value := read? setMember text

/-- The value with its members as often as they are written. -/
def parseAll? (text : Bytes) : Option Value := read? (fun key v members => members ++ [(key, v)]) text

end Value
end Accounts.Json
