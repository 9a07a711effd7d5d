import Accounts.Json.Value
import Accounts.Text.Percent
/-! HTTP requests and what is read from their heads. -/
namespace Accounts.Http
open Json

structure Request where
  method : String
  /-- Path and query as sent, or an address in full. -/
  target : String
  headers : List (String × String)
  body : Bytes

inductive Body
  | json (v : Value)
  | empty
  /-- A few words about what was wrong with the request. -/
  | text

structure Response where
  status : Nat
  body : Body
  /-- The methods that a resource allows, told when another one was used. -/
  allow : Option String
  /-- The caller's name for the request, or none: then a new one is made. -/
  requestId : Option String

namespace Response

def ofJson (status : Nat) (v : Value) : Response := ⟨status, .json v, none, none⟩

def empty (status : Nat) : Response := ⟨status, .empty, none, none⟩

def rejected (status : Nat) : Response := ⟨status, .text, none, none⟩

end Response

namespace Request

/-- The first header of this name, in any case. -/
def header? (r : Request) (name : String) : Option String :=
  (r.headers.find? fun (n, _) => n.map Char.toLower = name).map (·.2)

def isSchemeChar (b : UInt8) : Bool :=
  let c := Char.ofUInt8 b
  c.isAlphanum || c = '+' || c = '-' || c = '.'

/-- Where the name of a host and what belongs to it end. -/
def endsPlace (b : UInt8) : Bool := b = '/'.toUInt8 || b = '?'.toUInt8 || b = '#'.toUInt8

/-- What follows the host in an address in full; nothing else has one. -/
def afterPlace (target : Bytes) : Bytes :=
  let rest := target.dropWhile isSchemeChar
  if rest.take 3 = Bytes.ofText "://" then (rest.drop 3).dropWhile fun b => !endsPlace b else []

/-- Path and query, up to a fragment. -/
def resource (r : Request) : Bytes :=
  let target := Bytes.ofText r.target
  (if target.head? = some '/'.toUInt8 then target else afterPlace target).takeWhile (· ≠ '#'.toUInt8)

def path (r : Request) : Bytes := r.resource.takeWhile (· ≠ '?'.toUInt8)

def query (r : Request) : Bytes := (r.resource.dropWhile (· ≠ '?'.toUInt8)).drop 1

/-- The path's parts after its first slash. -/
def segments (r : Request) : List Bytes :=
  match r.path with
  | b :: rest => if b = '/'.toUInt8 then Bytes.splitAt '/'.toUInt8 rest else []
  | [] => []

/-- The access token after the scheme's name, which is in any case and followed by a space. -/
def bearer? (r : Request) : Option String :=
  (r.header? "authorization").bind fun value =>
    let cs := value.toList
    if (cs.take 7).map Char.toLower = "bearer ".toList then
      match (cs.drop 7).dropWhile (· = ' ') with
      | [] => none
      | token => some (String.ofList token)
    else none

end Request
end Accounts.Http
