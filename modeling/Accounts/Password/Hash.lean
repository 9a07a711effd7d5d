import Accounts.Error
import Accounts.Hash.Argon2
import Accounts.Password.Phc
/-! Password hashes, made and checked with Argon2. -/
namespace Accounts.Password
open Hash

def toText (b : Bytes) : String := (Bytes.text? b).getD ""

/-- Algorithm, version and parameters of new hashes. -/
def currentParams : Argon2.Params := ⟨19456, 2, 1, .id, .v19, []⟩

def currentHeader : String := "$argon2id$v=19$m=19456,t=2,p=1$"

def saltSize : Nat := 16

def hashSize : Nat := 32

def maxPassword : Nat := 4294967295

def hash (salt : Bytes) (password : String) : Except ServiceError String :=
  let bytes := Bytes.ofText password
  if maxPassword < bytes.length then .error .internal
  else .ok (currentHeader ++ toText (Base64.encode .standard salt) ++ "$" ++
    toText (Base64.encode .standard (Argon2.digest currentParams hashSize bytes salt)))

def kind? (algorithm : String) : Option Argon2.Kind :=
  if algorithm = "argon2d" then some .d
  else if algorithm = "argon2i" then some .i
  else if algorithm = "argon2id" then some .id
  else none

def version? : Option Nat → Option Argon2.Version
  | none => some .v19
  | some 16 => some .v16
  | some 19 => some .v19
  | some _ => none

def shortBytes? (size : Nat) (s : String) : Option Bytes := do
  let bytes ← Base64.decode? .standard (Bytes.ofText s)
  if bytes.length ≤ size then some bytes else none

/-- Takes one more parameter; the last of a name counts. -/
def setParam (p : Argon2.Params) : String × String → Option Argon2.Params
  | ("m", v) => (Phc.number? v.toList).map fun n => { p with memory := n }
  | ("t", v) => (Phc.number? v.toList).map fun n => { p with passes := n }
  | ("p", v) => (Phc.number? v.toList).map fun n => { p with lanes := n }
  | ("keyid", v) => (shortBytes? 8 v).map fun _ => p
  | ("data", v) => (shortBytes? 32 v).map fun data => { p with data }
  | _ => none

def areUsable (p : Argon2.Params) : Bool :=
  8 ≤ p.memory && 1 ≤ p.lanes && p.lanes ≤ 0xFFFFFF && 8 * p.lanes ≤ p.memory && 1 ≤ p.passes

/-- How to hash again as this hash was made. -/
def params? (h : Phc) : Option Argon2.Params := do
  let kind ← kind? h.algorithm
  let version ← version? h.version
  let p ← h.params.foldlM setParam { currentParams with kind, version }
  if areUsable p then some p else none

def salt? (s : String) : Option Bytes := do
  let bytes ← Base64.decode? .standard (Bytes.ofText s)
  if 8 ≤ bytes.length then some bytes else none

/-- Whether the password has this hash. A text without a hash fits no password; one that cannot be read, or
asks for what Argon2 cannot do, is an internal fault. -/
def verify (password hash : String) : Except ServiceError Bool :=
  match Phc.parse? hash with
  | none => .error .internal
  | some h =>
    match h.salt, h.hash with
    | some salt, some expected =>
      match params? h, salt? salt with
      | some p, some salt =>
        let bytes := Bytes.ofText password
        if maxPassword < bytes.length then .error .internal
        else .ok (Argon2.digest p expected.length bytes salt == expected)
      | _, _ => .error .internal
    | _, _ => .ok false

end Accounts.Password
