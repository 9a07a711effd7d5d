import Accounts.Error
import Accounts.Session.Token
import Accounts.User
/-! Session tokens: an access token and a refresh token are issued together, each kind with its own secret. A
refresh token has an identifier, by which it can be revoked. -/
namespace Accounts
open Time Session

structure Identity where
  userId : Int
  username : String
  deriving DecidableEq, Repr

structure IssuedTokens where
  access : String
  accessExpiresAt : Instant
  refresh : String
  refreshExpiresAt : Instant
  deriving DecidableEq, Repr

structure SessionSettings where
  accessSecret : String
  refreshSecret : String
  issuer : String
  audience : String
  accessTtl : Span
  refreshTtl : Span
  deriving DecidableEq, Repr

inductive SessionFault
  | secretTooShort (which : String)
  | nonPositiveTtl
  deriving DecidableEq, Repr

def minSecret : Nat := 32

def SessionFault.message : SessionFault → String
  | secretTooShort which => which ++ " secret must be at least " ++ toString minSecret ++ " characters"
  | nonPositiveTtl => "token ttl must be positive"

/-- Settings that tokens can be issued with. -/
structure Issuer where
  settings : SessionSettings
  accessSecret_size : minSecret ≤ settings.accessSecret.utf8ByteSize
  refreshSecret_size : minSecret ≤ settings.refreshSecret.utf8ByteSize
  accessTtl_pos : 0 < settings.accessTtl
  refreshTtl_pos : 0 < settings.refreshTtl

namespace Issuer

def ofSettings (s : SessionSettings) : Except SessionFault Issuer :=
  if access : s.accessSecret.utf8ByteSize < minSecret then .error (.secretTooShort "access")
  else if refresh : s.refreshSecret.utf8ByteSize < minSecret then .error (.secretTooShort "refresh")
  else if ttl : s.accessTtl ≤ 0 ∨ s.refreshTtl ≤ 0 then .error .nonPositiveTtl
  else .ok ⟨s, by omega, by omega, Int.not_le.1 fun h => ttl (.inl h), Int.not_le.1 fun h => ttl (.inr h)⟩

/-- For how many seconds after its end a token is still good. -/
def leeway : Int := 5

def accessKey (i : Issuer) : Bytes := Bytes.ofText i.settings.accessSecret

def refreshKey (i : Issuer) : Bytes := Bytes.ofText i.settings.refreshSecret

def claims (i : Issuer) (user : User) (now expiresAt : Instant) (tokenId : Option String) : Claims :=
  ⟨user.username, user.id, i.settings.issuer, i.settings.audience, wholeSeconds now,
    wholeSeconds expiresAt, tokenId⟩

def issue (i : Issuer) (now : Instant) (user : User) (tokenId : String) : IssuedTokens :=
  let accessEnd := now + i.settings.accessTtl
  let refreshEnd := now + i.settings.refreshTtl
  ⟨Token.sign i.accessKey (i.claims user now accessEnd none), accessEnd,
    Token.sign i.refreshKey (i.claims user now refreshEnd (some tokenId)), refreshEnd⟩

/-- Whether claims are for this issuer and audience and have not ended. None are good in the first seconds of
1970, from which the leeway cannot be taken. -/
def accepts (i : Issuer) (now : Instant) (c : Claims) : Bool :=
  leeway ≤ wholeSeconds now && 0 ≤ c.expiresAt && wholeSeconds now ≤ c.expiresAt + leeway &&
  c.issuer = i.settings.issuer && c.audience = i.settings.audience

/-- The claims of a token that is good at the instant `now`. -/
def verify (i : Issuer) (key : Bytes) (now : Instant) (token : String) : Except ServiceError Claims :=
  match Token.open? key token with
  | none => .error .invalidToken
  | some c => if i.accepts now c then .ok c else .error .invalidToken

def checkAccess (i : Issuer) (now : Instant) (token : String) : Except ServiceError Identity := do
  let c ← i.verify i.accessKey now token
  return ⟨c.userId, c.subject⟩

/-- A good refresh token's claims and its identifier. -/
def verifyRefresh (i : Issuer) (now : Instant) (token : String) : Except ServiceError (Claims × String) := do
  let c ← i.verify i.refreshKey now token
  match c.tokenId with
  | none => throw .invalidToken
  | some id => return (c, id)

/-- Identifiers of revoked tokens, with the second at which each token ends. -/
abbrev DenyList := List (String × Int)

def checkRefresh (i : Issuer) (now : Instant) (denied : DenyList) (token : String) :
    Except ServiceError Identity := do
  let (c, id) ← i.verifyRefresh now token
  if (denied.lookup id).isSome then throw .invalidToken
  return ⟨c.userId, c.subject⟩

/-- Without the entries of tokens that are no longer good anyway. -/
def pruned (now : Instant) (denied : DenyList) : DenyList :=
  denied.filter fun (_, expiresAt) => wholeSeconds now ≤ expiresAt + leeway

/-- Puts a token on the deny-list, by its identifier and the second at which it ends; refused if it is there. -/
def deny (now : Instant) (denied : DenyList) (id : String) (expiresAt : Int) :
    Except ServiceError Unit × DenyList :=
  let denied := pruned now denied
  if (denied.lookup id).isSome then
    (.error .invalidToken, (denied.filter fun (other, _) => other ≠ id) ++ [(id, expiresAt)])
  else (.ok (), denied ++ [(id, expiresAt)])

/-- Revokes a refresh token: it is looked at at the instant `now`, and comes to the deny-list at the instant `later`. -/
def revoke (i : Issuer) (now later : Instant) (denied : DenyList) (token : String) :
    Except ServiceError Unit × DenyList :=
  match i.verifyRefresh now token with
  | .error e => (.error e, denied)
  | .ok (c, id) => deny later denied id c.expiresAt

end Issuer
end Accounts
