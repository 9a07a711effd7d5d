import Accounts.Session.Issuer
import Accounts.Store
/-! Programs: what a request does, as a sequence of single steps on the store, the session issuer, the clock and
the mailer. Steps of several programs may be interleaved; a step itself is never interrupted. -/
namespace Accounts
open Time

/-- What a verification mail is made from. -/
structure Letter where
  recipient : String
  token : String
  purpose : String
  deriving DecidableEq, Repr

inductive Effect
  | store (c : StoreCall)
  | clock
  /-- Who holds this access token. -/
  | checkAccess (token : String)
  | checkRefresh (token : String)
  /-- What a refresh token tells, if it is good. -/
  | verifyRefresh (token : String)
  /-- Puts a refresh token on the deny-list. -/
  | deny (tokenId : String) (expiresAt : Int)
  /-- New session tokens; the refresh token gets the given identifier. -/
  | issue (user : User) (jti : String)
  /-- Sends a letter; false if that failed. -/
  | send (letter : Letter)

@[reducible] def Effect.Reply : Effect → Type
  | store c => c.Reply
  | clock => Instant
  | checkAccess _ => Except ServiceError Identity
  | checkRefresh _ => Except ServiceError Identity
  | verifyRefresh _ => Except ServiceError (Session.Claims × String)
  | deny .. => Except ServiceError Unit
  | issue _ _ => Except ServiceError IssuedTokens
  | send _ => Bool

inductive Program (α : Type) : Type
  | done (a : α)
  | ask (e : Effect) (next : e.Reply → Program α)

namespace Program
variable {α β σ : Type}

def bind (p : Program α) (f : α → Program β) : Program β :=
  match p with
  | done a => f a
  | ask e next => ask e fun r => bind (next r) f

instance : Monad Program where
  pure := done
  bind := bind

def run (answer : (e : Effect) → σ → e.Reply × σ) : Program α → σ → α × σ
  | done a, s => (a, s)
  | ask e next, s => run answer (next (answer e s).1) (answer e s).2

end Program

abbrev Action := ExceptT ServiceError Program

namespace Action

def store (c : StoreCall) : Action c.Answer := ExceptT.mk (.ask (.store c) .done)

def now : Action Instant := ExceptT.lift (.ask .clock .done)

def checkAccess (token : String) : Action Identity := ExceptT.mk (.ask (.checkAccess token) .done)

def checkRefresh (token : String) : Action Identity := ExceptT.mk (.ask (.checkRefresh token) .done)

def verifyRefresh (token : String) : Action (Session.Claims × String) := ExceptT.mk (.ask (.verifyRefresh token) .done)

def deny (tokenId : String) (expiresAt : Int) : Action Unit := ExceptT.mk (.ask (.deny tokenId expiresAt) .done)

/-- The clock is read twice: when the token is looked at, and when it comes to the deny-list. -/
def revoke (token : String) : Action Unit := do
  let (claims, id) ← verifyRefresh token
  deny id claims.expiresAt

def issue (user : User) (jti : String) : Action IssuedTokens := ExceptT.mk (.ask (.issue user jti) .done)

def send (letter : Letter) : Action Bool := ExceptT.lift (.ask (.send letter) .done)

/-- Refused with `e` unless there is a value. -/
def require {α : Type} (e : ServiceError) : Option α → Action α
  | some a => pure a
  | none => throw e

/-- A text that may not be empty. -/
def nonempty (what : String) (s : String) : Action Unit :=
  if s.isEmpty then throw (.invalidInput (what ++ " is required")) else pure ()

end Action

/-- The parts of a running service that steps change. -/
structure World where
  store : Store
  /-- Identifiers of revoked refresh tokens and when those tokens expire. -/
  denied : List (String × Int)

/-- How a mailer acts on a letter. It may act on the store as well, as another program would. -/
abbrev MailAction := Letter → Store → Bool × Store

/-- Answers one step at the instant `now`. -/
def World.answer (issuer : Issuer) (now : Instant) (mail : MailAction) :
    (e : Effect) → World → e.Reply × World
  | .store c, w =>
    let (reply, store) := w.store.answer now c
    (reply, { w with store })
  | .clock, w => (now, w)
  | .checkAccess token, w => (issuer.checkAccess now token, w)
  | .checkRefresh token, w => (issuer.checkRefresh now w.denied token, w)
  | .verifyRefresh token, w => (issuer.verifyRefresh now token, w)
  | .deny tokenId expiresAt, w =>
    let (reply, denied) := Issuer.deny now w.denied tokenId expiresAt
    (reply, { w with denied })
  | .issue user jti, w => (.ok (issuer.issue now user jti), w)
  | .send letter, w =>
    let (sent, store) := mail letter w.store
    (sent, { w with store })

end Accounts
