import Accounts.Error
import Accounts.Outbox
import Accounts.Page
import Accounts.User
/-! What can be asked of the store. Each call is one step: nothing happens between its reads and writes. -/
namespace Accounts
open Time

inductive StoreCall
  | ping
  | getUser (username : String)
  | getUserByEmail (email : String)
  | getCredentials (userId : Int)
  | listUsers (page : Page)
  | updateProfile (username : String) (profile : Profile)
  | updatePassword (userId : Int) (hash : String)
  | deleteUser (username : String)
  /-- Stores a user with a password, a first token and its event. -/
  | create (user : NewUser) (hash : String) (token : NewToken) (event : NewEvent)
  /-- Ends the user's active tokens and stores another one with its event. -/
  | rotate (userId : Int) (token : NewToken) (event : NewEvent)
  | findToken (token : String)
  | latestToken (userId : Int)
  /-- Spends a token and marks the user as verified. -/
  | verifyWithToken (tokenId userId : Int) (at_ : Instant)
  | findEvent (id : Int)
  /-- Settles a pending event; false if it was settled before. -/
  | updateStatus (id : Int) (status : OutboxStatus)

@[reducible] def StoreCall.Answer : StoreCall → Type
  | ping => Unit
  | getUser _ => Option User
  | getUserByEmail _ => Option User
  | getCredentials _ => Option Credentials
  | listUsers _ => List User × Nat
  | updateProfile _ _ => User
  | updatePassword _ _ => Unit
  | deleteUser _ => Unit
  | create _ _ _ _ => User
  | rotate _ _ _ => Unit
  | findToken _ => Option (VerificationToken × User)
  | latestToken _ => Option VerificationToken
  | verifyWithToken _ _ _ => User
  | findEvent _ => Option OutboxEvent
  | updateStatus _ _ => Bool

abbrev StoreCall.Reply (c : StoreCall) : Type := Except ServiceError c.Answer

/-- The byte order of texts. -/
def textLe (a b : String) : Bool := Bytes.ofText a ≤ Bytes.ofText b

namespace User

def fresh (u : NewUser) (now : Instant) (id : Int) : User :=
  ⟨id, u.username, u.profile, false, none, now, now⟩

def withProfile (p : Profile) (now : Instant) (u : User) : User :=
  { u with profile := p, updatedAt := now }

def markVerified (now : Instant) (u : User) : User :=
  { u with verified := true, verifiedAt := some now, updatedAt := now }

end User
end Accounts
