import Accounts.Store.Call
import Accounts.Store.Table
/-! The store in memory. Writes take effect at once and nothing undoes them, so every call makes all its
checks before its first write. -/
namespace Accounts
open Time

structure Tables where
  users : Table User
  /-- Password hashes by user. -/
  hashes : List (Int × String)
  tokens : Table VerificationToken
  outbox : Table OutboxEvent

namespace Tables

def empty : Tables := ⟨.empty, [], .empty, .empty⟩

/-- What a call answers, and the tables after it. -/
abbrev Outcome (α : Type) := Except ServiceError α × Tables

def userByName? (t : Tables) (username : String) : Option User :=
  t.users.find? fun u => u.username = username

/-- Whether another user than `exempt` has this address. -/
def emailTaken (t : Tables) (email : String) (exempt : Option Int) : Bool :=
  t.users.any fun u => u.email = email && some u.id ≠ exempt

def setHash (t : Tables) (userId : Int) (hash : String) : Tables :=
  { t with hashes := (t.hashes.filter fun (id, _) => id ≠ userId) ++ [(userId, hash)] }

def pushToken (t : Tables) (userId : Int) (n : NewToken) : Tables :=
  { t with tokens := t.tokens.push fun id =>
      ⟨id, userId, n.token, n.purpose, n.expiresAt, none, n.issuedAt, n.issuedAt⟩ }

def pushEvent (t : Tables) (userId : Int) (e : NewEvent) (now : Instant) : Tables :=
  { t with outbox := t.outbox.push fun id =>
      ⟨id, userId, e.aggregateType, e.eventType, e.payload, .pending, now, now, none⟩ }

def listUsers (page : Page) (t : Tables) : Outcome (List User × Nat) :=
  let users := t.users.values.mergeSort fun a b => textLe a.username b.username
  (.ok (page.slice users, users.length), t)

def updateProfile (now : Instant) (username : String) (p : Profile) (t : Tables) : Outcome User :=
  match t.userByName? username with
  | none => (.error .userNotFound, t)
  | some u =>
    if t.emailTaken p.email (some u.id) then (.error .userAlreadyExists, t)
    else match t.users.get? u.id with
      | none => (.error .userNotFound, t)
      | some u => (.ok (u.withProfile p now), { t with users := t.users.adjust u.id (User.withProfile p now) })

def updatePassword (userId : Int) (hash : String) (t : Tables) : Outcome Unit :=
  if (t.hashes.lookup userId).isSome then (.ok (), t.setHash userId hash)
  else (.error .userNotFound, t)

/-- The user's password and tokens go with the user; events stay. -/
def deleteUser (username : String) (t : Tables) : Outcome Unit :=
  match t.userByName? username with
  | none => (.error .userNotFound, t)
  | some u =>
    (.ok (), { t with
      users := t.users.erase u.id
      hashes := t.hashes.filter fun (id, _) => id ≠ u.id
      tokens := t.tokens.keep fun token => token.userId ≠ u.id })

def create (n : NewUser) (hash : String) (token : NewToken) (event : NewEvent) (t : Tables) : Outcome User :=
  if (t.userByName? n.username).isSome || t.emailTaken n.profile.email none then
    (.error .userAlreadyExists, t)
  else
    let now := token.issuedAt
    let id := t.users.next
    let t := { t with users := t.users.push (User.fresh n now) }
    (.ok (User.fresh n now id), ((t.setHash id hash).pushToken id token).pushEvent id event now)

def rotate (userId : Int) (token : NewToken) (event : NewEvent) (t : Tables) : Outcome Unit :=
  if t.users.has userId then
    let now := token.issuedAt
    let t := { t with tokens := t.tokens.map fun old =>
      if old.userId = userId && old.isActive now then old.spend now else old }
    (.ok (), (t.pushToken userId token).pushEvent userId event now)
  else (.error .userNotFound, t)

def findToken (token : String) (t : Tables) : Outcome (Option (VerificationToken × User)) :=
  match t.tokens.find? fun row => row.token = token with
  | none => (.ok none, t)
  | some found => (.ok ((t.users.get? found.userId).map fun u => (found, u)), t)

def latest? : List VerificationToken → Option VerificationToken
  | [] => none
  | t :: ts => some (ts.foldl VerificationToken.later t)

def latestToken (userId : Int) (t : Tables) : Outcome (Option VerificationToken) :=
  (.ok (latest? (t.tokens.values.filter fun token => token.userId = userId)), t)

def verifyWithToken (tokenId userId : Int) (now : Instant) (t : Tables) : Outcome User :=
  match t.users.get? userId with
  | none => (.error .userNotFound, t)
  | some u =>
    match t.tokens.get? tokenId with
    | none => (.error .tokenAlreadyUsed, t)
    | some token =>
      if token.isConsumed then (.error .tokenAlreadyUsed, t)
      else (.ok (u.markVerified now), { t with
        tokens := t.tokens.adjust tokenId (·.spend now)
        users := t.users.adjust userId (User.markVerified now) })

def updateStatus (now : Instant) (id : Int) (status : OutboxStatus) (t : Tables) : Outcome Bool :=
  match t.outbox.get? id with
  | none => (.error .outboxEventNotFound, t)
  | some event =>
    if event.status.canBecome status then
      (.ok true, { t with outbox := t.outbox.adjust id fun e => { e with
        status
        updatedAt := now
        processedAt := if status = .processed then some now else e.processedAt } })
    else (.ok false, t)

def answer (now : Instant) : (c : StoreCall) → Tables → c.Reply × Tables
  | .ping, t => (.ok (), t)
  | .getUser username, t => (.ok (t.userByName? username), t)
  | .getUserByEmail email, t => (.ok (t.users.find? fun u => u.email = email), t)
  | .getCredentials userId, t => (.ok ((t.hashes.lookup userId).map fun hash => ⟨userId, hash⟩), t)
  | .listUsers page, t => listUsers page t
  | .updateProfile username p, t => updateProfile now username p t
  | .updatePassword userId hash, t => updatePassword userId hash t
  | .deleteUser username, t => deleteUser username t
  | .create user hash token event, t => create user hash token event t
  | .rotate userId token event, t => rotate userId token event t
  | .findToken token, t => findToken token t
  | .latestToken userId, t => latestToken userId t
  | .verifyWithToken tokenId userId at_, t => verifyWithToken tokenId userId at_ t
  | .findEvent id, t => (.ok (t.outbox.get? id), t)
  | .updateStatus id status, t => updateStatus now id status t

end Tables
end Accounts
