import Accounts.Store
/-! All that a store holds, in a form that does not depend on the backend: users by name, with their passwords,
and the rows of tokens and events by their ids. -/
namespace Accounts

structure Listing where
  users : List User
  /-- The password hash of each user in turn, if there is one. -/
  hashes : List (Int × Option String)
  tokens : List TokenRow
  outbox : List EventRow
  deriving DecidableEq, Repr

namespace Listing

def byName (users : List User) : List User :=
  users.mergeSort fun a b => textLe a.username b.username

def hashesOf (users : List User) (hashes : List (Int × String)) : List (Int × Option String) :=
  users.map fun u => (u.id, hashes.lookup u.id)

end Listing

def Tables.listing (t : Tables) : Listing :=
  let users := Listing.byName t.users.values
  ⟨users, Listing.hashesOf users t.hashes,
    (t.tokens.values.filter fun token => t.users.has token.userId).map Database.rowOfToken,
    t.outbox.values.map Database.rowOfEvent⟩

namespace Database

/-- Fails if a table is missing; that of the passwords is needed only if there are users. -/
def listing : Sql Listing := Sql.query fun d => do
  let users := Listing.byName (← need d.users).values
  let hashes ← if users.isEmpty then pure [] else need d.hashes
  return ⟨users, Listing.hashesOf users hashes, (← need d.tokens).values, (← need d.outbox).values⟩

/-- What a user has under the references of the schema. -/
structure Belongings where
  username : String
  hasPassword : Bool
  tokenIds : List Int
  deriving DecidableEq, Repr

/-- The belongings of all users, by id. Each user's are looked up in turn. -/
def belongings : Sql (List Belongings) := Sql.query fun d => do
  (← need d.users).values.mapM fun u => do
    let hashes ← need d.hashes
    let tokens ← need d.tokens
    return ⟨u.username, (hashes.lookup u.id).isSome, (tokens.values.filter fun t => t.userId = u.id).map (·.id)⟩

end Database

/-- The listing, unless the store cannot be read. -/
def Store.listing : Store → Except ServiceError Listing
  | .memory t => .ok t.listing
  | .database c => (Database.listing.run.run c).1

end Accounts
