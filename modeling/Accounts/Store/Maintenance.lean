import Accounts.Store.Database
/-! Changes made to the database by hand, past the checks of the service. They may leave rows that the service
cannot read. -/
namespace Accounts

inductive Maintenance
  | setPurpose (tokenId : Int) (text : String)
  | setStatus (eventId : Int) (text : String)
  | setHash (userId : Int) (text : String)
  | deleteCredentials (userId : Int)
  | deleteEvent (id : Int)
  | drop (table : String)
  deriving DecidableEq, Repr

namespace Maintenance
open Database

/-- One row changed, if it is there, and how many that makes. -/
def setRow {α : Type} (t : Table α) (id : Int) (f : α → α) : Nat × Table α :=
  (if t.has id then 1 else 0, t.adjust id f)

/-- One row removed, if it is there, and how many that makes. -/
def removeRow {α : Type} (t : Table α) (id : Int) : Nat × Table α :=
  (if t.has id then 1 else 0, t.erase id)

/-- A table is dropped with all rows that refer to it. Its name may be in any case. -/
def dropTable (table : String) (d : Database) : Except ServiceError Database := do
  let name := table.map Char.toLower
  if name = "users" then
    let _ ← need d.users
    return { d with users := none, hashes := d.hashes.map fun _ => [], tokens := d.tokens.map fun t => { t with rows := [] } }
  else if name = "login_credentials" then
    let _ ← need d.hashes
    return { d with hashes := none }
  else if name = "verification_tokens" then
    let _ ← need d.tokens
    return { d with tokens := none }
  else if name = "outbox_events" then
    let _ ← need d.outbox
    return { d with outbox := none }
  else if name = "seaql_migrations" && d.hasHistory then
    return { d with hasHistory := false }
  else throw .internal

/-- Makes the change; answers how many rows it is in. -/
def run : Maintenance → Sql Nat
  | setPurpose id text => Sql.statement fun d => do
    let (n, tokens) := setRow (← need d.tokens) id fun t => { t with purpose := text }
    return (n, { d with tokens := some tokens })
  | setStatus id text => Sql.statement fun d => do
    let (n, outbox) := setRow (← need d.outbox) id fun e => { e with status := text }
    return (n, { d with outbox := some outbox })
  | setHash userId text => updateHash userId text
  | deleteCredentials userId => Sql.statement fun d => do
    let hashes ← need d.hashes
    return (if (hashes.lookup userId).isSome then 1 else 0,
      { d with hashes := some (hashes.filter fun (id, _) => id ≠ userId) })
  | deleteEvent id => Sql.statement fun d => do
    let (n, outbox) := removeRow (← need d.outbox) id
    return (n, { d with outbox := some outbox })
  | drop table => Sql.statement fun d => return (0, ← dropTable table d)

def close (c : Connection) : Connection := { c with isOpen := false }

end Maintenance
end Accounts
