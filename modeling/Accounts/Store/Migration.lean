import Accounts.Store.Schema
import Accounts.Text.Decimal
/-! Migrations: the steps in which the tables of the database are made, in order, and undone, newest first. -/
namespace Accounts

structure Migration where
  name : String
  tables : List Schema.Relation
  deriving DecidableEq, Repr

namespace Migration

def all : List Migration := [
  ⟨"m20250601_000001_create_users", [Schema.users, Schema.credentials]⟩,
  ⟨"m20250601_000002_create_verification_tokens", [Schema.tokens]⟩,
  ⟨"m20250601_000003_create_outbox_events", [Schema.outbox]⟩]

/-- The table in which the applied migrations are written down. -/
def ledger : String := "seaql_migrations"

/-- How far a database has come. -/
structure Progress where
  applied : List Migration
  pending : List Migration
  deriving DecidableEq, Repr

namespace Progress

def start : Progress := ⟨[], all⟩

def tables (p : Progress) : List Schema.Relation := p.applied.flatMap Migration.tables

end Progress

inductive Command
  /-- Applies pending migrations: all, or so many. -/
  | up (limit : Option Nat)
  /-- Undoes applied migrations: all, or so many. -/
  | down (limit : Option Nat)
  /-- Drops all tables and applies all migrations. -/
  | fresh
  /-- Undoes all migrations and applies all. -/
  | refresh
  | reset
  | status
  deriving DecidableEq, Repr

def upTo {α : Type} (limit : Option Nat) (xs : List α) : List α := xs.take (limit.getD xs.length)

def appliedLines (m : Migration) : List String :=
  ["Applying migration '" ++ m.name ++ "'", "Migration '" ++ m.name ++ "' has been applied"]

def undoneLines (m : Migration) : List String :=
  ["Rolling back migration '" ++ m.name ++ "'", "Migration '" ++ m.name ++ "' has been rollbacked"]

def droppedLines (table : String) : List String :=
  ["Dropping table '" ++ table ++ "'", "Table '" ++ table ++ "' has been dropped"]

/-- A limit as it is told, or `all`. -/
def limitText (limit : Option Nat) (all : String) : String := limit.elim all toString

def up (limit : Option Nat) (p : Progress) : Progress × List String :=
  let now := upTo limit p.pending
  (⟨p.applied ++ now, p.pending.drop now.length⟩,
    ("Applying " ++ limitText limit "all" ++ " pending migrations") ::
    (if p.pending.isEmpty then ["No pending migrations"] else []) ++ now.flatMap appliedLines)

def down (limit : Option Nat) (p : Progress) : Progress × List String :=
  let now := upTo limit p.applied.reverse
  (⟨p.applied.take (p.applied.length - now.length), now.reverse ++ p.pending⟩,
    ("Rolling back " ++ limitText limit "all" ++ " applied migrations") ::
    (if p.applied.isEmpty then ["No applied migrations"] else []) ++ now.flatMap undoneLines)

/-- Drops the ledger and all other tables. -/
def dropAll (p : Progress) : Progress × List String :=
  (.start,
    ["Disabling foreign key check", "Foreign key check disabled"] ++
    (ledger :: p.tables.map Schema.Relation.name).flatMap droppedLines ++
    ["Restoring foreign key check", "Foreign key check restored"])

def status (p : Progress) : Progress × List String :=
  (p,
    "Checking migration status" ::
    p.applied.map (fun m => "Migration '" ++ m.name ++ "'... Applied") ++
    p.pending.map fun m => "Migration '" ++ m.name ++ "'... Pending")

def andThen (f g : Progress → Progress × List String) (p : Progress) : Progress × List String :=
  let (p, first) := f p
  let (p, second) := g p
  (p, first ++ second)

/-- What a command makes of a database, and the lines it prints. -/
def Command.run : Command → Progress → Progress × List String
  | up limit => Migration.up limit
  | down limit => Migration.down limit
  | fresh => andThen dropAll (Migration.up none)
  | refresh => andThen (Migration.down none) (Migration.up none)
  | reset => Migration.down none
  | status => Migration.status

/-- The number that may follow a command. -/
def count? : List String → Option (Option Nat)
  | [] => some none
  | ["-n", n] => (Decimal.natural Decimal.maxU32 n).toOption.map some
  | _ => none

/-- The command that these arguments name. Without any, all pending migrations are applied. -/
def Command.ofArgs? : List String → Option Command
  | [] => some (.up none)
  | "up" :: rest => (count? rest).map .up
  | "down" :: rest => (count? rest).map fun n => .down (some (n.getD 1))
  | ["fresh"] => some .fresh
  | ["refresh"] => some .refresh
  | ["reset"] => some .reset
  | ["status"] => some .status
  | _ => none

end Migration
end Accounts
