/-! The tables of the database as declared: their columns, indexes and references. -/
namespace Accounts.Schema

/-- What a column's values identify. -/
inductive Role
  | plain
  /-- No two rows have the same value. -/
  | unique
  | key
  /-- A key that is handed out in order. -/
  | counter
  deriving DecidableEq, Repr

structure Column where
  name : String
  role : Role
  isRequired : Bool
  /-- The value of a row that gives none, in SQL. -/
  default : Option String
  deriving DecidableEq, Repr

namespace Column

def isKey (c : Column) : Bool := c.role = .key || c.role = .counter

def required (name : String) : Column := ⟨name, .plain, true, none⟩

def optional (name : String) : Column := ⟨name, .plain, false, none⟩

def unique (name : String) : Column := ⟨name, .unique, true, none⟩

def key (name : String) : Column := ⟨name, .key, true, none⟩

def counter (name : String) : Column := ⟨name, .counter, true, none⟩

/-- A required column with a value of its own. -/
def preset (name sql : String) : Column := ⟨name, .plain, true, some sql⟩

def text (name : String) : Column := preset name "''"

def flag (name : String) : Column := preset name "FALSE"

def time (name : String) : Column := preset name "CURRENT_TIMESTAMP"

end Column

structure Index where
  /-- Nothing for one that a column implies. -/
  name : Option String
  isUnique : Bool
  columns : List String
  deriving DecidableEq, Repr

/-- A column that refers to another table. Rows go with the row they refer to. -/
structure Reference where
  column : String
  table : String
  target : String
  deriving DecidableEq, Repr

structure Relation where
  name : String
  columns : List Column
  /-- The indexes that no column implies. -/
  declared : List Index
  references : List Reference
  deriving DecidableEq, Repr

/-- The index that a column implies. A counter needs none. -/
def Column.index? (c : Column) : Option Index :=
  match c.role with
  | .unique => some ⟨none, true, [c.name]⟩
  | .key => some ⟨none, true, [c.name]⟩
  | .plain => none
  | .counter => none

def Index.columnsText (i : Index) : String := ",".intercalate i.columns

def Relation.indexes (r : Relation) : List Index :=
  (r.columns.filterMap Column.index? ++ r.declared).mergeSort fun a b => decide (a.columnsText ≤ b.columnsText)

def users : Relation where
  name := "users"
  columns := [.counter "id", .unique "username", .unique "email", .required "name", .text "document_id",
    .optional "birthday", .flag "gender", .text "permanent_address", .text "phone_number", .flag "verified",
    .optional "verified_at", .time "created_at", .time "updated_at"]
  declared := []
  references := []

def credentials : Relation where
  name := "login_credentials"
  columns := [.key "user_id", .required "password_hash", .time "updated_at"]
  declared := []
  references := [⟨"user_id", "users", "id"⟩]

def tokens : Relation where
  name := "verification_tokens"
  columns := [.counter "id", .required "user_id", .unique "token", .required "purpose", .required "expires_at",
    .optional "consumed_at", .time "created_at", .time "updated_at"]
  declared := [⟨some "idx_verification_tokens_user_id", false, ["user_id", "created_at"]⟩]
  references := [⟨"user_id", "users", "id"⟩]

def outbox : Relation where
  name := "outbox_events"
  columns := [.counter "id", .required "aggregate_id", .required "aggregate_type", .required "event_type",
    .required "payload", .preset "status" "'pending'", .time "created_at", .time "updated_at",
    .optional "processed_at"]
  declared := [⟨some "idx_outbox_events_status", false, ["status"]⟩]
  references := []

end Accounts.Schema
