import Accounts.Store.Call
import Accounts.Store.Table
/-! The store in a database. Purposes and statuses are kept as text, times are compared by the engine, and constraints
are checked by the statements that write. A statement that fails has no effect, and a transaction that fails undoes the
statements before. -/
namespace Accounts
open Time

structure TokenRow where
  id : Int
  userId : Int
  token : String
  purpose : String
  expiresAt : Instant
  consumedAt : Option Instant
  createdAt : Instant
  updatedAt : Instant
  deriving DecidableEq, Repr

/-- Whether an instant comes before another in the order of their texts, in which years beyond 9999 come first and
those before 0 next. -/
def storedBefore (a b : Instant) : Bool := !textLe (storedInstant b) (storedInstant a)

namespace TokenRow

def isActive (before : Instant → Instant → Bool) (t : TokenRow) (now : Instant) : Bool :=
  t.consumedAt.isNone && before now t.expiresAt

def spend (now : Instant) (t : TokenRow) : TokenRow :=
  { t with consumedAt := some now, updatedAt := now }

/-- The later of two rows; of rows made at the same instant, the one with the greater id. -/
def later (before : Instant → Instant → Bool) (a b : TokenRow) : TokenRow :=
  if before a.createdAt b.createdAt || (a.createdAt = b.createdAt && a.id ≤ b.id) then b else a

end TokenRow

structure EventRow where
  id : Int
  aggregateId : Int
  aggregateType : String
  eventType : String
  payload : String
  status : String
  createdAt : Instant
  updatedAt : Instant
  processedAt : Option Instant
  deriving DecidableEq, Repr

/-- The tables; one that does not exist is `none`. -/
structure Database where
  users : Option (Table User)
  hashes : Option (List (Int × String))
  tokens : Option (Table TokenRow)
  outbox : Option (Table EventRow)
  /-- Whether there is a table of the migrations that were applied. -/
  hasHistory : Bool
  /-- Whether the engine takes an instant to be before another one. -/
  before : Instant → Instant → Bool

/-- A database of an engine that keeps times as texts. -/
def Database.empty : Database := ⟨some .empty, some [], some .empty, some .empty, true, storedBefore⟩

/-- A statement that is going to fail. -/
structure Trouble where
  /-- How many statements succeed before it. -/
  after : Nat
  error : ServiceError
  deriving DecidableEq, Repr

structure Connection where
  isOpen : Bool
  trouble : Option Trouble
  data : Database

/-- What statements do: they may fail, and what was written before stays. -/
abbrev Sql := ExceptT ServiceError (StateM Connection)

namespace Sql
variable {α : Type}

/-- One statement. If it fails, it changes nothing. -/
def statement (f : Database → Except ServiceError (α × Database)) : Sql α := fun c =>
  if !c.isOpen then (.error .storageUnavailable, c)
  else match c.trouble with
    | some ⟨0, e⟩ => (.error e, { c with trouble := none })
    | trouble =>
      let c := { c with trouble := trouble.map fun t => { t with after := t.after - 1 } }
      match f c.data with
      | .error e => (.error e, c)
      | .ok (a, data) => (.ok a, { c with data })

def query (f : Database → Except ServiceError α) : Sql α :=
  statement fun d => (f d).map (·, d)

/-- The start or the end of a transaction. -/
def boundary : Sql Unit := query fun _ => .ok ()

/-- All of `body`, or nothing of it. -/
def transaction (body : Sql α) : Sql α := fun c =>
  match (do boundary; let a ← body; boundary; return a : Sql α) c with
  | (.ok a, after) => (.ok a, after)
  | (.error e, after) => (.error e, { after with data := c.data })

end Sql

namespace Database

/-- A table that a statement needs. -/
def need {α : Type} : Option α → Except ServiceError α
  | some a => .ok a
  | none => .error .internal

/-- Whether another row than that of `id` has one of the user's unique values. -/
def clashes (users : Table User) (u : User) : Bool :=
  users.any fun other => other.id ≠ u.id && (other.username = u.username || other.email = u.email)

def selectUser (p : User → Bool) : Sql (Option User) :=
  Sql.query fun d => return (← need d.users).find? p

def selectUserById (id : Int) : Sql (Option User) :=
  Sql.query fun d => return (← need d.users).get? id

def selectHash (userId : Int) : Sql (Option String) :=
  Sql.query fun d => return (← need d.hashes).lookup userId

def countUsers : Sql Nat := Sql.query fun d => return (← need d.users).rows.length

def selectPage (page : Page) : Sql (List User) := Sql.query fun d => do
  let users := (← need d.users).values.mergeSort fun a b => textLe a.username b.username
  return page.slice users

def insertUser (n : NewUser) (now : Instant) : Sql User := Sql.statement fun d => do
  let users ← need d.users
  let u := User.fresh n now users.next
  if clashes users u then throw .userAlreadyExists
  return (u, { d with users := some (users.push (User.fresh n now)) })

/-- Writes a row read before. -/
def updateUser (u : User) : Sql User := Sql.statement fun d => do
  let users ← need d.users
  if !users.has u.id then throw .internal
  if clashes users u then throw .userAlreadyExists
  return (u, { d with users := some (users.adjust u.id fun _ => u) })

/-- Deletes a user with the password and the tokens; answers how many users there were. -/
def removeUser (username : String) : Sql Nat := Sql.statement fun d => do
  let users ← need d.users
  let gone := users.values.filter fun u => u.username = username
  let isGone (id : Int) : Bool := gone.any fun u => u.id = id
  return (gone.length, { d with
    users := some (users.keep fun u => u.username ≠ username)
    hashes := d.hashes.map fun hs => hs.filter fun (id, _) => !isGone id
    tokens := d.tokens.map fun ts => ts.keep fun t => !isGone t.userId })

/-- A row that refers to a user needs that user. -/
def needUser (d : Database) (userId : Int) : Except ServiceError Unit := do
  if !(← need d.users).has userId then throw .internal

def insertHash (userId : Int) (hash : String) : Sql Unit := Sql.statement fun d => do
  let hashes ← need d.hashes
  needUser d userId
  if (hashes.lookup userId).isSome then throw .userAlreadyExists
  return ((), { d with hashes := some (hashes ++ [(userId, hash)]) })

def updateHash (userId : Int) (hash : String) : Sql Nat := Sql.statement fun d => do
  let hashes ← need d.hashes
  if (hashes.lookup userId).isNone then return (0, d)
  let others := hashes.filter fun (id, _) => id ≠ userId
  return (1, { d with hashes := some (others ++ [(userId, hash)]) })

def insertToken (userId : Int) (n : NewToken) : Sql Unit := Sql.statement fun d => do
  let tokens ← need d.tokens
  needUser d userId
  if tokens.any fun t => t.token = n.token then throw .userAlreadyExists
  return ((), { d with tokens := some (tokens.push fun id =>
    ⟨id, userId, n.token, n.purpose.text, n.expiresAt, none, n.issuedAt, n.issuedAt⟩) })

def insertEvent (userId : Int) (e : NewEvent) (now : Instant) : Sql Unit := Sql.statement fun d => do
  let outbox ← need d.outbox
  return ((), { d with outbox := some (outbox.push fun id =>
    ⟨id, userId, e.aggregateType, e.eventType, e.payload, OutboxStatus.pending.text, now, now, none⟩) })

def spendActiveTokens (userId : Int) (now : Instant) : Sql Unit := Sql.statement fun d => do
  let tokens ← need d.tokens
  return ((), { d with tokens := some (tokens.map fun t =>
    if t.userId = userId && t.isActive d.before now then t.spend now else t) })

/-- Spends a token that was not spent; answers how many there were. -/
def spendToken (id : Int) (now : Instant) : Sql Nat := Sql.statement fun d => do
  let tokens ← need d.tokens
  match tokens.get? id with
  | some t =>
    if t.consumedAt.isSome then return (0, d)
    return (1, { d with tokens := some (tokens.adjust id (·.spend now)) })
  | none => return (0, d)

def selectToken (token : String) : Sql (Option (TokenRow × Option User)) := Sql.query fun d => do
  let tokens ← need d.tokens
  let users ← need d.users
  return (tokens.find? fun t => t.token = token).map fun t => (t, users.get? t.userId)

def selectLatest (userId : Int) : Sql (Option TokenRow) := Sql.query fun d => do
  match (← need d.tokens).values.filter fun t => t.userId = userId with
  | [] => return none
  | t :: ts => return some (ts.foldl (TokenRow.later d.before) t)

def selectEvent (id : Int) : Sql (Option EventRow) :=
  Sql.query fun d => return (← need d.outbox).get? id

/-- Sets the status of a pending event; answers how many there were. -/
def settleEvent (id : Int) (status : OutboxStatus) (now : Instant) : Sql Nat := Sql.statement fun d => do
  let outbox ← need d.outbox
  match outbox.get? id with
  | some e =>
    if e.status ≠ OutboxStatus.pending.text then return (0, d)
    return (1, { d with outbox := some (outbox.adjust id fun e => { e with
      status := status.text
      updatedAt := now
      processedAt := if status = .processed then some now else e.processedAt }) })
  | none => return (0, d)

/-- The token that a row stands for, if its purpose is a known one. -/
def tokenOfRow (t : TokenRow) : Except ServiceError VerificationToken :=
  match Purpose.ofText? t.purpose with
  | some purpose =>
    .ok ⟨t.id, t.userId, t.token, purpose, t.expiresAt, t.consumedAt, t.createdAt, t.updatedAt⟩
  | none => .error .internal

def rowOfToken (t : VerificationToken) : TokenRow :=
  ⟨t.id, t.userId, t.token, t.purpose.text, t.expiresAt, t.consumedAt, t.createdAt, t.updatedAt⟩

theorem tokenOfRow_rowOfToken (t : VerificationToken) : tokenOfRow (rowOfToken t) = .ok t := by
  simp [tokenOfRow, rowOfToken, Purpose.ofText?_text]

def eventOfRow (e : EventRow) : Except ServiceError OutboxEvent :=
  match OutboxStatus.ofText? e.status with
  | some status => .ok ⟨e.id, e.aggregateId, e.aggregateType, e.eventType, e.payload, status, e.createdAt,
      e.updatedAt, e.processedAt⟩
  | none => .error .internal

def rowOfEvent (e : OutboxEvent) : EventRow :=
  ⟨e.id, e.aggregateId, e.aggregateType, e.eventType, e.payload, e.status.text, e.createdAt, e.updatedAt,
    e.processedAt⟩

theorem eventOfRow_rowOfEvent (e : OutboxEvent) : eventOfRow (rowOfEvent e) = .ok e := by
  simp [eventOfRow, rowOfEvent, OutboxStatus.ofText?_text]

def listUsers (page : Page) : Sql (List User × Nat) := do
  let total ← countUsers
  let users ← selectPage page
  return (users, total)

def updateProfile (now : Instant) (username : String) (p : Profile) : Sql User := do
  match ← selectUser fun u => u.username = username with
  | none => throw .userNotFound
  | some u => updateUser (u.withProfile p now)

def updatePassword (userId : Int) (hash : String) : Sql Unit := do
  if (← updateHash userId hash) = 0 then throw .userNotFound

def deleteUser (username : String) : Sql Unit := do
  if (← removeUser username) = 0 then throw .userNotFound

def create (n : NewUser) (hash : String) (token : NewToken) (event : NewEvent) : Sql User :=
  Sql.transaction do
    let u ← insertUser n token.issuedAt
    insertHash u.id hash
    insertToken u.id token
    insertEvent u.id event token.issuedAt
    return u

def rotate (userId : Int) (token : NewToken) (event : NewEvent) : Sql Unit :=
  Sql.transaction do
    if (← selectUserById userId).isNone then throw .userNotFound
    spendActiveTokens userId token.issuedAt
    insertToken userId token
    insertEvent userId event token.issuedAt

def findToken (token : String) : Sql (Option (VerificationToken × User)) := do
  match ← selectToken token with
  | some (row, some u) => return some (← tokenOfRow row, u)
  | _ => return none

def latestToken (userId : Int) : Sql (Option VerificationToken) := do
  match ← selectLatest userId with
  | some row => return some (← tokenOfRow row)
  | none => return none

def verifyWithToken (tokenId userId : Int) (now : Instant) : Sql User :=
  Sql.transaction do
    if (← spendToken tokenId now) = 0 then throw .tokenAlreadyUsed
    match ← selectUserById userId with
    | none => throw .userNotFound
    | some u => updateUser (u.markVerified now)

def findEvent (id : Int) : Sql (Option OutboxEvent) := do
  match ← selectEvent id with
  | some row => return some (← eventOfRow row)
  | none => return none

def updateStatus (now : Instant) (id : Int) (status : OutboxStatus) : Sql Bool := do
  if 0 < (← settleEvent id status now) then return true
  match ← findEvent id with
  | some _ => return false
  | none => throw .outboxEventNotFound

def answer (now : Instant) : (c : StoreCall) → Sql c.Answer
  | .ping => Sql.query fun _ => .ok ()
  | .getUser username => selectUser fun u => u.username = username
  | .getUserByEmail email => selectUser fun u => u.email = email
  | .getCredentials userId => return (← selectHash userId).map fun hash => ⟨userId, hash⟩
  | .listUsers page => listUsers page
  | .updateProfile username p => updateProfile now username p
  | .updatePassword userId hash => updatePassword userId hash
  | .deleteUser username => deleteUser username
  | .create user hash token event => create user hash token event
  | .rotate userId token event => rotate userId token event
  | .findToken token => findToken token
  | .latestToken userId => latestToken userId
  | .verifyWithToken tokenId userId at_ => verifyWithToken tokenId userId at_
  | .findEvent id => findEvent id
  | .updateStatus id status => updateStatus now id status

end Database
end Accounts
