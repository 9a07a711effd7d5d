import Accounts.Proofs.Store.Agreement
/-! Writes with more than one guard. In memory the user is looked for before the token, in a database after it, and a
database does not ask what an event is to become. Main statement: for which rows, and for which arguments, the two
stores answer such a write alike. -/
namespace Accounts
open Time

/-- The same rows, where the next key is the next one of another table. -/
def Table.under {α : Type} (t other : Table α) : Table α := { t with last := other.last }

theorem Table.get?_under {α : Type} (t other : Table α) (key : Int) : (t.under other).get? key = t.get? key := rfl

theorem Table.has_under {α : Type} (t other : Table α) (key : Int) : (t.under other).has key = t.has key := rfl

theorem Database.clashes_under (users other : Table User) (u : User) :
    clashes (users.under other) u = clashes users u := rfl

/-- The same rows in another database: it hands out its own keys, and compares times its own way. -/
def Database.under (d engine : Database) : Database :=
  { users := d.users.map fun t => t.under (engine.users.getD .empty)
    hashes := d.hashes
    tokens := d.tokens.map fun t => t.under (engine.tokens.getD .empty)
    outbox := d.outbox.map fun t => t.under (engine.outbox.getD .empty)
    hasHistory := engine.hasHistory
    before := engine.before }

def Connection.under (c : Connection) (engine : Database) : Connection := { c with data := c.data.under engine }

/-! ### What compares no times -/

namespace Sql
variable {α β : Type}

/-- What it does depends on the rows alone. -/
def Blind (body : Sql α) : Prop := ∀ (c : Connection) (engine : Database),
  body (c.under engine) = ((body c).1, (body c).2.under engine)

theorem blind_pure (a : α) : Blind (pure a) := fun _ _ => rfl

theorem blind_throw (e : ServiceError) : Blind (throw e : Sql α) := fun _ _ => rfl

theorem blind_lift (x : Except ServiceError α) : Blind (liftM x : Sql α) := by
  cases x <;> exact fun _ _ => rfl

theorem blind_statement {f : Database → Except ServiceError (α × Database)}
    (rows : ∀ d engine : Database, f (d.under engine) = (f d).map fun out => (out.1, out.2.under engine)) :
    Blind (statement f) := by
  rintro ⟨isOpen, trouble, d⟩ engine
  simp only [statement, Connection.under, rows]
  cases isOpen with
  | false => rfl
  | true =>
    rcases trouble with _ | ⟨_ | n, e⟩
    · cases f d <;> rfl
    · rfl
    · cases f d <;> rfl

theorem blind_query {f : Database → Except ServiceError α}
    (rows : ∀ d engine : Database, f (d.under engine) = f d) : Blind (query f) := by
  refine blind_statement fun d engine => ?_
  rw [rows]
  cases f d <;> rfl

theorem Blind.bind {a : Sql α} {f : α → Sql β} (first : Blind a) (next : ∀ x, Blind (f x)) : Blind (a >>= f) := by
  intro c engine
  rw [bind_run, bind_run, first]
  rcases a c with ⟨e | x, c'⟩
  · rfl
  · exact next x c' engine

theorem Blind.guard {c : Prop} [Decidable c] {e : ServiceError} {k : Sql β} (next : Blind k) :
    Blind (if c then (throw e : Sql α) >>= fun _ => k else k) := by
  split
  · exact (blind_throw e).bind fun _ => next
  · exact next

theorem Blind.transaction {body : Sql α} (h : Blind body) : Blind (transaction body) := by
  have edge : Blind boundary := blind_query fun _ _ => rfl
  have whole : Blind (do boundary; let a ← body; boundary; return a : Sql α) :=
    edge.bind fun _ => h.bind fun _ => edge.bind fun _ => blind_pure _
  intro c engine
  rw [Sql.transaction, whole]
  unfold Sql.transaction
  rcases (do boundary; let a ← body; boundary; return a : Sql α) c with ⟨e | a, c'⟩ <;> rfl

theorem Blind.yields {body : Sql α} {d d' : Database} {r : Except ServiceError α} (h : Blind body)
    (done : Yields body d r d') (engine : Database) : Yields body (d.under engine) r (d'.under engine) := by
  refine (h ⟨true, none, d⟩ engine).trans ?_
  rw [show body ⟨true, none, d⟩ = _ from done]
  rfl

end Sql

namespace Database
open Sql

theorem need_under {α : Type} (t : Option (Table α)) (other : Table α) :
    need (t.map fun t => t.under other) = (need t).map fun t => t.under other := by
  cases t <;> rfl

theorem blind_verifyWithToken (tokenId userId : Int) (now : Instant) : Blind (verifyWithToken tokenId userId now) := by
  have spends : Blind (spendToken tokenId now) := by
    refine blind_statement fun d engine => ?_
    rw [show need (d.under engine).tokens = _ from need_under d.tokens _]
    cases need d.tokens with
    | error e => rfl
    | ok tokens =>
      simp only [bind, Except.bind, Except.map, Table.get?_under]
      split
      · split <;> rfl
      · rfl
  have writes (u : User) : Blind (updateUser u) := by
    refine blind_statement fun d engine => ?_
    rw [show need (d.under engine).users = _ from need_under d.users _]
    cases need d.users with
    | error e => rfl
    | ok users =>
      simp only [bind, Except.bind, Except.map, Table.has_under, clashes_under]
      by_cases known : users.has u.id = true
      · by_cases taken : clashes users u = true <;> simp only [known, taken] <;> rfl
      · simp only [known]
        rfl
  refine Blind.transaction (spends.bind fun n => Blind.guard ((blind_query fun d engine => ?_).bind fun found => ?_))
  · rw [show need (d.under engine).users = _ from need_under d.users _]
    cases need d.users <;> rfl
  · cases found with
    | none => exact blind_throw _
    | some u => exact writes _

theorem blind_updateStatus (now : Instant) (id : Int) (status : OutboxStatus) : Blind (updateStatus now id status) := by
  have settles : Blind (settleEvent id status now) := by
    refine blind_statement fun d engine => ?_
    rw [show need (d.under engine).outbox = _ from need_under d.outbox _]
    cases need d.outbox with
    | error e => rfl
    | ok outbox =>
      simp only [bind, Except.bind, Except.map, Table.get?_under]
      split
      · split <;> rfl
      · rfl
  have reads : Blind (findEvent id) := by
    refine (blind_query fun d engine => ?_).bind fun found => ?_
    · rw [show need (d.under engine).outbox = _ from need_under d.outbox _]
      cases need d.outbox <;> rfl
    · cases found with
      | none => exact blind_pure _
      | some row => exact (blind_lift _).bind fun _ => blind_pure _
  refine settles.bind fun n => ?_
  split
  · exact blind_pure _
  · refine reads.bind fun found => ?_
    cases found with
    | none => exact blind_throw _
    | some event => exact blind_pure _

/-! ### The same rows -/

/-- The database has the rows of these tables, whatever its engine and its next keys. -/
structure Holds (d : Database) (t : Tables) : Prop where
  users : d.users.map Table.rows = some t.users.rows
  hashes : d.hashes = some t.hashes
  tokens : d.tokens.map Table.rows = some (t.tokens.map rowOfToken).rows
  outbox : d.outbox.map Table.rows = some (t.outbox.map rowOfEvent).rows

theorem holds_under (t : Tables) (engine : Database) : (t.stored.under engine).Holds t := ⟨rfl, rfl, rfl, rfl⟩

theorem Holds.under_eq {d : Database} {t : Tables} (h : d.Holds t) : t.stored.under d = d := by
  obtain ⟨users, hashes, tokens, outbox, hasHistory, before⟩ := d
  obtain ⟨hasUsers, rfl, hasTokens, hasOutbox⟩ := h
  obtain ⟨⟨_, _⟩, rfl, rfl⟩ := Option.map_eq_some_iff.1 hasUsers
  obtain ⟨⟨_, _⟩, rfl, rfl⟩ := Option.map_eq_some_iff.1 hasTokens
  obtain ⟨⟨_, _⟩, rfl, rfl⟩ := Option.map_eq_some_iff.1 hasOutbox
  rfl

end Database

/-- The token is stored and not spent. -/
def Tables.IsLive (t : Tables) (tokenId : Int) : Prop :=
  ∃ token, t.tokens.get? tokenId = some token ∧ token.isConsumed = false

def Tables.Awaits (t : Tables) (eventId : Int) : Prop :=
  ∃ event, t.outbox.get? eventId = some event ∧ event.status = .pending

namespace Store
open Sql

/-- A call to tables in memory and to a database has the same answer, and leaves them with the same rows. -/
def AnswersAlike (now : Instant) (c : StoreCall) (t : Tables) (d : Database) : Prop :=
  ∃ r t' d', answer now c (.memory t) = (r, .memory t') ∧
    answer now c (.database ⟨true, none, d⟩) = (r, .database ⟨true, none, d'⟩) ∧ d'.Holds t'

variable {now : Instant} {t : Tables} {d : Database} {c : StoreCall}

theorem answer_database (holds : d.Holds t) (blind : Blind (Database.answer now c)) {r : c.Reply} {d' : Database}
    (yields : Yields (Database.answer now c) t.stored r d') :
    answer now c (.database ⟨true, none, d⟩) = (r, .database ⟨true, none, d'.under d⟩) := by
  have done := blind.yields yields d
  rw [holds.under_eq] at done
  rw [answer, show (Database.answer now c).run.run ⟨true, none, d⟩ = _ from done]

theorem answersAlike (holds : d.Holds t) (blind : Blind (Database.answer now c))
    (yields : Yields (Database.answer now c) t.stored (Tables.answer now c t).1 (Tables.answer now c t).2.stored) :
    AnswersAlike now c t d :=
  ⟨_, _, _, rfl, answer_database holds blind yields, Database.holds_under _ d⟩

/-! ### Verification -/

section
variable {tokenId userId : Int} {at_ : Instant}

theorem verifyWithToken_alike (unique : t.UniqueUsers) (holds : d.Holds t)
    (guarded : t.users.has userId = true ∨ t.IsLive tokenId) :
    AnswersAlike now (.verifyWithToken tokenId userId at_) t d := by
  refine answersAlike holds (Database.blind_verifyWithToken tokenId userId at_) ?_
  by_cases known : t.users.has userId = true
  · exact Database.verifyWithToken_yields unique tokenId at_ known
  -- the token is spent first, and the failed transaction undoes that
  · obtain ⟨token, stored, live⟩ := guarded.resolve_left known
    have absent : t.users.get? userId = none := by simpa [Table.has] using known
    have missing := Database.selectUserById_yields
      (t := { t with tokens := t.tokens.adjust tokenId (VerificationToken.spend at_) }) userId
    rw [show _ = none from absent] at missing
    rw [Tables.answer, Tables.verifyWithToken, absent]
    exact Yields.rollback ((Database.spendToken_yields stored live).bind (missing.bind (yields_throw _ _)))

theorem verifyWithToken_apart (now at_ : Instant) (holds : d.Holds t) (unknown : ¬t.users.has userId = true)
    (spent : ¬t.IsLive tokenId) :
    answer now (.verifyWithToken tokenId userId at_) (.memory t) = (.error .userNotFound, .memory t) ∧
    answer now (.verifyWithToken tokenId userId at_) (.database ⟨true, none, d⟩) =
      (.error .tokenAlreadyUsed, .database ⟨true, none, d⟩) := by
  have absent : t.users.get? userId = none := by simpa [Table.has] using unknown
  have dead : ∀ token, t.tokens.get? tokenId = some token → token.isConsumed = true := fun token stored =>
    Bool.of_not_eq_false fun live => spent ⟨token, stored, live⟩
  constructor
  · simp only [answer, Tables.answer, Tables.verifyWithToken, absent]
  · have blind : Blind (Database.answer now (.verifyWithToken tokenId userId at_)) :=
      Database.blind_verifyWithToken tokenId userId at_
    have refused := answer_database holds blind (Database.verifyWithToken_spent tokenId userId at_ dead)
    rwa [holds.under_eq] at refused

end

/-! ### Settlement -/

section
variable {eventId : Int} {status : OutboxStatus}

theorem updateStatus_alike (holds : d.Holds t) (guarded : t.Awaits eventId → status ≠ .pending) :
    AnswersAlike now (.updateStatus eventId status) t d :=
  answersAlike holds (Database.blind_updateStatus now eventId status)
    (Database.updateStatus_yields now fun event stored pending => guarded ⟨event, stored, pending⟩)

/-- Only a database takes a pending event that is to be pending for a change. -/
theorem updateStatus_apart (now : Instant) (holds : d.Holds t) (awaits : t.Awaits eventId) :
    answer now (.updateStatus eventId .pending) (.memory t) = (.ok false, .memory t) ∧
    ∃ d', answer now (.updateStatus eventId .pending) (.database ⟨true, none, d⟩) =
        (.ok true, .database ⟨true, none, d'⟩) ∧
      d'.Holds { t with outbox := t.outbox.adjust eventId (OutboxEvent.settle .pending now) } := by
  obtain ⟨event, stored, pending⟩ := awaits
  have cannot : event.status.canBecome .pending = false := by simp [OutboxStatus.canBecome, OutboxStatus.isTerminal]
  constructor
  · simp only [answer, Tables.answer, Tables.updateStatus, stored, cannot]
    rfl
  · have settled : Yields (Database.updateStatus now eventId .pending) t.stored (.ok true) _ :=
      (Database.settleEvent_yields .pending stored pending).bind (yields_pure _ _)
    exact ⟨_, answer_database (c := .updateStatus eventId .pending) holds
      (Database.blind_updateStatus now eventId .pending) settled, Database.holds_under _ d⟩

end

theorem not_verifyWithToken_alike (holds : d.Holds t) {tokenId userId : Int} {at_ : Instant}
    (unguarded : ¬(t.users.has userId = true ∨ t.IsLive tokenId)) :
    ¬AnswersAlike now (.verifyWithToken tokenId userId at_) t d := by
  rintro ⟨r, t', d', first, second, -⟩
  obtain ⟨unknown, spent⟩ := not_or.1 unguarded
  obtain ⟨inMemory, inDatabase⟩ := verifyWithToken_apart now at_ holds unknown spent
  have missed := congrArg Prod.fst (inMemory.symm.trans first)
  have used := congrArg Prod.fst (inDatabase.symm.trans second)
  cases missed.trans used.symm

theorem not_updateStatus_alike (holds : d.Holds t) {eventId : Int} (awaits : t.Awaits eventId) :
    ¬AnswersAlike now (.updateStatus eventId .pending) t d := by
  rintro ⟨r, t', d', first, second, -⟩
  obtain ⟨inMemory, d'', inDatabase, -⟩ := updateStatus_apart now holds awaits
  have unchanged := congrArg Prod.fst (inMemory.symm.trans first)
  have changed := congrArg Prod.fst (inDatabase.symm.trans second)
  cases unchanged.trans changed.symm

/-- In memory and in any database with the same rows: a verification has the same outcome if there is the user or a
live token; else the one misses the user and the other the token, and both stay as they are. A settlement has the same
outcome unless a pending event is to be pending; then the database says that it changed, and its row has a new
time. -/
theorem guarded_writes_alike_iff (t : Tables) (d : Database) (unique : t.UniqueUsers) (holds : d.Holds t)
    (now : Instant) :
    (∀ tokenId userId at_,
      (AnswersAlike now (.verifyWithToken tokenId userId at_) t d ↔
        t.users.has userId = true ∨ t.IsLive tokenId) ∧
      (¬(t.users.has userId = true ∨ t.IsLive tokenId) →
        answer now (.verifyWithToken tokenId userId at_) (.memory t) = (.error .userNotFound, .memory t) ∧
        answer now (.verifyWithToken tokenId userId at_) (.database ⟨true, none, d⟩) =
          (.error .tokenAlreadyUsed, .database ⟨true, none, d⟩))) ∧
    ∀ eventId status,
      (AnswersAlike now (.updateStatus eventId status) t d ↔ ¬(t.Awaits eventId ∧ status = .pending)) ∧
      (t.Awaits eventId →
        answer now (.updateStatus eventId .pending) (.memory t) = (.ok false, .memory t) ∧
        ∃ d', answer now (.updateStatus eventId .pending) (.database ⟨true, none, d⟩) =
            (.ok true, .database ⟨true, none, d'⟩) ∧
          d'.Holds { t with outbox := t.outbox.adjust eventId (OutboxEvent.settle .pending now) }) := by
  constructor
  · intro tokenId userId at_
    refine ⟨⟨fun alike => ?_, verifyWithToken_alike unique holds⟩, fun unguarded => ?_⟩
    · by_contra unguarded
      exact not_verifyWithToken_alike holds unguarded alike
    · obtain ⟨unknown, spent⟩ := not_or.1 unguarded
      exact verifyWithToken_apart now at_ holds unknown spent
  · intro eventId status
    refine ⟨⟨?_, fun guarded => updateStatus_alike holds fun awaits pending => guarded ⟨awaits, pending⟩⟩,
      updateStatus_apart now holds⟩
    rintro alike ⟨awaits, rfl⟩
    exact not_updateStatus_alike holds awaits alike

namespace Sample

/-- Ann has signed up. -/
def joined : Tables := Tables.after
  [(1000000, .create ⟨"ann", ⟨"ann@x", "Ann", "", none, false, "", ""⟩⟩ "hash" ⟨"first", .register, 1000000, 2000000⟩
    ⟨"user", "user.registered", ""⟩)] .empty

/-- She has left again. -/
def left : Tables := Tables.after
  [(1000000, .create ⟨"ann", ⟨"ann@x", "Ann", "", none, false, "", ""⟩⟩ "hash" ⟨"first", .register, 1000000, 2000000⟩
    ⟨"user", "user.registered", ""⟩), (1000000, .deleteUser "ann")] .empty

theorem joined_uniqueUsers : joined.UniqueUsers := (Tables.consistent_after _).uniqueUsers

theorem left_uniqueUsers : left.UniqueUsers := (Tables.consistent_after _).uniqueUsers

theorem joined_awaits : joined.Awaits 1 := ⟨_, rfl, rfl⟩

theorem left_unguarded : ¬(left.users.has 1 = true ∨ left.IsLive 1) := by
  rintro (known | ⟨token, stored, -⟩)
  · cases known
  · cases stored

end Sample

theorem guarded_writes_alike_iff_joined : Sample.joined.UniqueUsers ∧
    (Sample.joined.stored.under .empty).Holds Sample.joined ∧
    AnswersAlike 1500000 (.verifyWithToken 1 1 1500000) Sample.joined (Sample.joined.stored.under .empty) ∧
    ¬AnswersAlike 1500000 (.updateStatus 1 .pending) Sample.joined (Sample.joined.stored.under .empty) := by
  have holds := Database.holds_under Sample.joined .empty
  obtain ⟨verifies, settles⟩ := guarded_writes_alike_iff Sample.joined _ Sample.joined_uniqueUsers holds 1500000
  exact ⟨Sample.joined_uniqueUsers, holds, (verifies 1 1 1500000).1.2 (.inl rfl),
    fun alike => (settles 1 .pending).1.1 alike ⟨Sample.joined_awaits, rfl⟩⟩

/-- After she has left, her token verifies no one, for another reason each time. While her first letter is to be sent,
it can be made pending again in a database alone. -/
theorem guarded_writes_differ :
    (Sample.left.UniqueUsers ∧ (Sample.left.stored.under .empty).Holds Sample.left ∧
      ¬AnswersAlike 1500000 (.verifyWithToken 1 1 1500000) Sample.left (Sample.left.stored.under .empty)) ∧
    Sample.joined.UniqueUsers ∧ (Sample.joined.stored.under .empty).Holds Sample.joined ∧
      ¬AnswersAlike 1500000 (.updateStatus 1 .pending) Sample.joined (Sample.joined.stored.under .empty) := by
  have inLeft := Database.holds_under Sample.left .empty
  have inJoined := Database.holds_under Sample.joined .empty
  exact ⟨⟨Sample.left_uniqueUsers, inLeft, not_verifyWithToken_alike inLeft Sample.left_unguarded⟩,
    Sample.joined_uniqueUsers, inJoined, not_updateStatus_alike inJoined Sample.joined_awaits⟩

end Store
end Accounts
