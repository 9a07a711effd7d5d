import Accounts.Proofs.Store.Consistency
import Accounts.Proofs.Store.Undone
/-! The two kinds of store side by side. Main statement: a call that fits the tables is answered in memory as in a
database that holds the same rows, and afterwards they hold the same rows again. -/
namespace Accounts
open Time

/-- The same database, of an engine that compares times as instants. -/
def Database.byInstant (d : Database) : Database := { d with before := fun a b => a < b }

/-- What the constraints on users ask for: each row names its key, and names and addresses are unique. -/
structure Tables.UniqueUsers (t : Tables) : Prop where
  users : t.users.Sound User.id
  usernames : (t.users.values.map User.username).Nodup
  emails : (t.users.values.map User.email).Nodup

theorem Tables.Consistent.uniqueUsers {t : Tables} (h : t.Consistent) : t.UniqueUsers :=
  ⟨h.users, h.usernames, h.emails⟩

/-- A database that holds these tables. -/
def Tables.stored (t : Tables) : Database :=
  { Database.empty.byInstant with
    users := some t.users
    hashes := some t.hashes
    tokens := some (t.tokens.map Database.rowOfToken)
    outbox := some (t.outbox.map Database.rowOfEvent) }

namespace Sql
variable {α β : Type} {d d' d'' : Database}

/-- What a body comes to where no statement is going to fail. -/
def Yields (body : Sql α) (d : Database) (r : Except ServiceError α) (d' : Database) : Prop :=
  body ⟨true, none, d⟩ = (r, ⟨true, none, d'⟩)

theorem yields_pure (a : α) (d : Database) : Yields (pure a) d (.ok a) d := rfl

theorem yields_throw (e : ServiceError) (d : Database) : Yields (throw e : Sql α) d (.error e) d := rfl

theorem yields_statement {f : Database → Except ServiceError (α × Database)} {a : α} (done : f d = .ok (a, d')) :
    Yields (statement f) d (.ok a) d' := by
  simp [Yields, statement, done]

theorem yields_refused {f : Database → Except ServiceError (α × Database)} {e : ServiceError}
    (refused : f d = .error e) : Yields (statement f) d (.error e) d := by
  simp [Yields, statement, refused]

theorem yields_query {f : Database → Except ServiceError α} {a : α} (read : f d = .ok a) :
    Yields (query f) d (.ok a) d := by
  refine yields_statement ?_
  rw [read]
  rfl

theorem Yields.bind {a : Sql α} {f : α → Sql β} {x : α} {r : Except ServiceError β} (first : Yields a d (.ok x) d')
    (next : Yields (f x) d' r d'') : Yields (a >>= f) d r d'' := by
  rw [Yields, bind_run, show a ⟨true, none, d⟩ = _ from first]
  exact next

theorem Yields.bind_error {a : Sql α} {e : ServiceError} (first : Yields a d (.error e) d') (f : α → Sql β) :
    Yields (a >>= f) d (.error e) d' := by
  rw [Yields, bind_run, show a ⟨true, none, d⟩ = _ from first]

theorem yields_boundary (d : Database) : Yields boundary d (.ok ()) d := yields_query rfl

theorem Yields.transaction {body : Sql α} {a : α} (h : Yields body d (.ok a) d') :
    Yields (transaction body) d (.ok a) d' := by
  have whole : Yields (do boundary; let a ← body; boundary; return a : Sql α) d (.ok a) d' :=
    (yields_boundary d).bind (h.bind ((yields_boundary d').bind (yields_pure a d')))
  rw [Yields, Sql.transaction, show _ = _ from whole]

theorem Yields.rollback {body : Sql α} {e : ServiceError} (h : Yields body d (.error e) d') :
    Yields (Sql.transaction body) d (.error e) d := by
  have whole : Yields (do boundary; let a ← body; boundary; return a : Sql α) d (.error e) d' :=
    (yields_boundary d).bind (h.bind_error _)
  rw [Yields, Sql.transaction, show _ = _ from whole]

end Sql

namespace Database
open Sql
variable {t : Tables}

/-! ### Statements on the rows of tables -/

theorem selectUser_yields (p : User → Bool) : Yields (selectUser p) t.stored (.ok (t.users.find? p)) t.stored :=
  yields_query rfl

theorem selectUserById_yields (id : Int) : Yields (selectUserById id) t.stored (.ok (t.users.get? id)) t.stored :=
  yields_query rfl

theorem insertUser_yields {n : NewUser} {now : Instant}
    (free : clashes t.users (User.fresh n now t.users.next) = false) :
    Yields (insertUser n now) t.stored (.ok (User.fresh n now t.users.next))
      { t with users := t.users.push (User.fresh n now) : Tables }.stored :=
  yields_statement ((if_neg (by simp [free])).trans rfl)

theorem insertUser_refused {n : NewUser} {now : Instant}
    (taken : clashes t.users (User.fresh n now t.users.next) = true) :
    Yields (insertUser n now) t.stored (.error .userAlreadyExists) t.stored :=
  yields_refused ((if_pos taken).trans rfl)

theorem updateUser_yields {u : User} (known : t.users.has u.id = true) (free : clashes t.users u = false) :
    Yields (updateUser u) t.stored (.ok u) { t with users := t.users.adjust u.id fun _ => u : Tables }.stored :=
  yields_statement ((if_neg (by simp [known])).trans ((if_neg (by simp [free])).trans rfl))

theorem updateUser_refused {u : User} (known : t.users.has u.id = true) (taken : clashes t.users u = true) :
    Yields (updateUser u) t.stored (.error .userAlreadyExists) t.stored :=
  yields_refused ((if_neg (by simp [known])).trans ((if_pos taken).trans rfl))

theorem needUser_stored {userId : Int} (known : t.users.has userId = true) : needUser t.stored userId = .ok () :=
  (if_neg (by simp [known])).trans rfl

/-- A first password for a user. -/
theorem insertHash_yields {userId : Int} {hash : String} (known : t.users.has userId = true)
    (absent : userId ∉ t.hashes.map (·.1)) :
    Yields (insertHash userId hash) t.stored (.ok ()) (t.setHash userId hash).stored := by
  have unset : t.hashes.lookup userId = none :=
    Option.not_isSome_iff_eq_none.1 fun some => absent (Tables.mem_keys_of_lookup some)
  refine yields_statement ?_
  change (needUser t.stored userId >>= fun _ => _) = _
  rw [needUser_stored known, Tables.setHash, Table.filter_ne_of_notMem absent]
  exact (if_neg (by simp [unset])).trans rfl

theorem updateHash_yields {userId : Int} (hash : String) (set : (t.hashes.lookup userId).isSome = true) :
    Yields (updateHash userId hash) t.stored (.ok 1) (t.setHash userId hash).stored :=
  yields_statement ((if_neg (by simpa using set)).trans rfl)

theorem updateHash_none {userId : Int} (hash : String) (unset : t.hashes.lookup userId = none) :
    Yields (updateHash userId hash) t.stored (.ok 0) t.stored :=
  yields_statement ((if_pos (by simp [unset])).trans rfl)

theorem stored_pushToken (t : Tables) (userId : Int) (n : NewToken) : (t.pushToken userId n).stored =
    { t.stored with tokens := some ((t.tokens.map rowOfToken).push fun id =>
        ⟨id, userId, n.token, n.purpose.text, n.expiresAt, none, n.issuedAt, n.issuedAt⟩) } := by
  simp only [Tables.stored, Tables.pushToken, Table.map_push, rowOfToken]

theorem insertToken_yields {userId : Int} {n : NewToken} (known : t.users.has userId = true)
    (fresh : ∀ row ∈ t.tokens.values, row.token ≠ n.token) :
    Yields (insertToken userId n) t.stored (.ok ()) (t.pushToken userId n).stored := by
  have free : ¬((t.tokens.map rowOfToken).any fun row => row.token = n.token) = true := by
    rw [Table.any_map, Table.any, List.any_eq_true]
    rintro ⟨row, mem, same⟩
    exact fresh row mem (of_decide_eq_true same)
  refine yields_statement ?_
  change (needUser t.stored userId >>= fun _ => _) = _
  rw [needUser_stored known, stored_pushToken]
  exact (if_neg free).trans rfl

theorem stored_pushEvent (t : Tables) (userId : Int) (e : NewEvent) (now : Instant) :
    (t.pushEvent userId e now).stored = { t.stored with outbox := some ((t.outbox.map rowOfEvent).push fun id =>
      ⟨id, userId, e.aggregateType, e.eventType, e.payload, OutboxStatus.pending.text, now, now, none⟩) } := by
  simp only [Tables.stored, Tables.pushEvent, Table.map_push, rowOfEvent]

theorem insertEvent_yields (userId : Int) (e : NewEvent) (now : Instant) :
    Yields (insertEvent userId e now) t.stored (.ok ()) (t.pushEvent userId e now).stored := by
  refine yields_statement ?_
  rw [stored_pushEvent]
  rfl

/-- A row once another token is issued. -/
def supersede (userId : Int) (now : Instant) (row : TokenRow) : TokenRow :=
  if row.userId = userId && row.isActive (fun a b => a < b) now then row.spend now else row

theorem rowOfToken_supersede (userId : Int) (now : Instant) (token : VerificationToken) :
    rowOfToken (token.supersede userId now) = supersede userId now (rowOfToken token) := by
  have same : (rowOfToken token).isActive (fun a b => a < b) now = token.isActive now := by
    cases at_ : token.consumedAt <;>
      simp [rowOfToken, TokenRow.isActive, VerificationToken.isActive, VerificationToken.isConsumed, at_]
  rw [supersede, same, VerificationToken.supersede]
  change _ = if token.userId = userId && _ then _ else _
  split <;> rfl

theorem spendActiveTokens_yields (userId : Int) (now : Instant) :
    Yields (spendActiveTokens userId now) t.stored (.ok ())
      { t with tokens := t.tokens.map (VerificationToken.supersede userId now) : Tables }.stored := by
  have rows := t.tokens.map_map (rowOfToken_supersede userId now)
  refine yields_statement ?_
  simp only [Tables.stored, rows]
  rfl

theorem spendToken_yields {id : Int} {now : Instant} {token : VerificationToken} (found : t.tokens.get? id = some token)
    (live : token.isConsumed = false) :
    Yields (spendToken id now) t.stored (.ok 1)
      { t with tokens := t.tokens.adjust id (VerificationToken.spend now) : Tables }.stored := by
  have row : (t.tokens.map rowOfToken).get? id = some (rowOfToken token) := by rw [Table.get?_map, found]; rfl
  have live' : ¬(rowOfToken token).consumedAt.isSome = true := Bool.not_eq_true _ ▸ live
  refine yields_statement ?_
  dsimp only [Tables.stored, need, bind, Except.bind]
  rw [row]
  refine (if_neg live').trans ?_
  have rows : (t.tokens.adjust id (VerificationToken.spend now)).map rowOfToken =
      (t.tokens.map rowOfToken).adjust id (TokenRow.spend now) := t.tokens.map_adjust id fun _ => rfl
  rw [rows]
  rfl

theorem spendToken_none {id : Int} {now : Instant}
    (dead : ∀ token, t.tokens.get? id = some token → token.isConsumed = true) :
    Yields (spendToken id now) t.stored (.ok 0) t.stored := by
  refine yields_statement ?_
  dsimp only [Tables.stored, need, bind, Except.bind]
  rw [Table.get?_map]
  cases found : t.tokens.get? id with
  | none => rfl
  | some token => exact (if_pos (dead token found)).trans rfl

theorem settleEvent_yields {id : Int} {now : Instant} {e : OutboxEvent} (status : OutboxStatus)
    (found : t.outbox.get? id = some e) (pending : e.status = .pending) :
    Yields (settleEvent id status now) t.stored (.ok 1)
      { t with outbox := t.outbox.adjust id (OutboxEvent.settle status now) : Tables }.stored := by
  have row : (t.outbox.map rowOfEvent).get? id = some (rowOfEvent e) := by rw [Table.get?_map, found]; rfl
  have waits : ¬(rowOfEvent e).status ≠ OutboxStatus.pending.text := by simp [rowOfEvent, pending]
  refine yields_statement ?_
  dsimp only [Tables.stored, need, bind, Except.bind]
  rw [row]
  refine (if_neg waits).trans ?_
  have rows : (t.outbox.adjust id (OutboxEvent.settle status now)).map rowOfEvent =
      (t.outbox.map rowOfEvent).adjust id fun e => { e with
        status := status.text
        updatedAt := now
        processedAt := if status = .processed then some now else e.processedAt } := t.outbox.map_adjust id fun _ => rfl
  rw [rows]
  rfl

theorem settleEvent_none {id : Int} {now : Instant} {status : OutboxStatus}
    (settled : ∀ e, t.outbox.get? id = some e → e.status ≠ .pending) :
    Yields (settleEvent id status now) t.stored (.ok 0) t.stored := by
  refine yields_statement ?_
  dsimp only [Tables.stored, need, bind, Except.bind]
  rw [Table.get?_map]
  cases found : t.outbox.get? id with
  | none => rfl
  | some e =>
    have done : (rowOfEvent e).status ≠ OutboxStatus.pending.text := by
      have := settled e found
      cases at_ : e.status <;> simp_all [rowOfEvent, OutboxStatus.text]
    exact (if_pos done).trans rfl

theorem removeUser_yields (consistent : t.Consistent) {username : String} {u : User}
    (named : t.userByName? username = some u) :
    Yields (removeUser username) t.stored (.ok 1) { t with
      users := t.users.erase u.id
      hashes := t.hashes.filter fun (id, _) => id ≠ u.id
      tokens := t.tokens.keep fun token => token.userId ≠ u.id : Tables }.stored := by
  have mem : u ∈ t.users.values := List.mem_of_find?_eq_some named
  obtain rfl : u.username = username := by simpa using List.find?_some named
  have gone := Table.filter_eq_singleton consistent.usernames mem
  have erased : (t.users.keep fun v => v.username ≠ u.username) = t.users.erase u.id := by
    simp only [Table.keep, Table.erase, Table.mk.injEq, true_and]
    refine List.filter_congr fun row stored => ?_
    have named := consistent.users.named row stored
    have inside : row.2 ∈ t.users.values := List.mem_map_of_mem stored
    have same : row.2.username = u.username ↔ row.1 = u.id := by
      rw [← named]
      constructor
      · exact fun same => congrArg User.id (List.inj_on_of_nodup_map consistent.usernames inside mem same)
      · exact fun same => congrArg User.username (consistent.users.eq_of_key_eq inside mem same)
    simp [same]
  have tokens : (t.tokens.keep fun token => token.userId ≠ u.id).map rowOfToken =
      (t.tokens.map rowOfToken).keep fun row => row.userId ≠ u.id := t.tokens.map_keep fun _ => rfl
  refine yields_statement ?_
  change Except.ok (_, _) = _
  simp only [gone, erased, Tables.stored, tokens]
  simp [eq_comm]

theorem removeUser_none {username : String} (unnamed : t.userByName? username = none) :
    Yields (removeUser username) t.stored (.ok 0) t.stored := by
  have stays : ∀ u ∈ t.users.values, u.username ≠ username := Tables.username_ne_of_userByName?_eq_none unnamed
  have nobody : (t.users.values.filter fun u => u.username = username) = [] := by simpa using stays
  have kept := t.users.keep_eq_self (p := fun u => u.username ≠ username) (by simpa using stays)
  refine yields_statement ?_
  change Except.ok (_, _) = _
  simp only [nobody, kept]
  simp [Tables.stored, Table.keep]

/-! ### Unique values -/

/-- The constraints see what the checks in memory see: the name of a known user clashes with no one's. -/
theorem clashes_eq (unique : t.UniqueUsers) {u v : User} (mem : u ∈ t.users.values) (id : v.id = u.id)
    (named : v.username = u.username) : clashes t.users v = t.emailTaken v.email (some u.id) := by
  rw [Bool.eq_iff_iff, clashes, Tables.emailTaken, Table.any, Table.any, List.any_eq_true, List.any_eq_true]
  refine exists_congr fun other => and_congr_right fun stored => ?_
  have own : other.username = u.username → other.id = u.id := fun same =>
    congrArg User.id (List.inj_on_of_nodup_map unique.usernames stored mem same)
  simp only [id, named, Bool.and_eq_true, Bool.or_eq_true, decide_eq_true_eq, ne_eq, Option.some.injEq]
  constructor
  · rintro ⟨differs, same | same⟩
    · exact absurd (own same) differs
    · exact ⟨same, differs⟩
  · rintro ⟨same, differs⟩
    exact ⟨differs, .inr same⟩

theorem clashes_fresh (consistent : t.Consistent) (n : NewUser) (now : Instant) :
    clashes t.users (User.fresh n now t.users.next) =
      ((t.userByName? n.username).isSome || t.emailTaken n.profile.email none) := by
  rw [Bool.eq_iff_iff, Bool.or_eq_true, clashes, Tables.emailTaken, Table.any, Table.any, List.any_eq_true,
    List.any_eq_true, Tables.userByName?, Table.find?, List.find?_isSome, ← exists_or]
  refine exists_congr fun other => ?_
  rw [← and_or_left]
  refine and_congr_right fun stored => ?_
  have old : other.id ≠ t.users.next := consistent.users.key_ne_next stored
  have names : (User.fresh n now t.users.next).username = n.username := rfl
  have emails : (User.fresh n now t.users.next).email = n.profile.email := rfl
  have ids : (User.fresh n now t.users.next).id = t.users.next := rfl
  simp [names, emails, ids, old]

/-! ### Calls -/

/-- What a call expects of the tables: a token that is not stored yet, a user for a token that is spent, and an end for
an event that is settled. -/
def Fits (t : Tables) : StoreCall → Prop
  | .create _ _ n _ => ∀ row ∈ t.tokens.values, row.token ≠ n.token
  | .rotate _ n _ => ∀ row ∈ t.tokens.values, row.token ≠ n.token
  | .verifyWithToken _ userId _ => t.users.has userId = true
  | .updateStatus _ status => status ≠ .pending
  | _ => True

theorem rotate_yields (userId : Int) (token : NewToken) (event : NewEvent)
    (fresh : ∀ row ∈ t.tokens.values, row.token ≠ token.token) :
    Yields (rotate userId token event) t.stored (Tables.rotate userId token event t).1
      (Tables.rotate userId token event t).2.stored := by
  rw [Tables.rotate, Table.has]
  rcases found : t.users.get? userId with _ | u
  · have refused : Yields (rotate userId token event) t.stored (.error .userNotFound) t.stored := by
      have missing := selectUserById_yields (t := t) userId
      rw [found] at missing
      exact Yields.rollback (missing.bind (yields_throw _ _))
    exact refused
  · have known : t.users.has userId = true := by rw [Table.has, found]; rfl
    let spent : Tables := { t with tokens := t.tokens.map (VerificationToken.supersede userId token.issuedAt) }
    have fresh' : ∀ row ∈ spent.tokens.values, row.token ≠ token.token := by
      intro row mem
      rw [Table.values_map] at mem
      obtain ⟨old, stored, rfl⟩ := List.mem_map.1 mem
      have same : (old.supersede userId token.issuedAt).token = old.token := by
        rw [VerificationToken.supersede]
        split <;> rfl
      exact same ▸ fresh old stored
    refine Yields.transaction ((selectUserById_yields userId).bind ?_)
    rw [found]
    refine (spendActiveTokens_yields userId token.issuedAt).bind ?_
    refine (insertToken_yields (t := spent) known fresh').bind ?_
    exact insertEvent_yields _ _ _

theorem updatePassword_yields (userId : Int) (hash : String) :
    Yields (updatePassword userId hash) t.stored (Tables.updatePassword userId hash t).1
      (Tables.updatePassword userId hash t).2.stored := by
  rw [Tables.updatePassword]
  rcases set : t.hashes.lookup userId with _ | old
  · exact (updateHash_none hash set).bind (yields_throw _ _)
  · exact (updateHash_yields hash (by rw [set]; rfl)).bind (yields_pure _ _)

theorem listUsers_yields (page : Page) :
    Yields (listUsers page) t.stored (Tables.listUsers page t).1 (Tables.listUsers page t).2.stored := by
  have total : t.users.rows.length = (t.users.values.mergeSort fun a b => textLe a.username b.username).length := by
    rw [List.length_mergeSort, Table.values, List.length_map]
  rw [Tables.listUsers, ← total]
  have counted : Yields countUsers t.stored (.ok t.users.rows.length) t.stored := yields_query rfl
  have read : Yields (selectPage page) t.stored
      (.ok (page.slice (t.users.values.mergeSort fun a b => textLe a.username b.username))) t.stored := yields_query rfl
  exact counted.bind (read.bind (yields_pure _ _))

theorem findEvent_yields (id : Int) : Yields (findEvent id) t.stored (.ok (t.outbox.get? id)) t.stored := by
  refine Yields.bind (yields_query rfl) ?_
  rw [show (t.outbox.map rowOfEvent).get? id = _ from t.outbox.get?_map rowOfEvent id]
  cases t.outbox.get? id with
  | none => exact yields_pure _ _
  | some e =>
    change Yields (liftM (eventOfRow (rowOfEvent e)) >>= fun e => pure (some e)) _ _ _
    rw [eventOfRow_rowOfEvent]
    exact yields_pure _ _

theorem findToken_yields (text : String) :
    Yields (findToken text) t.stored (Tables.findToken text t).1 (Tables.findToken text t).2.stored := by
  have read : Yields (selectToken text) t.stored
      (.ok (((t.tokens.find? fun row => row.token = text).map rowOfToken).map fun row =>
        (row, t.users.get? row.userId))) t.stored := by
    have rows : (t.tokens.map rowOfToken).find? (fun row => row.token = text) =
        (t.tokens.find? fun row => row.token = text).map rowOfToken := t.tokens.find?_map rowOfToken _
    rw [← rows]
    exact yields_query rfl
  refine read.bind ?_
  rw [Tables.findToken]
  cases found : t.tokens.find? fun row => row.token = text with
  | none => exact yields_pure _ _
  | some token =>
    cases owner : t.users.get? token.userId with
    | none =>
      simp only [Option.map_some, show (rowOfToken token).userId = token.userId from rfl, owner]
      exact yields_pure _ _
    | some u =>
      simp only [Option.map_some, show (rowOfToken token).userId = token.userId from rfl, owner]
      rw [tokenOfRow_rowOfToken]
      exact yields_pure _ _

theorem rowOfToken_later (a b : VerificationToken) :
    TokenRow.later (fun a b => a < b) (rowOfToken a) (rowOfToken b) = rowOfToken (a.later b) := by
  rw [TokenRow.later, VerificationToken.later]
  change (if a.createdAt < b.createdAt || a.createdAt = b.createdAt && a.id ≤ b.id then _ else _) = _
  split <;> rfl

theorem latestToken_yields (userId : Int) :
    Yields (latestToken userId) t.stored (Tables.latestToken userId t).1 (Tables.latestToken userId t).2.stored := by
  have rows : ((t.tokens.map rowOfToken).values.filter fun row => row.userId = userId) =
      (t.tokens.values.filter fun token => token.userId = userId).map rowOfToken := by
    rw [Table.values_map, List.filter_map]
    rfl
  have read : Yields (selectLatest userId) t.stored
      (.ok ((Tables.latest? (t.tokens.values.filter fun token => token.userId = userId)).map rowOfToken)) t.stored := by
    refine yields_query ?_
    dsimp only [Tables.stored, need, bind, Except.bind]
    rw [rows]
    cases t.tokens.values.filter fun token => token.userId = userId with
    | nil => rfl
    | cons token tokens =>
      have folded : (tokens.map rowOfToken).foldl (TokenRow.later fun a b => a < b) (rowOfToken token) =
          rowOfToken (tokens.foldl VerificationToken.later token) := by
        rw [List.foldl_map]
        exact List.foldl_hom rowOfToken fun a b => rowOfToken_later a b
      exact congrArg (fun row => Except.ok (some row)) folded
  refine read.bind ?_
  rw [Tables.latestToken]
  cases Tables.latest? (t.tokens.values.filter fun token => token.userId = userId) with
  | none => exact yields_pure _ _
  | some token =>
    simp only [Option.map_some]
    rw [tokenOfRow_rowOfToken]
    exact yields_pure _ _

theorem updateStatus_yields (now : Instant) {id : Int} {status : OutboxStatus}
    (ends : ∀ e, t.outbox.get? id = some e → e.status = .pending → status ≠ .pending) :
    Yields (updateStatus now id status) t.stored (Tables.updateStatus now id status t).1
      (Tables.updateStatus now id status t).2.stored := by
  rw [Tables.updateStatus]
  rcases found : t.outbox.get? id with _ | e
  · have missed : ∀ e, t.outbox.get? id = some e → e.status ≠ .pending := by simp [found]
    refine (settleEvent_none missed).bind ((findEvent_yields id).bind ?_)
    rw [found]
    exact yields_throw _ _
  · cases can : e.status.canBecome status with
    | true =>
      have pending := (OutboxStatus.canBecome_iff.1 can).1
      simp only [can, if_true]
      exact (settleEvent_yields status found pending).bind (yields_pure _ _)
    | false =>
      have done : ∀ e', t.outbox.get? id = some e' → e'.status ≠ .pending := by
        rintro e' found' pending
        obtain rfl := Option.some.inj (found.symm.trans found')
        rw [OutboxStatus.canBecome_iff.2 ⟨pending, ends e found pending⟩] at can
        cases can
      simp only [can, Bool.false_eq_true, if_false]
      refine (settleEvent_none done).bind ((findEvent_yields id).bind ?_)
      rw [found]
      exact yields_pure _ _

theorem verifyWithToken_spent (tokenId userId : Int) (now : Instant)
    (spent : ∀ token, t.tokens.get? tokenId = some token → token.isConsumed = true) :
    Yields (verifyWithToken tokenId userId now) t.stored (.error .tokenAlreadyUsed) t.stored :=
  Yields.rollback ((spendToken_none spent).bind (yields_throw _ _))

theorem verifyWithToken_yields (unique : t.UniqueUsers) (tokenId : Int) {userId : Int} (now : Instant)
    (known : t.users.has userId = true) :
    Yields (verifyWithToken tokenId userId now) t.stored (Tables.verifyWithToken tokenId userId now t).1
      (Tables.verifyWithToken tokenId userId now t).2.stored := by
  obtain ⟨u, found⟩ := Option.isSome_iff_exists.1 known
  rw [Tables.verifyWithToken, found]
  dsimp only
  cases stored : t.tokens.get? tokenId with
  | none => exact verifyWithToken_spent tokenId userId now (by simp [stored])
  | some token =>
    dsimp only
    cases consumed : token.isConsumed with
    | true =>
      refine verifyWithToken_spent tokenId userId now fun other same => ?_
      exact Option.some.inj (stored.symm.trans same) ▸ consumed
    | false =>
      obtain ⟨mem, rfl⟩ := unique.users.get?_eq_some_iff.1 found
      let spent : Tables := { t with tokens := t.tokens.adjust tokenId (VerificationToken.spend now) }
      have free : clashes spent.users (u.markVerified now) = false := by
        refine (clashes_eq unique mem (v := u.markVerified now) rfl rfl).trans (List.any_eq_false.2 ?_)
        intro other stored
        have own : other.email = u.email → other.id = u.id := fun same =>
          congrArg User.id (List.inj_on_of_nodup_map unique.emails stored mem same)
        have kept : (u.markVerified now).email = u.email := rfl
        simpa [kept] using own
      have rows := unique.users.adjust_congr found (f := fun _ => u.markVerified now) (g := User.markVerified now) rfl
      simp only [Bool.false_eq_true, if_false]
      refine Yields.transaction ((spendToken_yields stored consumed).bind ?_)
      refine (selectUserById_yields (t := spent) u.id).bind ?_
      rw [show spent.users.get? u.id = some u from found, ← rows]
      exact updateUser_yields (t := spent) (u := u.markVerified now) known free

variable (consistent : t.Consistent)
include consistent

theorem updateProfile_yields (now : Instant) (username : String) (p : Profile) :
    Yields (updateProfile now username p) t.stored (Tables.updateProfile now username p t).1
      (Tables.updateProfile now username p t).2.stored := by
  refine (selectUser_yields _).bind ?_
  rw [Tables.updateProfile, Tables.userByName?]
  cases named : t.users.find? fun u => u.username = username with
  | none => exact yields_throw _ _
  | some u =>
    have mem : u ∈ t.users.values := List.mem_of_find?_eq_some named
    have stored : t.users.get? u.id = some u := consistent.users.get?_eq_some_iff.2 ⟨mem, rfl⟩
    have known : t.users.has u.id = true := by rw [Table.has, stored]; rfl
    have checks := clashes_eq consistent.uniqueUsers mem (v := u.withProfile p now) rfl rfl
    dsimp only
    cases taken : t.emailTaken p.email (some u.id) with
    | true => exact updateUser_refused known (checks.trans taken)
    | false =>
      have written := updateUser_yields (u := u.withProfile p now) known (checks.trans taken)
      have rows := consistent.users.adjust_congr stored (f := fun _ => u.withProfile p now) (g := User.withProfile p now) rfl
      simp only [stored, Bool.false_eq_true, if_false]
      rw [← rows]
      exact written

theorem deleteUser_yields (username : String) : Yields (deleteUser username) t.stored (Tables.deleteUser username t).1
    (Tables.deleteUser username t).2.stored := by
  rw [Tables.deleteUser]
  cases named : t.userByName? username with
  | none => exact (removeUser_none named).bind (yields_throw _ _)
  | some u => exact (removeUser_yields consistent named).bind (yields_pure _ _)

theorem create_yields (n : NewUser) (hash : String) (token : NewToken) (event : NewEvent)
    (fresh : ∀ row ∈ t.tokens.values, row.token ≠ token.token) :
    Yields (create n hash token event) t.stored (Tables.create n hash token event t).1
      (Tables.create n hash token event t).2.stored := by
  have checks := clashes_fresh consistent n token.issuedAt
  rw [Tables.create]
  cases taken : (t.userByName? n.username).isSome || t.emailTaken n.profile.email none with
  | true =>
    exact Yields.rollback ((insertUser_refused (checks.trans taken)).bind_error _)
  | false =>
    let added : Tables := { t with users := t.users.push (User.fresh n token.issuedAt) }
    have known : added.users.has t.users.next = true := t.users.has_push_next _
    have absent : t.users.next ∉ t.hashes.map (·.1) := by
      rw [consistent.hashes]
      intro mem
      have := (consistent.users.within _ mem).2
      simp only [Table.next] at this
      omega
    refine Yields.transaction ((insertUser_yields (checks.trans taken)).bind ?_)
    refine (insertHash_yields (t := added) known absent).bind ?_
    refine (insertToken_yields (t := added.setHash t.users.next hash) known fresh).bind ?_
    refine (insertEvent_yields _ _ _).bind ?_
    exact yields_pure _ _

theorem answer_yields (now : Instant) {c : StoreCall} (fits : Fits t c) :
    Yields (answer now c) t.stored (Tables.answer now c t).1 (Tables.answer now c t).2.stored := by
  cases c with
  | ping => exact yields_query rfl
  | getUser username => exact selectUser_yields _
  | getUserByEmail email => exact selectUser_yields _
  | getCredentials userId => exact Yields.bind (yields_query rfl) (yields_pure _ _)
  | listUsers page => exact listUsers_yields page
  | updateProfile username p => exact updateProfile_yields consistent now username p
  | updatePassword userId hash => exact updatePassword_yields userId hash
  | deleteUser username => exact deleteUser_yields consistent username
  | create n hash token event => exact create_yields consistent n hash token event fits
  | rotate userId token event => exact rotate_yields userId token event fits
  | findToken text => exact findToken_yields text
  | latestToken userId => exact latestToken_yields userId
  | verifyWithToken tokenId userId at_ => exact verifyWithToken_yields consistent.uniqueUsers tokenId at_ fits
  | findEvent id => exact findEvent_yields id
  | updateStatus id status => exact updateStatus_yields now fun _ _ _ => fits

end Database
end Accounts
