import Accounts.Proofs.Relay.Announcement
import Accounts.Proofs.Run.History
/-! Tokens that were issued over a history, in their order. Main statement: tokens and events come in pairs, one pair
for each registration and each resending that succeeds, and nothing else writes either of them. -/
namespace Accounts
open Time

/-- A token that was issued to a user, with the address that it was sent to. -/
structure Issue where
  userId : Int
  email : String
  token : NewToken

def Issue.event (i : Issue) : NewEvent :=
  .verification ⟨i.email, i.token.token, i.token.purpose.text⟩ i.token.purpose

/-- What a use case has issued, by its answer and by the tables before it. -/
def UseCase.issue? (now : Instant) (t : Tables) : (u : UseCase) → Except ServiceError u.Answer → Option Issue
  | .register ttl _ token _, .ok user =>
    some ⟨user.id, user.email, (Action.issueToken user.email token.text .register now ttl).1⟩
  | .resend ttl _ token email, .ok _ => (t.users.find? fun u => u.email = email).map fun user =>
    ⟨user.id, user.email, (Action.issueToken user.email token.text .resend now ttl).1⟩
  | _, _ => none

namespace Task

def issue? (now : Instant) (t : Tables) : (k : Task) → k.Result → Option Issue
  | useCase u, result => u.issue? now t result
  | handle _, _ => none

def succeeded : (k : Task) → k.Result → Bool
  | useCase _, result => result.isOk
  | handle _, result => result.isOk

end Task

namespace Execution
variable (issuer : Issuer) (e : Execution) (w : World)

def issue? : Option Issue := e.task.issue? e.now w.tables (e.result issuer w)

/-- It is a registration or the resending of a token, and it succeeds. -/
def issues : Bool := e.task.drawn?.isSome && e.task.succeeded (e.result issuer w)

end Execution

def issuedIn (issuer : Issuer) : List Execution → World → List Issue
  | [], _ => []
  | e :: es, w => (e.issue? issuer w).toList ++ issuedIn issuer es (e.after issuer w)

theorem issuedIn_append (issuer : Issuer) (es more : List Execution) (w : World) :
    issuedIn issuer (es ++ more) w = issuedIn issuer es w ++ issuedIn issuer more (World.after issuer es w) := by
  induction es generalizing w with
  | nil => rfl
  | cons e es ih =>
    have rest := ih (e.after issuer w)
    simp only [issuedIn, List.cons_append, rest, List.append_assoc]
    rfl

theorem issuedIn_append_singleton (issuer : Issuer) (es : List Execution) (e : Execution) (w : World) :
    issuedIn issuer (es ++ [e]) w = issuedIn issuer es w ++ (e.issue? issuer (World.after issuer es w)).toList := by
  simp [issuedIn_append, issuedIn]

/-! ### What a call writes -/

/-- The event that a call stores if it succeeds. -/
def StoreCall.newEvent? : StoreCall → Option NewEvent
  | create _ _ _ event => some event
  | rotate _ _ event => some event
  | _ => none

namespace Tables

/-- The events under their ids, with all that is never changed of them. -/
def events (t : Tables) : List (Int × Int × NewEvent × Instant) :=
  t.outbox.rows.map fun (id, event) => (id, event.origin)

variable {now : Instant} {t t' : Tables} {c : StoreCall} {ok : Bool}

theorem Change.quiet (step : Change now t c ok t') (quiet : ok = true → c.newToken? = none) :
    t'.tokens.last = t.tokens.last ∧ t'.outbox.last = t.outbox.last ∧ t'.events = t.events := by
  cases step with
  | create | rotate => cases quiet rfl
  | updateStatus found can =>
    refine ⟨rfl, rfl, ?_⟩
    simp only [events, Table.adjust, List.map_map]
    apply List.map_congr_left
    intro row mem
    dsimp only [Function.comp]
    split <;> rfl
  | _ => exact ⟨rfl, rfl, rfl⟩

theorem Change.issues (step : Change now t c true t') {n : NewToken} {event : NewEvent} (token : c.newToken? = some n)
    (told : c.newEvent? = some event) :
    t'.tokens.last = t.tokens.next ∧ t'.outbox.last = t.outbox.next ∧
    t'.events = t.events ++ [(t.outbox.next, c.owner t, event, n.issuedAt)] ∧
    n.row t.tokens.next (c.owner t) ∈ t'.tokens.values := by
  cases step with
  | read reads => cases (StoreCall.newToken?_of_reads reads).symm.trans token
  | create unnamed free | rotate known =>
    obtain rfl := Option.some.inj token
    obtain rfl := Option.some.inj told
    refine ⟨rfl, rfl, ?_, ?_⟩
    · simp only [events, pushEvent, Table.push, List.map_append]
      rfl
    · rw [pushEvent, pushToken, Table.values_push]
      exact List.mem_append_right _ (List.mem_singleton_self _)
  | _ => cases token

theorem Change.user_of_create {n : NewUser} {hash : String} {token : NewToken} {event : NewEvent}
    (step : Change now t (.create n hash token event) true t') :
    User.fresh n token.issuedAt t.users.next ∈ t'.users.values := by
  cases step with
  | read reads => cases reads
  | create unnamed free =>
    rw [pushEvent, pushToken, setHash, Table.values_push]
    exact List.mem_append_right _ (List.mem_singleton_self _)

theorem Change.users_of_rotate {userId : Int} {token : NewToken} {event : NewEvent}
    (step : Change now t (.rotate userId token event) ok t') : t'.users = t.users := by
  cases step <;> rfl

/-- What becomes of the tables when a token is issued, or when none is. -/
inductive Issues (now : Instant) (t : Tables) : Option Issue → Tables → Prop
  | none {c : StoreCall} {ok : Bool} {t' : Tables} (step : Change now t c ok t')
      (quiet : ok = true → c.newToken? = .none) : Issues now t .none t'
  | some {c : StoreCall} {i : Issue} {t' : Tables} (step : Change now t c true t') (token : c.newToken? = .some i.token)
      (event : c.newEvent? = .some i.event) (owner : c.owner t = i.userId)
      (there : ∃ u ∈ t'.users.values, u.id = i.userId ∧ u.email = i.email) : Issues now t (.some i) t'

theorem issues_refl (now : Instant) (t : Tables) : Issues now t none t := .none (c := .ping) (.read rfl) fun _ => rfl

end Tables

/-! ### What a use case issues -/

namespace UseCase
variable {issuer : Issuer} {now : Instant} {mail : MailAction} {t : Tables} {denied : Issuer.DenyList}

theorem register_user {ttl : Span} {salt : Bytes} {token : DrawnToken} {r : Action.Registration} {user : User}
    (ok : (perform issuer now mail (.register ttl salt token r) ⟨.memory t, denied⟩).1 = .ok user) :
    user = User.fresh ⟨r.username, r.profile⟩ now t.users.next := by
  let P (out : Except ServiceError User × World) : Prop :=
    out.1 = .ok user → user = User.fresh ⟨r.username, r.profile⟩ now t.users.next
  suffices P (perform issuer now mail (.register ttl salt token r) ⟨.memory t, denied⟩) from this ok
  refine Program.after_nonempty (P := P) (fun _ => nofun) fun _ => ?_
  refine Program.after_nonempty (P := P) (fun _ => nofun) fun _ => ?_
  refine Program.after_nonempty (P := P) (fun _ => nofun) fun _ => ?_
  refine Program.after_lift (P := P) (fun _ _ => nofun) fun hash _ => ?_
  intro accepted
  change (Tables.create ⟨r.username, r.profile⟩ hash _ _ t).1 = .ok user at accepted
  unfold Tables.create at accepted
  split at accepted
  · cases accepted
  · exact (Except.ok.inj accepted).symm

/-- A use case issues a token exactly if it draws one and succeeds. -/
theorem issues (issuer : Issuer) (now : Instant) (mail : MailAction) (t : Tables) (denied : Issuer.DenyList)
    (u : UseCase) :
    let out := u.perform issuer now mail ⟨.memory t, denied⟩
    Tables.Issues now t (u.issue? now t out.1) out.2.tables ∧
      (u.issue? now t out.1).isSome = (u.drawn?.isSome && out.1.isOk) := by
  intro out
  have outcome : u.Outcome now t denied out := u.perform_outcome
  have same := Tables.issues_refl now t
  cases u with
  | register ttl salt token r =>
    have told {user : User} (ok : out.1 = .ok user) := register_user ok
    generalize out = out at outcome told
    cases outcome with
    | refused => exact ⟨same, rfl⟩
    | read reads => cases reads
    | done commits accepted user =>
      obtain rfl := told rfl
      cases commits with
      | register named guarded addressed hashed =>
        have step := Tables.answer_accepted accepted
        exact ⟨.some step rfl rfl rfl ⟨_, step.user_of_create, rfl, rfl⟩, rfl⟩
  | resend ttl cooldown token email =>
    generalize out = out at outcome
    cases outcome with
    | refused => exact ⟨same, rfl⟩
    | read reads => cases reads
    | done commits accepted a =>
      cases commits with
      | @resend _ _ _ _ user addressed found unverified waited =>
        have step := Tables.answer_accepted accepted
        simp only [issue?, found, Option.map_some]
        refine ⟨.some step rfl rfl rfl ⟨user, ?_, rfl, rfl⟩, rfl⟩
        change user ∈ (Tables.answer now _ t).2.users.values
        rw [step.users_of_rotate]
        exact List.mem_of_find?_eq_some found
  | _ =>
    generalize out = out at outcome
    cases outcome with
    | refused => exact ⟨same, rfl⟩
    | read => exact ⟨same, rfl⟩
    | done commits accepted a => exact ⟨.none (Tables.answer_accepted accepted) fun _ => by cases commits <;> rfl, rfl⟩

end UseCase

/-! ### Pairs of tokens and events -/

/-- Each issue has an event, and a token as long as its user is there. Both are under the number of the issue. -/
structure Paired (issues : List Issue) (t : Tables) : Prop where
  tokens_last : t.tokens.last = issues.length
  outbox_last : t.outbox.last = issues.length
  events : t.events = (issues.zipIdx 1).map fun (i, k) => ((k : Int), i.userId, i.event, i.token.issuedAt)
  tokens : ∀ a ∈ t.tokens.values, ∃ (k : Nat) (i : Issue), issues[k]? = some i ∧ a.id = k + 1 ∧
    a.origin = (i.userId, i.token)
  users : ∀ i ∈ issues, i.userId ≤ t.users.last
  kept : ∀ (k : Nat) (i : Issue), issues[k]? = some i → i.userId ∈ t.users.keys → ∃ a ∈ t.tokens.values, a.id = k + 1

theorem paired_empty : Paired [] .empty where
  tokens_last := rfl
  outbox_last := rfl
  events := rfl
  tokens _ none := absurd none List.not_mem_nil
  users _ none := absurd none List.not_mem_nil
  kept _ _ none := by cases none

namespace Paired
variable {issues : List Issue} {now : Instant} {t t' : Tables} {c : StoreCall} {ok : Bool}

theorem users_le (h : Paired issues t) (step : Tables.Change now t c ok t') : ∀ i ∈ issues, i.userId ≤ t'.users.last :=
  fun i mem => Int.le_trans (h.users i mem) step.continues.users.last_le

/-- The token under the number of an issue is the one of that issue. -/
theorem origin_of_id (h : Paired issues t) {k : Nat} {i : Issue} (at_ : issues[k]? = some i) {a : VerificationToken}
    (stored : a ∈ t.tokens.values) (id : a.id = k + 1) : a.origin = (i.userId, i.token) := by
  obtain ⟨k', j, at', id', origin⟩ := h.tokens a stored
  obtain rfl : k' = k := by omega
  obtain rfl := Option.some.inj (at_.symm.trans at')
  exact origin

theorem kept_change (h : Paired issues t) (consistent : t.Consistent) (step : Tables.Change now t c ok t') {k : Nat}
    {i : Issue} (at_ : issues[k]? = some i) (known : i.userId ∈ t'.users.keys) :
    ∃ a ∈ t'.tokens.values, a.id = k + 1 := by
  have early := h.users i (List.mem_of_getElem? at_)
  obtain ⟨a, stored, id⟩ := h.kept k i at_ (step.continues.users.mem_keys early known)
  have owner : a.userId = i.userId := congrArg (·.1) (h.origin_of_id at_ stored id)
  have stays := step.token_stays consistent stored (owner ▸ known)
  obtain ⟨b, there, same⟩ := (consistent.change step).tokens.mem_keys_iff.1 stays
  exact ⟨b, there, same.trans id⟩

theorem quiet (h : Paired issues t) (consistent : t.Consistent) (step : Tables.Change now t c ok t')
    (quiet : ok = true → c.newToken? = none) : Paired issues t' := by
  obtain ⟨tokens, outbox, events⟩ := step.quiet quiet
  refine ⟨tokens.trans h.tokens_last, outbox.trans h.outbox_last, events.trans h.events, fun a mem => ?_,
    h.users_le step, fun k i at_ known => h.kept_change consistent step at_ known⟩
  rcases step.token_cases consistent mem with ⟨old, stored, ages⟩ | ⟨rfl, n, new, -⟩
  · rw [ages.id, ages.origin]
    exact h.tokens old stored
  · cases (quiet rfl).symm.trans new

/-- The token and the event of a new issue have the next number. -/
theorem issued (h : Paired issues t) (consistent : t.Consistent) {i : Issue}
    (step : Tables.Issues now t (some i) t') :
    t'.tokens.last = issues.length + 1 ∧
    t'.tokens.get? (issues.length + 1) = some (i.token.row (issues.length + 1) i.userId) ∧
    t'.outbox.last = issues.length + 1 ∧
    t'.events = t.events ++ [((issues.length : Int) + 1, i.userId, i.event, i.token.issuedAt)] ∧
    ∃ owner, t'.users.get? i.userId = some owner ∧ owner.email = i.email := by
  have tokens_next : t.tokens.next = issues.length + 1 := by rw [Table.next, h.tokens_last]
  have outbox_next : t.outbox.next = issues.length + 1 := by rw [Table.next, h.outbox_last]
  cases step with
  | some step token event owner there =>
    have after := consistent.change step
    obtain ⟨tokens, outbox, events, new⟩ := step.issues token event
    obtain ⟨u, stored, id, email⟩ := there
    rw [tokens_next, owner] at new
    rw [outbox_next, owner] at events
    exact ⟨tokens.trans tokens_next, after.tokens.get?_eq_some_iff.2 ⟨new, rfl⟩, outbox.trans outbox_next, events, u,
      after.users.get?_eq_some_iff.2 ⟨stored, id⟩, email⟩

theorem append (h : Paired issues t) (consistent : t.Consistent) {i : Issue}
    (issue : Tables.Issues now t (some i) t') : Paired (issues ++ [i]) t' := by
  obtain ⟨tokens, found, outbox, events, u, known, -⟩ := h.issued consistent issue
  have last : (issues ++ [i])[issues.length]? = some i := by simp
  have earlier {k : Nat} {j : Issue} (at_ : issues[k]? = some j) : (issues ++ [i])[k]? = some j :=
    (List.getElem?_append_left (List.getElem?_eq_some_iff.1 at_).1).trans at_
  cases issue with
  | some step token =>
    have after := consistent.change step
    refine ⟨?_, ?_, ?_, fun a mem => ?_, fun j mem => ?_, fun k j at_ here => ?_⟩
    · simp [tokens]
    · simp [outbox]
    · rw [events, h.events]
      simp [List.zipIdx_append, Int.add_comm]
    · rcases step.token_cases consistent mem with ⟨old, stored, ages⟩ | ⟨-, n, -, rfl⟩
      · obtain ⟨k, j, at_, id, origin⟩ := h.tokens old stored
        exact ⟨k, j, earlier at_, ages.id.trans id, ages.origin.trans origin⟩
      · have id : t.tokens.next = issues.length + 1 := by rw [Table.next, h.tokens_last]
        obtain ⟨stored, -⟩ := after.tokens.get?_eq_some_iff.1 found
        have same := after.tokens.eq_of_key_eq mem stored id
        exact ⟨issues.length, i, last, id, same ▸ rfl⟩
    · rcases List.mem_append.1 mem with old | new
      · exact h.users_le step j old
      · obtain rfl := List.mem_singleton.1 new
        obtain ⟨stored, id⟩ := after.users.get?_eq_some_iff.1 known
        exact id ▸ after.users.le_last stored
    · by_cases early : k < issues.length
      · rw [List.getElem?_append_left early] at at_
        exact h.kept_change consistent step at_ here
      · obtain ⟨bound, -⟩ := List.getElem?_eq_some_iff.1 at_
        obtain rfl : k = issues.length := by simp at bound; omega
        exact ⟨_, after.tokens.get?_eq_some_iff.1 found⟩

theorem change (h : Paired issues t) (consistent : t.Consistent) {issue : Option Issue}
    (step : Tables.Issues now t issue t') : Paired (issues ++ issue.toList) t' := by
  cases issue with
  | none =>
    rw [Option.toList_none, List.append_nil]
    cases step with
    | none step quiet => exact h.quiet consistent step quiet
  | some i => exact h.append consistent step

/-- The event of an issue. -/
theorem event (h : Paired issues t) (consistent : t.Consistent) {k : Nat} {i : Issue} (at_ : issues[k]? = some i) :
    ∃ row, t.outbox.get? (k + 1) = some row ∧ row.origin = (i.userId, i.event, i.token.issuedAt) := by
  have mem : ((k + 1 : Int), i.userId, i.event, i.token.issuedAt) ∈ t.events := by
    rw [h.events]
    have here : (issues.zipIdx 1)[k]? = some (i, 1 + k) := by simp [at_]
    exact List.mem_map.2 ⟨(i, 1 + k), List.mem_of_getElem? here, by simp [Int.add_comm]⟩
  obtain ⟨⟨id, row⟩, there, same⟩ := List.mem_map.1 mem
  obtain ⟨rfl, origin⟩ := Prod.mk.inj same
  exact ⟨row, consistent.outbox.get?_eq_some_iff.2 ⟨List.mem_map_of_mem there, consistent.outbox.named _ there⟩, origin⟩

/-- The token of an issue, if it is there. -/
theorem token (h : Paired issues t) (consistent : t.Consistent) {k : Nat} {i : Issue} (at_ : issues[k]? = some i)
    {a : VerificationToken} (found : t.tokens.get? (k + 1) = some a) : a.origin = (i.userId, i.token) := by
  obtain ⟨stored, id⟩ := consistent.tokens.get?_eq_some_iff.1 found
  exact h.origin_of_id at_ stored id

theorem outbox_keys (h : Paired issues t) :
    t.outbox.keys = (List.range' 1 issues.length).map fun k : Nat => (k : Int) := by
  have keys : t.outbox.keys = t.events.map (·.1) := by simp [Table.keys, Tables.events]
  rw [keys, h.events, List.map_map]
  have numbers := List.zipIdx_map_snd 1 issues
  rw [← numbers, List.map_map]
  rfl

end Paired

/-! ### Over a history -/

section
variable (issuer : Issuer) (es : List Execution) (e : Execution)

theorem Execution.issued (t : Tables) (denied : Issuer.DenyList) :
    Tables.Issues e.now t (e.issue? issuer ⟨.memory t, denied⟩) (e.after issuer ⟨.memory t, denied⟩).tables ∧
      (e.issue? issuer ⟨.memory t, denied⟩).isSome = e.issues issuer ⟨.memory t, denied⟩ := by
  obtain ⟨after, denied', next, does⟩ := e.does issuer t denied
  obtain ⟨now, task, accepts⟩ := e
  cases task with
  | useCase u =>
    have issues := u.issues issuer now (Relay.mailer accepts) t denied
    simp only [Execution.issue?, Execution.issues, Execution.after, Execution.result, Execution.run_useCase]
    exact issues
  | handle body =>
    refine ⟨?_, rfl⟩
    rw [next]
    generalize Execution.letters issuer _ _ = letters at does
    cases does with
    | nothing => exact Tables.issues_refl now t
    | commits task => cases task
    | delivers task read tells found pending =>
      have settled := Relay.sentStatus_ne_pending accepts ‹Letter›
      exact .none (.updateStatus found (OutboxStatus.canBecome_iff.2 ⟨pending, settled⟩)) fun _ => rfl

theorem issued_after :
    Tables.Issues e.now (World.after issuer es .start).tables (e.issue? issuer (World.after issuer es .start))
      (World.after issuer (es ++ [e]) .start).tables ∧
    (e.issue? issuer (World.after issuer es .start)).isSome = e.issues issuer (World.after issuer es .start) := by
  obtain ⟨denied, world⟩ := after_start_eq issuer es
  have issued := e.issued issuer (World.after issuer es .start).tables denied
  rw [World.after_append]
  rwa [← world] at issued

theorem paired_after : Paired (issuedIn issuer es .start) (World.after issuer es .start).tables := by
  induction es using List.reverseRecOn with
  | nil => exact paired_empty
  | append_singleton es e ih =>
    rw [issuedIn_append_singleton]
    exact ih.change (follows_start issuer es).consistent (issued_after issuer es e).1

end

/-- After any history of use cases and messages: tokens and events are numbered alike, by the registrations and the
resendings that have succeeded. Each of these has stored a token and an event under its number, and the event stays,
with the address that the user had at that time, and with what its token says as long as that is there. Whatever else
happens, or fails, leaves both counters and all events as they were, but for their status. -/
theorem tokens_and_events_paired (issuer : Issuer) (es : List Execution) :
    let t := (World.after issuer es .start).tables
    let issues := issuedIn issuer es .start
    (t.tokens.last = issues.length ∧ t.outbox.last = issues.length ∧
      t.outbox.keys = (List.range' 1 issues.length).map fun k : Nat => (k : Int)) ∧
    (∀ (k : Nat) (i : Issue), issues[k]? = some i → ∃ row, t.outbox.get? (k + 1) = some row ∧
      row.aggregateId = i.userId ∧ row.aggregateType = "user" ∧ row.eventType = i.token.purpose.eventType ∧
      row.createdAt = i.token.issuedAt ∧
      Payload.ofJson? row.payload = some ⟨i.email, i.token.token, i.token.purpose.text⟩ ∧
      ∀ a, t.tokens.get? (k + 1) = some a → a.userId = i.userId ∧ a.token = i.token.token ∧
        a.purpose = i.token.purpose ∧ a.createdAt = i.token.issuedAt) ∧
    ∀ before e after, es = before ++ e :: after →
      let w := World.after issuer before .start
      let w' := World.after issuer (before ++ [e]) .start
      let n := (issuedIn issuer before .start).length
      (e.issues issuer w = true → ∃ i, e.issue? issuer w = some i ∧ issues[n]? = some i ∧
        w'.tables.tokens.last = n + 1 ∧ w'.tables.tokens.get? (n + 1) = some (i.token.row (n + 1) i.userId) ∧
        w'.tables.outbox.last = n + 1 ∧
        w'.tables.events = w.tables.events ++ [((n : Int) + 1, i.userId, i.event, i.token.issuedAt)] ∧
        ∃ owner, w'.tables.users.get? i.userId = some owner ∧ owner.email = i.email) ∧
      (e.issues issuer w = false → e.issue? issuer w = none ∧ w'.tables.tokens.last = w.tables.tokens.last ∧
        w'.tables.outbox.last = w.tables.outbox.last ∧ w'.tables.events = w.tables.events) := by
  intro t issues
  have consistent (es : List Execution) := (follows_start issuer es).consistent
  have paired : Paired issues t := paired_after issuer es
  refine ⟨⟨paired.tokens_last, paired.outbox_last, paired.outbox_keys⟩, fun k i at_ => ?_, ?_⟩
  · obtain ⟨row, found, origin⟩ := paired.event (consistent es) at_
    obtain ⟨owner, rest⟩ := Prod.mk.inj origin
    obtain ⟨told, createdAt⟩ := Prod.mk.inj rest
    obtain ⟨type, event, payload⟩ := NewEvent.mk.inj told
    refine ⟨row, found, owner, type, event, createdAt, ?_, fun a stored => ?_⟩
    · rw [payload]
      exact Payload.ofJson?_toJson _
    · obtain ⟨owner, made⟩ := Prod.mk.inj (paired.token (consistent es) at_ stored)
      have text := congrArg NewToken.token made
      have purpose := congrArg NewToken.purpose made
      have issued := congrArg NewToken.issuedAt made
      exact ⟨owner, text, purpose, issued⟩
  · rintro before e after rfl w w' n
    obtain ⟨step, some_iff⟩ := issued_after issuer before e
    have early : Paired (issuedIn issuer before .start) w.tables := paired_after issuer before
    have late : issues = issuedIn issuer before .start ++ ((e.issue? issuer w).toList ++
        issuedIn issuer after (e.after issuer w)) := issuedIn_append issuer before (e :: after) .start
    change Tables.Issues e.now w.tables (e.issue? issuer w) w'.tables at step
    change (e.issue? issuer w).isSome = e.issues issuer w at some_iff
    generalize e.issue? issuer w = issue at step some_iff late ⊢
    rw [← some_iff]
    cases issue with
    | none =>
      cases step with
      | none step quiet =>
        obtain ⟨tokens, outbox, events⟩ := step.quiet quiet
        exact ⟨nofun, fun _ => ⟨rfl, tokens, outbox, events⟩⟩
    | some i =>
      have here : issues[n]? = some i := by
        rw [late]
        simp [n]
      exact ⟨fun _ => ⟨i, rfl, here, early.issued (consistent before) step⟩, nofun⟩

end Accounts
