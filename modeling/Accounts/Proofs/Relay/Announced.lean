import Accounts.Proofs.Relay.Announcement
import Accounts.Proofs.Run.Events
import Accounts.Proofs.Run.History
/-! Histories in which messages announce events. Main statement: an event is pending as long as no message about it has
come, and holds a letter that a use case has written. -/
namespace Accounts
open Time

/-- The event that a message is about. -/
def Execution.announced? (e : Execution) : Option Int :=
  match e.task with
  | .useCase _ => none
  | .handle body => (Relay.RowRecord.parse? body).map (·.id)

def announcedIn (es : List Execution) : List Int := es.filterMap Execution.announced?

theorem announcedIn_append (es more : List Execution) : announcedIn (es ++ more) = announcedIn es ++ announcedIn more :=
  List.filterMap_append

/-- Every message announces an event as it was stored at some time before. -/
def Genuine (issuer : Issuer) (es : List Execution) : Prop :=
  ∀ before now body accepts after, es = before ++ ⟨now, .handle body, accepts⟩ :: after →
    ∃ early late event, before = early ++ late ∧
      event ∈ (World.after issuer early .start).tables.outbox.values ∧ Relay.Announces event body

theorem Genuine.left {issuer : Issuer} {es more : List Execution} (h : Genuine issuer (es ++ more)) :
    Genuine issuer es := by
  rintro before now body accepts after rfl
  exact h before now body accepts (after ++ more) (by simp)

/-- A use case of the history has added the event with this id, for this letter. -/
def Written (issuer : Issuer) (es : List Execution) (id : Int) (letter : Letter) : Prop :=
  ∃ before e after u, es = before ++ e :: after ∧ e.task = .useCase u ∧ u.Mails letter ∧
    (World.after issuer before .start).tables.outbox.get? id = none ∧
    ∃ event, (World.after issuer (before ++ [e]) .start).tables.outbox.get? id = some event ∧ Holds event letter

theorem Written.append {issuer : Issuer} {es : List Execution} {id : Int} {letter : Letter}
    (h : Written issuer es id letter) (more : List Execution) : Written issuer (es ++ more) id letter := by
  obtain ⟨before, e, after, u, rfl, task, mails, absent, present⟩ := h
  exact ⟨before, e, after ++ more, u, by simp, task, mails, absent, present⟩

/-- What holds of the tables after a history: an event is pending as long as no message about it has come. -/
structure Delivered (issuer : Issuer) (es : List Execution) (t : Tables) : Prop where
  addressed : Addressed t
  pending : ∀ event ∈ t.outbox.values, event.status = .pending ↔ event.id ∉ announcedIn es
  written : ∀ event ∈ t.outbox.values, ∃ letter, Written issuer es event.id letter ∧ Holds event letter
  known : ∀ id ∈ announcedIn es, id ∈ t.outbox.keys

/-- An event is still there later on, and holds the same. -/
theorem Tables.Continues.event {t t' : Tables} (h : Continues t t') (before : t.Consistent) (after : t'.Consistent)
    {event : OutboxEvent} (mem : event ∈ t.outbox.values) :
    ∃ row ∈ t'.outbox.values, row.id = event.id ∧ row.payload = event.payload := by
  have early : event.id ∈ t.outbox.keys := before.outbox.mem_keys_iff.2 ⟨event, mem, rfl⟩
  obtain ⟨row, there, same⟩ := after.outbox.mem_keys_iff.1 (h.events event.id early)
  have origin := h.outbox.origin_eq before.outbox after.outbox mem there same.symm
  exact ⟨row, there, same, (congrArg (·.2.1.payload) origin).symm⟩

/-! ### Tables after a history -/

section
variable {issuer : Issuer} {es : List Execution} {e : Execution} {t t' : Tables}

theorem announcedIn_quiet (es : List Execution) (quiet : e.announced? = none) : announcedIn (es ++ [e]) = announcedIn es := by
  simp [announcedIn, quiet]

theorem announcedIn_announced {id : Int} (announced : e.announced? = some id) :
    announcedIn (es ++ [e]) = announcedIn es ++ [id] := by
  simp [announcedIn, announced]

theorem delivered_start : Delivered issuer [] .empty where
  addressed _ mem := absurd mem List.not_mem_nil
  pending _ mem := absurd mem List.not_mem_nil
  written _ mem := absurd mem List.not_mem_nil
  known _ mem := absurd mem List.not_mem_nil

/-- The events stay as they are, and no other event than before was announced. -/
theorem Delivered.same (h : Delivered issuer es t) (users : Addressed t') (outbox : t'.outbox = t.outbox)
    (announced : ∀ id, id ∈ announcedIn (es ++ [e]) ↔ id ∈ announcedIn es) : Delivered issuer (es ++ [e]) t' where
  addressed := users
  pending event mem := by
    rw [announced]
    exact h.pending event (outbox ▸ mem)
  written event mem := by
    obtain ⟨letter, written, holds⟩ := h.written event (outbox ▸ mem)
    exact ⟨letter, written.append [e], holds⟩
  known id mem := by
    rw [outbox]
    exact h.known id ((announced id).1 mem)

theorem Delivered.useCase (h : Delivered issuer es (World.after issuer es .start).tables) {u : UseCase}
    (task : e.task = .useCase u) : Delivered issuer (es ++ [e]) (World.after issuer (es ++ [e]) .start).tables := by
  have quiet : e.announced? = none := by rw [Execution.announced?, task]
  have announced := announcedIn_quiet es quiet
  have sound := (follows_start issuer es).consistent
  have sound' := (follows_start issuer (es ++ [e])).consistent.outbox
  have grows := (follows_append issuer es [e]).continues
  obtain ⟨letters, does⟩ := does_append issuer es e
  generalize after : (World.after issuer (es ++ [e]) .start).tables = t' at does sound' grows ⊢
  cases does with
  | nothing => exact h.same h.addressed rfl fun id => by rw [announced]
  | delivers other =>
    rw [task] at other
    cases other
  | commits task' commits accepted =>
    obtain rfl := Task.useCase.inj (task.symm.trans task')
    have step := Tables.answer_accepted accepted
    have addressed := commits.addressed step sound h.addressed
    rcases commits.outbox step with same | ⟨letter, event, mails, holds, pending, id, added⟩
    · exact h.same addressed same fun id => by rw [announced]
    · refine ⟨addressed, fun row mem => ?_, fun row mem => ?_, fun id mem => ?_⟩
      · rw [announced]
        rw [added, List.mem_append, List.mem_singleton] at mem
        rcases mem with stored | rfl
        · exact h.pending row stored
        · -- the id of the new event is beyond all that were announced
          refine iff_of_true pending fun mem => ?_
          have early := (sound.outbox.within _ (h.known _ mem)).2
          simp only [id, Table.next] at early
          omega
      · rw [added, List.mem_append, List.mem_singleton] at mem
        rcases mem with stored | rfl
        · obtain ⟨letter, written, holds⟩ := h.written row stored
          exact ⟨letter, written.append [e], holds⟩
        · refine ⟨letter, ⟨es, e, [], u, rfl, task, mails, ?_, row, ?_, holds⟩, holds⟩
          · rw [id]
            exact sound.outbox.get?_next
          · rw [after]
            exact sound'.get?_eq_some_iff.2 ⟨by simp [added], rfl⟩
      · rw [announced] at mem
        exact grows.events id (h.known id mem)

theorem Delivered.first (h : Delivered issuer es t) (sound : t.Consistent) {id : Int} {row : OutboxEvent}
    (announced : e.announced? = some id) (found : t.outbox.get? id = some row) {status : OutboxStatus}
    (ends : status ≠ .pending) (now : Instant) :
    Delivered issuer (es ++ [e]) { t with outbox := t.outbox.adjust id (OutboxEvent.settle status now) } where
  addressed := h.addressed
  pending event mem := by
    rw [announcedIn_announced announced, List.mem_append, List.mem_singleton]
    rw [sound.outbox.values_adjust] at mem
    obtain ⟨old, stored, rfl⟩ := List.mem_map.1 mem
    by_cases this : old.id = id
    · simp [this, OutboxEvent.settle, ends]
    · simp [this, h.pending old stored]
  written := sound.outbox.forall_adjust (fun event stored => by
      obtain ⟨letter, written, holds⟩ := h.written event stored
      exact ⟨letter, written.append [e], holds⟩) fun event stored _ => by
    obtain ⟨letter, written, holds⟩ := h.written event stored
    exact ⟨letter, written.append [e], ⟨holds.payload, holds.recipient, holds.token⟩⟩
  known other mem := by
    rw [announcedIn_announced announced, List.mem_append, List.mem_singleton] at mem
    rw [Table.keys_adjust]
    rcases mem with old | rfl
    · exact h.known other old
    · exact Table.has_iff_mem_keys.1 (by rw [Table.has, found]; rfl)

end

/-! ### All messages -/

end Accounts
