import Accounts.Proofs.Run.Basic
import Accounts.Proofs.Store.Change
import Accounts.Relay.Handle
/-! What handling a message comes to. Main statement: a letter is sent only for a stored event that is pending, and
that event is then settled. -/
namespace Accounts.Relay
open Time

theorem after_ask {σ β : Type} {answer : (e : Effect) → σ → e.Reply × σ} {s s' : σ}
    {P : Except HandleError β × σ → Prop} {c : StoreCall} {a : c.Answer} {f : c.Answer → Handling β}
    (replied : answer (.store c) s = (.ok a, s')) (next : P (Program.run answer (f a).run s')) :
    P (Program.run answer (ask c >>= f).run s) := by
  have ran : Program.run answer (ask c).run s = (.ok a, s') := by
    change (((answer (.store c) s).1.mapError HandleError.store), (answer (.store c) s).2) = _
    rw [replied]
    rfl
  rw [Program.run_except_bind, ran]
  exact next

variable (accepts : Letter → Bool)

/-- A mailer that takes some letters and leaves the store alone. -/
def mailer : MailAction := fun letter store => (accepts letter, store)

/-- How an event ends when its letter is sent. -/
def sentStatus (letter : Letter) : OutboxStatus := if accepts letter then .processed else .failed

theorem sentStatus_ne_pending (letter : Letter) : sentStatus accepts letter ≠ .pending := by
  unfold sentStatus
  split <;> decide

def sentOutcome (letter : Letter) : Outcome := if accepts letter then .processed else .failed

/-- The answer to a message, the letters that are sent and the tables afterwards. -/
inductive Handles (now : Instant) (t : Tables) (body : Bytes) :
    Except HandleError Handled → List Letter → Tables → Prop
  | badRecord (unread : RowRecord.parse? body = none) : Handles now t body (.error .badRecord) [] t
  | badPayload {r : RowRecord} (read : RowRecord.parse? body = some r) {e : HandleError} (tells : letter r = .error e) :
      Handles now t body (.error e) [] t
  | nothing {r : RowRecord} (read : RowRecord.parse? body = some r) {why : Skip} (tells : letter r = .ok (.inr why)) :
      Handles now t body (.ok ⟨r.id, .skipped why⟩) [] t
  | missing {r : RowRecord} (read : RowRecord.parse? body = some r) {l : Letter} (tells : letter r = .ok (.inl l))
      (absent : t.outbox.get? r.id = none) : Handles now t body (.ok ⟨r.id, .skipped .missing⟩) [] t
  | settled {r : RowRecord} (read : RowRecord.parse? body = some r) {l : Letter} (tells : letter r = .ok (.inl l))
      {row : OutboxEvent} (found : t.outbox.get? r.id = some row) (terminal : row.status.isTerminal = true) :
      Handles now t body (.ok ⟨r.id, .skipped (.settled row.status)⟩) [] t
  | sent {r : RowRecord} (read : RowRecord.parse? body = some r) {l : Letter} (tells : letter r = .ok (.inl l))
      {row : OutboxEvent} (found : t.outbox.get? r.id = some row) (pending : row.status = .pending) :
      Handles now t body (.ok ⟨r.id, sentOutcome accepts l⟩) [l]
        { t with outbox := t.outbox.adjust r.id (OutboxEvent.settle (sentStatus accepts l) now) }

variable {accepts} {issuer : Issuer} {now : Instant} {t : Tables} {denied : Issuer.DenyList} {letters : List Letter}

/-- The answers to a message that is handled, with the letters written down. -/
def relaying (issuer : Issuer) (now : Instant) (accepts : Letter → Bool) :
    (e : Effect) → World × List Letter → e.Reply × World × List Letter :=
  Program.recording (World.answer issuer now (mailer accepts))

section
variable {id : Int} {l : Letter} {row : OutboxEvent}

theorem relaying_findEvent : relaying issuer now accepts (.store (.findEvent id)) (⟨.memory t, denied⟩, letters) =
    (.ok (t.outbox.get? id), ⟨.memory t, denied⟩, letters) := rfl

theorem deliver_missing (absent : t.outbox.get? id = none) :
    Program.run (relaying issuer now accepts) (deliver id l).run (⟨.memory t, denied⟩, letters) =
      (.ok (.skipped .missing), ⟨.memory t, denied⟩, letters) := by
  refine after_ask (P := fun o => o = _) relaying_findEvent ?_
  rw [absent]
  rfl

theorem deliver_settled (found : t.outbox.get? id = some row) (terminal : row.status.isTerminal = true) :
    Program.run (relaying issuer now accepts) (deliver id l).run (⟨.memory t, denied⟩, letters) =
      (.ok (.skipped (.settled row.status)), ⟨.memory t, denied⟩, letters) := by
  refine after_ask (P := fun o => o = _) relaying_findEvent ?_
  rw [found]
  dsimp only
  rw [if_pos terminal]
  rfl

theorem relaying_updateStatus {status : OutboxStatus} (found : t.outbox.get? id = some row)
    (pending : row.status = .pending) (ends : status ≠ .pending) :
    relaying issuer now accepts (.store (.updateStatus id status)) (⟨.memory t, denied⟩, letters) =
      (.ok true, ⟨.memory { t with outbox := t.outbox.adjust id (OutboxEvent.settle status now) }, denied⟩, letters) := by
  have can : row.status.canBecome status = true := OutboxStatus.canBecome_iff.2 ⟨pending, ends⟩
  simp only [relaying, Program.recording, World.answer, Store.answer, Tables.answer, Tables.updateStatus, found, can]
  rfl

theorem deliver_pending (found : t.outbox.get? id = some row) (pending : row.status = .pending) :
    Program.run (relaying issuer now accepts) (deliver id l).run (⟨.memory t, denied⟩, letters) =
      (.ok (sentOutcome accepts l), ⟨.memory { t with
        outbox := t.outbox.adjust id (OutboxEvent.settle (sentStatus accepts l) now) }, denied⟩, letters ++ [l]) := by
  refine after_ask (P := fun o => o = _) relaying_findEvent ?_
  rw [found]
  dsimp only
  rw [if_neg (by simp [pending, OutboxStatus.isTerminal])]
  change Program.run (relaying issuer now accepts) (if accepts l then _ else _ : Handling Outcome).run
    (⟨.memory t, denied⟩, letters ++ [l]) = _
  cases taken : accepts l with
  | true =>
    refine after_ask (P := fun o => o = _) (relaying_updateStatus found pending (by decide)) ?_
    simp only [sentOutcome, sentStatus, taken]
    rfl
  | false =>
    refine after_ask (P := fun o => o = _) (relaying_updateStatus found pending (by decide)) ?_
    simp only [sentOutcome, sentStatus, taken]
    rfl

end

section
variable {body : Bytes} {r : RowRecord} {s s' : World × List Letter}

theorem handle_nothing (read : RowRecord.parse? body = some r) {why : Skip} (tells : letter r = .ok (.inr why)) :
    Program.run (relaying issuer now accepts) (handle body).run s = (.ok ⟨r.id, .skipped why⟩, s) := by
  unfold handle
  rw [read]
  dsimp only
  rw [tells]
  rfl

theorem handle_letter (read : RowRecord.parse? body = some r) {l : Letter} (tells : letter r = .ok (.inl l))
    {outcome : Outcome} (delivered : Program.run (relaying issuer now accepts) (deliver r.id l).run s =
      (.ok outcome, s')) :
    Program.run (relaying issuer now accepts) (handle body).run s = (.ok ⟨r.id, outcome⟩, s') := by
  unfold handle
  rw [read]
  dsimp only
  rw [tells]
  change Program.run _ (deliver r.id l >>= fun outcome => pure ⟨r.id, outcome⟩ : Handling Handled).run s = _
  rw [Program.run_except_bind, delivered]
  rfl

end

theorem handle_handles (body : Bytes) :
    ∃ result sent after, Program.run (relaying issuer now accepts) (handle body).run (⟨.memory t, denied⟩, []) =
      (result, ⟨.memory after, denied⟩, sent) ∧ Handles accepts now t body result sent after := by
  rcases read : RowRecord.parse? body with _ | r
  · refine ⟨.error .badRecord, _, _, ?_, .badRecord read⟩
    unfold handle
    rw [read]
    rfl
  · rcases tells : letter r with e | l | why
    · refine ⟨.error e, _, _, ?_, .badPayload read tells⟩
      unfold handle
      rw [read]
      dsimp only
      rw [tells]
      rfl
    · rcases found : t.outbox.get? r.id with _ | row
      · exact ⟨_, _, _, handle_letter read tells (deliver_missing found), .missing read tells found⟩
      · by_cases terminal : row.status.isTerminal = true
        · exact ⟨_, _, _, handle_letter read tells (deliver_settled found terminal), .settled read tells found terminal⟩
        · have pending : row.status = .pending := by simpa [OutboxStatus.isTerminal] using terminal
          exact ⟨_, _, _, handle_letter read tells (deliver_pending found pending), .sent read tells found pending⟩
    · exact ⟨_, _, _, handle_nothing read tells, .nothing read tells⟩

end Accounts.Relay
