import Accounts.Proofs.Relay.Handling
import Accounts.Proofs.Run.Steps
/-! What a handler asks for, by the answers that it has got, and what it comes to by them. Other programs may run in
between. Main statement: a handler sends once at most, for a row that it has found pending, and settles that row as the
letter was answered. -/
namespace Accounts.Relay
open Program Time

/-- How an event ends by the answer to its letter. -/
def settledAs (sent : Bool) : OutboxStatus := if sent then .processed else .failed

theorem settledAs_ne_pending (sent : Bool) : settledAs sent ≠ .pending := by cases sent <;> decide

inductive Asks (body : Bytes) : List Exchange → Effect → Prop
  | lookup {r : RowRecord} (read : RowRecord.parse? body = some r) {l : Letter} (tells : letter r = .ok (.inl l)) :
      Asks body [] (.store (.findEvent r.id))
  | send {r : RowRecord} (read : RowRecord.parse? body = some r) {l : Letter} (tells : letter r = .ok (.inl l))
      {row : OutboxEvent} (pending : row.status = .pending) :
      Asks body [⟨.store (.findEvent r.id), .ok (some row)⟩] (.send l)
  | settle {r : RowRecord} (read : RowRecord.parse? body = some r) {l : Letter} (tells : letter r = .ok (.inl l))
      {row : OutboxEvent} (pending : row.status = .pending) {sent : Bool} :
      Asks body [⟨.store (.findEvent r.id), .ok (some row)⟩, ⟨.send l, sent⟩]
        (.store (.updateStatus r.id (settledAs sent)))

inductive Ends (body : Bytes) : List Exchange → Except HandleError Handled → Prop
  | badRecord (unread : RowRecord.parse? body = none) : Ends body [] (.error .badRecord)
  | badPayload {r : RowRecord} (read : RowRecord.parse? body = some r) {e : HandleError} (tells : letter r = .error e) :
      Ends body [] (.error e)
  | nothing {r : RowRecord} (read : RowRecord.parse? body = some r) {why : Skip} (tells : letter r = .ok (.inr why)) :
      Ends body [] (.ok ⟨r.id, .skipped why⟩)
  | unfound {r : RowRecord} {e : ServiceError} : Ends body [⟨.store (.findEvent r.id), .error e⟩] (.error (.store e))
  | missing {r : RowRecord} : Ends body [⟨.store (.findEvent r.id), .ok none⟩] (.ok ⟨r.id, .skipped .missing⟩)
  | settled {r : RowRecord} {row : OutboxEvent} (terminal : row.status.isTerminal = true) :
      Ends body [⟨.store (.findEvent r.id), .ok (some row)⟩] (.ok ⟨r.id, .skipped (.settled row.status)⟩)
  | unsettled {r : RowRecord} {row : OutboxEvent} {l : Letter} {sent : Bool} {e : ServiceError} :
      Ends body [⟨.store (.findEvent r.id), .ok (some row)⟩, ⟨.send l, sent⟩,
        ⟨.store (.updateStatus r.id (settledAs sent)), .error e⟩] (.error (.store e))
  | sent {r : RowRecord} {row : OutboxEvent} {l : Letter} {sent first : Bool} :
      Ends body [⟨.store (.findEvent r.id), .ok (some row)⟩, ⟨.send l, sent⟩,
        ⟨.store (.updateStatus r.id (settledAs sent)), .ok first⟩]
      (.ok ⟨r.id, if sent then .processed else .failed⟩)

section
variable {β : Type} {asks : List Exchange → Effect → Prop} {ends : List Exchange → Except HandleError β → Prop}
  {log : List Exchange}

theorem proceeds_ask {c : StoreCall} {f : c.Answer → Handling β} (free : asks log (.store c))
    (refused : ∀ e, ends (log ++ [⟨.store c, .error e⟩]) (.error (.store e)))
    (next : ∀ a, Proceeds asks ends (log ++ [⟨.store c, .ok a⟩]) (f a).run) :
    Proceeds asks ends log (ask c >>= f).run := by
  refine ⟨free, fun reply => ?_⟩
  cases reply with
  | error e => exact refused e
  | ok a => exact next a

theorem proceeds_send {l : Letter} {f : Bool → Handling β} (free : asks log (.send l))
    (next : ∀ sent, Proceeds asks ends (log ++ [⟨.send l, sent⟩]) (f sent).run) :
    Proceeds asks ends log (Relay.send l >>= f).run := ⟨free, next⟩

end

theorem handle_proceeds (body : Bytes) : Proceeds (Asks body) (Ends body) [] (handle body).run := by
  unfold handle
  rcases read : RowRecord.parse? body with _ | r
  · exact Ends.badRecord read
  dsimp only
  rcases tells : letter r with e | l | why
  · exact Ends.badPayload read tells
  · refine proceeds_bind (a := deliver r.id l) (proceeds_ask (.lookup read tells) (fun _ => .unfound) fun found => ?_)
    cases found with
    | none => exact Ends.missing
    | some row =>
      dsimp only
      by_cases terminal : row.status.isTerminal = true
      · rw [if_pos terminal]
        exact Ends.settled terminal
      · rw [if_neg terminal]
        have pending : row.status = .pending := by simpa [OutboxStatus.isTerminal] using terminal
        refine proceeds_send (.send read tells pending) fun sent => ?_
        cases sent with
        | true => exact proceeds_ask (.settle read tells pending) (fun _ => .unsettled) fun _ => .sent
        | false => exact proceeds_ask (.settle read tells pending) (fun _ => .unsettled) fun _ => .sent
  · exact Ends.nothing read tells

end Accounts.Relay
