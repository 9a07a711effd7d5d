import Accounts.Proofs.Relay.Announced
/-! From a use case to the mailer. Main statement: whatever is announced, however often and however late, each event's
letter is sent once, and it is the one that the use case has written. -/
namespace Accounts
open Time

/-! ### One message -/

/-- What a message about an event that holds a letter says. -/
theorem Holds.letter {event : OutboxEvent} {l : Letter} (h : Holds event l) {r : Relay.RowRecord}
    (payload : r.payload = event.payload) {status : OutboxStatus} (announced : r.announcedStatus = some status) :
    Relay.letter r = if status.isTerminal then .ok (.inr .echoed) else .ok (.inl l) := by
  have deliverable : l.payload.isDeliverable = true := by
    simp [Payload.isDeliverable, Letter.payload, h.recipient, h.token]
  rw [Relay.letter, payload, h.payload, Payload.ofJson?_toJson]
  dsimp only
  rw [deliverable, announced]
  simp only [Bool.not_true, Bool.false_eq_true, if_false, Option.any_some]
  rfl

section
variable {issuer : Issuer} {now : Instant} {accepts : Letter → Bool} {t : Tables} {denied : Issuer.DenyList}
  {event row : OutboxEvent} {letter : Letter} {body : Bytes}

theorem run_first (announces : Relay.Announces event body) (holds : Holds event letter)
    (announced : event.status = .pending) (found : t.outbox.get? event.id = some row) (pending : row.status = .pending) :
    Execution.run issuer ⟨now, .handle body, accepts⟩ ⟨.memory t, denied⟩ =
      (.ok ⟨event.id, Relay.sentOutcome accepts letter⟩, ⟨.memory { t with
        outbox := t.outbox.adjust event.id (OutboxEvent.settle (Relay.sentStatus accepts letter) now) }, denied⟩,
        [letter]) := by
  obtain ⟨r, read, id, payload, status⟩ := announces.parse?
  have tells : Relay.letter r = .ok (.inl letter) := by
    rw [holds.letter payload status, announced]
    rfl
  rw [← id] at found ⊢
  exact Relay.handle_letter read tells (Relay.deliver_pending found pending)

theorem run_later (announces : Relay.Announces event body) (holds : Holds event letter)
    (found : t.outbox.get? event.id = some row) (settled : row.status ≠ .pending) :
    ∃ why, Execution.run issuer ⟨now, .handle body, accepts⟩ ⟨.memory t, denied⟩ =
      (.ok ⟨event.id, .skipped why⟩, ⟨.memory t, denied⟩, []) := by
  obtain ⟨r, read, id, payload, status⟩ := announces.parse?
  have tells := holds.letter payload status
  have terminal : row.status.isTerminal = true := by simp [OutboxStatus.isTerminal, settled]
  rw [← id] at found ⊢
  by_cases echoed : event.status.isTerminal = true
  · rw [if_pos echoed] at tells
    exact ⟨.echoed, Relay.handle_nothing read tells⟩
  · rw [if_neg echoed] at tells
    exact ⟨.settled row.status, Relay.handle_letter read tells (Relay.deliver_settled found terminal)⟩

end

/-! ### All messages -/

section
variable {issuer : Issuer} {before after : List Execution} {now : Instant} {body : Bytes} {accepts : Letter → Bool}

/-- An event as it was announced, and as it is stored when the message arrives. -/
structure Arrives (issuer : Issuer) (before : List Execution) (body : Bytes) (event row : OutboxEvent)
    (letter : Letter) : Prop where
  announces : Relay.Announces event body
  found : (World.after issuer before .start).tables.outbox.get? event.id = some row
  written : Written issuer before event.id letter
  holds : Holds event letter
  first : event.id ∉ announcedIn before → event.status = .pending ∧ row.status = .pending
  later : event.id ∈ announcedIn before → row.status ≠ .pending

theorem Genuine.arrives (genuine : Genuine issuer (before ++ ⟨now, .handle body, accepts⟩ :: after))
    (delivered : ∀ early late, before = early ++ late → Delivered issuer early (World.after issuer early .start).tables) :
    ∃ event row letter, Arrives issuer before body event row letter := by
  obtain ⟨early, late, event, rfl, mem, announces⟩ := genuine _ _ _ _ _ rfl
  have then_ := delivered early late rfl
  have now_ := delivered (early ++ late) [] (by simp)
  have follows := follows_append issuer early late
  obtain ⟨row, stored, id, payload⟩ := follows.continues.event (follows_start issuer early).consistent
    follows.consistent mem
  obtain ⟨letter, written, holds⟩ := then_.written event mem
  refine ⟨event, row, letter, announces, follows.consistent.outbox.get?_eq_some_iff.2 ⟨stored, id⟩, written.append late,
    holds, fun new => ⟨?_, ?_⟩, fun again => ?_⟩
  · refine (then_.pending event mem).2 fun announced => new ?_
    rw [announcedIn_append]
    exact List.mem_append_left _ announced
  · exact (now_.pending row stored).2 (id ▸ new)
  · exact fun pending => (now_.pending row stored).1 pending (id ▸ again)

theorem Arrives.announced? {event row : OutboxEvent} {letter : Letter} (h : Arrives issuer before body event row letter) :
    Execution.announced? ⟨now, .handle body, accepts⟩ = some event.id := by
  obtain ⟨r, read, id, -⟩ := h.announces.parse?
  simp [Execution.announced?, read, id]

theorem after_append_singleton (e : Execution) :
    World.after issuer (before ++ [e]) .start = e.after issuer (World.after issuer before .start) :=
  World.after_append issuer before [e] .start

section
variable {event row : OutboxEvent} {letter : Letter}

/-- What is done for a message depends on whether it is the first one about its event. -/
theorem Arrives.run (h : Arrives issuer before body event row letter) (now : Instant) (accepts : Letter → Bool) :
    event.id ∈ announcedIn before ∧ (∃ why, Execution.run issuer ⟨now, .handle body, accepts⟩
      (World.after issuer before .start) =
        (.ok ⟨event.id, .skipped why⟩, World.after issuer before .start, [])) ∨
    event.id ∉ announcedIn before ∧ ∃ denied, Execution.run issuer ⟨now, .handle body, accepts⟩
      (World.after issuer before .start) =
        (.ok ⟨event.id, Relay.sentOutcome accepts letter⟩, ⟨.memory { (World.after issuer before .start).tables with
          outbox := (World.after issuer before .start).tables.outbox.adjust event.id
            (OutboxEvent.settle (Relay.sentStatus accepts letter) now) }, denied⟩, [letter]) := by
  obtain ⟨denied, world⟩ := after_start_eq issuer before
  by_cases again : event.id ∈ announcedIn before
  · obtain ⟨why, ran⟩ : ∃ why, Execution.run issuer ⟨now, .handle body, accepts⟩
        ⟨.memory (World.after issuer before .start).tables, denied⟩ =
        (.ok ⟨event.id, .skipped why⟩, ⟨.memory (World.after issuer before .start).tables, denied⟩, []) :=
      run_later h.announces h.holds h.found (h.later again)
    rw [← world] at ran
    exact .inl ⟨again, why, ran⟩
  · obtain ⟨waits, pending⟩ := h.first again
    refine .inr ⟨again, denied, ?_⟩
    conv_lhs => rw [world]
    exact run_first h.announces h.holds waits h.found pending

/-- What a message comes to: the event's letter is sent if no message about the event came before, and else nothing
is done. -/
inductive Answered (issuer : Issuer) (before : List Execution) (now : Instant) (body : Bytes)
    (accepts : Letter → Bool) : Prop
  | first {id : Int} {letter : Letter} (announced : Execution.announced? ⟨now, .handle body, accepts⟩ = some id)
      (new : id ∉ announcedIn before) (written : Written issuer before id letter)
      (result : Execution.result issuer ⟨now, .handle body, accepts⟩ (World.after issuer before .start) =
        .ok ⟨id, Relay.sentOutcome accepts letter⟩)
      (letters : Execution.letters issuer ⟨now, .handle body, accepts⟩ (World.after issuer before .start) = [letter])
      (settled : ((World.after issuer (before ++ [⟨now, .handle body, accepts⟩]) .start).tables.outbox.get? id).map
        OutboxEvent.status = some (Relay.sentStatus accepts letter))
  | later {id : Int} (announced : Execution.announced? ⟨now, .handle body, accepts⟩ = some id)
      (again : id ∈ announcedIn before)
      (result : ∃ why, Execution.result issuer ⟨now, .handle body, accepts⟩ (World.after issuer before .start) =
        .ok ⟨id, .skipped why⟩)
      (letters : Execution.letters issuer ⟨now, .handle body, accepts⟩ (World.after issuer before .start) = [])
      (unchanged : World.after issuer (before ++ [⟨now, .handle body, accepts⟩]) .start =
        World.after issuer before .start)

theorem Arrives.answered (h : Arrives issuer before body event row letter) :
    Answered issuer before now body accepts := by
  rcases h.run now accepts with ⟨again, why, ran⟩ | ⟨new, denied, ran⟩
  · refine .later h.announced? again ⟨why, ?_⟩ ?_ ?_
    · rw [Execution.result, ran]
    · rw [Execution.letters, ran]
    · rw [after_append_singleton, Execution.after, ran]
  · refine .first h.announced? new h.written ?_ ?_ ?_
    · rw [Execution.result, ran]
    · rw [Execution.letters, ran]
    · rw [after_append_singleton, Execution.after, ran]
      change (Table.get? (Table.adjust _ event.id _) event.id).map OutboxEvent.status = _
      rw [Table.get?_adjust_self, h.found]
      rfl

theorem Arrives.delivered (h : Arrives issuer before body event row letter)
    (early : Delivered issuer before (World.after issuer before .start).tables) :
    Delivered issuer (before ++ [⟨now, .handle body, accepts⟩])
      (World.after issuer (before ++ [⟨now, .handle body, accepts⟩]) .start).tables := by
  rw [after_append_singleton, Execution.after]
  rcases h.run now accepts with ⟨again, why, ran⟩ | ⟨new, denied, ran⟩
  · rw [ran]
    refine early.same early.addressed rfl fun id => ?_
    rw [announcedIn_announced h.announced?, List.mem_append, List.mem_singleton, or_iff_left_of_imp]
    rintro rfl
    exact again
  · rw [ran]
    exact early.first (follows_start issuer before).consistent h.announced? h.found
      (Relay.sentStatus_ne_pending accepts letter) now

end

theorem Genuine.delivered {es : List Execution} (genuine : Genuine issuer es) :
    ∀ early late, es = early ++ late → Delivered issuer early (World.after issuer early .start).tables := by
  induction es using List.reverseRecOn with
  | nil =>
    intro early late split
    obtain ⟨rfl, rfl⟩ := List.append_eq_nil_iff.1 split.symm
    exact delivered_start
  | append_singleton es e ih =>
    intro early late split
    rcases List.eq_nil_or_concat late with rfl | ⟨late, last, rfl⟩
    · rw [List.append_nil] at split
      subst split
      have delivered := ih genuine.left
      have early := delivered es [] (List.append_nil es).symm
      obtain ⟨now, task, accepts⟩ := e
      cases task with
      | useCase u => exact early.useCase rfl
      | handle body =>
        obtain ⟨event, row, letter, arrives⟩ := Genuine.arrives genuine delivered
        exact arrives.delivered early
    · rw [List.concat_eq_append, ← List.append_assoc] at split
      exact ih genuine.left early late (List.append_inj_left' split rfl)

theorem Genuine.answered (genuine : Genuine issuer (before ++ ⟨now, .handle body, accepts⟩ :: after)) :
    Answered issuer before now body accepts := by
  have delivered := (genuine.left).delivered
  obtain ⟨event, row, letter, arrives⟩ := genuine.arrives delivered
  exact arrives.answered

end

/-! ### All letters -/

/-- The letters that are sent in a history, each with the event that it was sent for. -/
def deliveries (issuer : Issuer) : List Execution → World → List (Option Int × Letter)
  | [], _ => []
  | e :: es, w => (e.letters issuer w).map (e.announced?, ·) ++ deliveries issuer es (e.after issuer w)

theorem deliveries_append (issuer : Issuer) (es more : List Execution) (w : World) :
    deliveries issuer (es ++ more) w = deliveries issuer es w ++ deliveries issuer more (World.after issuer es w) := by
  induction es generalizing w with
  | nil => rfl
  | cons e es ih => simp [deliveries, ih, World.after]

/-- A task sends no letter, or the one of an event that was not announced before. -/
theorem Genuine.sends {issuer : Issuer} {es : List Execution} {e : Execution} (genuine : Genuine issuer (es ++ [e])) :
    e.letters issuer (World.after issuer es .start) = [] ∨
    ∃ id letter, e.letters issuer (World.after issuer es .start) = [letter] ∧ e.announced? = some id ∧
      id ∉ announcedIn es ∧ Written issuer es id letter := by
  obtain ⟨now, task, accepts⟩ := e
  cases task with
  | useCase u =>
    left
    rw [Execution.letters, Execution.run_useCase]
  | handle body =>
    cases Genuine.answered genuine with
    | first announced new written result letters settled => exact .inr ⟨_, _, letters, announced, new, written⟩
    | later announced again result letters unchanged => exact .inl letters

/-- No event is in this list twice, and each letter is the one that was written. -/
theorem Genuine.nodup_deliveries {issuer : Issuer} {es : List Execution} (genuine : Genuine issuer es) :
    ((deliveries issuer es .start).map (·.1)).Nodup ∧
    ∀ d ∈ deliveries issuer es .start, ∃ id ∈ announcedIn es, d.1 = some id ∧ Written issuer es id d.2 := by
  induction es using List.reverseRecOn with
  | nil => exact ⟨List.nodup_nil, fun _ none => absurd none List.not_mem_nil⟩
  | append_singleton es e ih =>
    obtain ⟨nodup, sent⟩ := ih genuine.left
    have last : deliveries issuer [e] (World.after issuer es .start) =
        (e.letters issuer (World.after issuer es .start)).map (e.announced?, ·) := List.append_nil _
    have earlier : ∀ d ∈ deliveries issuer es .start,
        ∃ id ∈ announcedIn (es ++ [e]), d.1 = some id ∧ Written issuer (es ++ [e]) id d.2 := by
      intro d mem
      obtain ⟨id, announced, event, written⟩ := sent d mem
      refine ⟨id, ?_, event, written.append [e]⟩
      rw [announcedIn_append]
      exact List.mem_append_left _ announced
    rw [deliveries_append, last]
    rcases genuine.sends with none | ⟨id, letter, letters, announced, new, written⟩
    · rw [none, List.map_nil, List.append_nil]
      exact ⟨nodup, earlier⟩
    · rw [letters, announced, List.map_singleton]
      refine ⟨?_, fun d mem => ?_⟩
      · -- what was sent before is for events that were announced before
        rw [List.map_append, List.map_singleton]
        refine List.nodup_append.2 ⟨nodup, List.nodup_singleton _, ?_⟩
        intro old mem this same old_eq
        obtain rfl := List.mem_singleton.1 same
        obtain ⟨d, stored, rfl⟩ := List.mem_map.1 mem
        obtain ⟨other, early, event, -⟩ := sent d stored
        exact new (Option.some.inj (event.symm.trans old_eq) ▸ early)
      · rcases List.mem_append.1 mem with old | this
        · exact earlier d old
        · obtain rfl := List.mem_singleton.1 this
          refine ⟨id, ?_, rfl, written.append [e]⟩
          rw [announcedIn_announced announced]
          exact List.mem_append_right _ (List.mem_singleton_self id)

/-- Whatever use cases and messages come, if each message announces an event as it was stored at some time before:
no event's letter is sent twice, and what is sent is what the use case has written with the event. The first message
about an event settles it by what the mailer answers, all later ones are skipped, and an event is pending exactly as
long as no message about it has come. -/
theorem letters_sent_once (issuer : Issuer) (es : List Execution) (genuine : Genuine issuer es) :
    ((deliveries issuer es .start).map (·.1)).Nodup ∧
    (∀ d ∈ deliveries issuer es .start, ∃ id, d.1 = some id ∧ Written issuer es id d.2) ∧
    (∀ before now body accepts after, es = before ++ ⟨now, .handle body, accepts⟩ :: after →
      Answered issuer before now body accepts) ∧
    ∀ event ∈ (World.after issuer es .start).tables.outbox.values,
      event.status = .pending ↔ event.id ∉ announcedIn es := by
  obtain ⟨nodup, sent⟩ := genuine.nodup_deliveries
  refine ⟨nodup, fun d mem => ?_, ?_, ?_⟩
  · obtain ⟨id, -, event, written⟩ := sent d mem
    exact ⟨id, event, written⟩
  · rintro before now body accepts after rfl
    exact genuine.answered
  · exact (genuine.delivered es [] (List.append_nil es).symm).pending

/-! ### One letter, announced twice -/

namespace Sample
open Json

def letter : Letter := ⟨"ann@x", tokenA.text, "register"⟩

/-- The event of the registration, as it is stored first. -/
def event : OutboxEvent :=
  ⟨1, 1, "user", Purpose.register.eventType, letter.payload.toJson, .pending, 1000000, 1000000, none⟩

def message : Execution := ⟨2000000, .handle (Value.object (Relay.published event)).render, fun _ => true⟩

/-- The same again in an envelope. -/
def again : Execution :=
  ⟨3000000, .handle (Value.object [("schema", .null), ("payload", .object (Relay.published event))]).render, fun _ => true⟩

theorem genuine : Genuine issuer [register, message, again] := by
  have fits : Relay.Fits 1 := ⟨by decide, by decide⟩
  intro before now body accepts after split
  obtain ⟨late, rfl, announces⟩ : ∃ late, before = [register] ++ late ∧ Relay.Announces event body := by
    rcases before with _ | ⟨a, _ | ⟨b, _ | ⟨c, before⟩⟩⟩
    · simp [register] at split
    · simp only [List.cons_append, List.nil_append, List.cons.injEq] at split
      obtain ⟨rfl, first, -⟩ := split
      obtain rfl := Task.handle.inj (congrArg Execution.task first)
      exact ⟨[], rfl, Relay.announces_published fits fits⟩
    · simp only [List.cons_append, List.nil_append, List.cons.injEq] at split
      obtain ⟨rfl, rfl, second, -⟩ := split
      obtain rfl := Task.handle.inj (congrArg Execution.task second)
      exact ⟨[message], rfl, Relay.announces_envelope fits fits trivial (by decide)⟩
    · simp at split
  obtain ⟨hash, world⟩ := after_register
  refine ⟨[register], late, event, rfl, ?_, announces⟩
  rw [world]
  exact List.mem_singleton_self _

end Sample

theorem letters_sent_once_twice_announced :
    Genuine Sample.issuer [Sample.register, Sample.message, Sample.again] ∧
    ((deliveries Sample.issuer [Sample.register, Sample.message, Sample.again] .start).map (·.1)).Nodup ∧
    Answered Sample.issuer [Sample.register] 2000000
      (Json.Value.object (Relay.published Sample.event)).render (fun _ => true) := by
  obtain ⟨nodup, -, answered, -⟩ := letters_sent_once Sample.issuer _ Sample.genuine
  exact ⟨Sample.genuine, nodup, answered [Sample.register] _ _ _ [Sample.again] rfl⟩

end Accounts
