import Accounts.Proofs.Run.Pool
/-! How events are settled when handlers run at the same time as each other and as use cases. Main statement: an event
is settled once, as the letter of one of its handlers was answered. -/
namespace Accounts
open Time

/-- What may become of an event: it stays as it is, or it is settled while it is pending. -/
inductive OutboxEvent.SettlesTo (e : OutboxEvent) : OutboxEvent → Prop
  | same : e.SettlesTo e
  | settled (pending : e.status = .pending) {status : OutboxStatus} (ends : status ≠ .pending) (now : Instant) :
      e.SettlesTo (e.settle status now)

theorem OutboxEvent.SettlesTo.trans {e e' e'' : OutboxEvent} (h : e.SettlesTo e') (h' : e'.SettlesTo e'') :
    e.SettlesTo e'' := by
  cases h with
  | same => exact h'
  | settled pending ends now =>
    cases h' with
    | same => exact .settled pending ends now
    | settled again => exact absurd again ends

namespace Tables
variable {now : Instant} {t t' : Tables} {c : StoreCall} {ok : Bool} {id : Int}

theorem Change.settlesTo (step : Change now t c ok t') {e : OutboxEvent} (found : t.outbox.get? id = some e) :
    ∃ e', t'.outbox.get? id = some e' ∧ e.SettlesTo e' := by
  cases step with
  | create | rotate => exact ⟨e, Table.get?_push _ found, .same⟩
  | @updateStatus other status event stored can =>
    by_cases here : id = other
    · subst here
      obtain rfl := Option.some.inj (found.symm.trans stored)
      obtain ⟨pending, ends⟩ := OutboxStatus.canBecome_iff.1 can
      exact ⟨e.settle status now, by rw [Table.get?_adjust_self, found]; rfl, .settled pending ends now⟩
    · exact ⟨e, by rw [Table.get?_adjust_of_ne _ _ here, found], .same⟩
  | _ => exact ⟨e, found, .same⟩

/-- Where the status of an event comes from. -/
theorem Change.status_cases (step : Change now t c ok t') {e : OutboxEvent} (found : t'.outbox.get? id = some e) :
    t.outbox.get? id = some e ∨ e.status = .pending ∨ c = .updateStatus id e.status := by
  cases step with
  | create | rotate =>
    rcases Table.get?_of_push found with old | ⟨-, rfl⟩
    · exact .inl old
    · exact .inr (.inl rfl)
  | @updateStatus other status event stored can =>
    by_cases here : id = other
    · subst here
      rw [Table.get?_adjust_self, stored] at found
      obtain rfl := Option.some.inj found
      exact .inr (.inr rfl)
    · exact .inl (by rwa [Table.get?_adjust_of_ne _ _ here] at found)
  | _ => exact .inl found

end Tables

/-! ### Steps on tables in memory -/

namespace World
variable {issuer : Issuer} {now : Instant} {accepts : Letter → Bool} {w w' : World}

theorem answer_store (issuer : Issuer) (now : Instant) (accepts : Letter → Bool) (memory : w.store = .memory w.tables)
    (c : StoreCall) :
    answer issuer now (Relay.mailer accepts) (.store c) w =
      ((Tables.answer now c w.tables).1, ⟨.memory (Tables.answer now c w.tables).2, w.denied⟩) := by
  simp only [answer, memory, Store.answer]

theorem eq_of_memory (memory : w.store = .memory w.tables) : w = ⟨.memory w.tables, w.denied⟩ :=
  congrArg (World.mk · w.denied) memory

/-- What a step does to a world with its tables in memory. -/
inductive Steps (now : Instant) (w : World) : Effect → World → Prop
  | store (c : StoreCall) : Steps now w (.store c) ⟨.memory (Tables.answer now c w.tables).2, w.denied⟩
  | other (e : Effect) (denied : Issuer.DenyList) : Steps now w e ⟨w.store, denied⟩

theorem answer_steps {e : Effect} {reply : e.Reply} (memory : w.store = .memory w.tables)
    (answered : answer issuer now (Relay.mailer accepts) e w = (reply, w')) : w.Steps now e w' := by
  obtain ⟨-, rfl⟩ := Prod.ext_iff.1 answered
  cases e with
  | store c => exact answer_store issuer now accepts memory c ▸ .store c
  | _ => exact .other _ _

end World

namespace Pool
variable {issuer : Issuer} {turns more : List Turn} {s s' : Pool}

theorem memory_run (issuer : Issuer) (turns : List Turn) :
    (run issuer .start turns).world.store = .memory (run issuer .start turns).world.tables := by
  refine run_induction (P := fun s => s.world.store = .memory s.world.tables) (fun step memory => ?_) [] rfl turns
  cases step with
  | step at_ answered =>
    cases World.answer_steps memory answered with
    | store c => rfl
    | other => exact memory
  | _ => exact memory

theorem consistent_run (issuer : Issuer) (turns : List Turn) : (run issuer .start turns).world.tables.Consistent := by
  induction turns using List.reverseRecOn with
  | nil => exact Tables.consistent_empty
  | append_singleton turns turn ih =>
    have step := after_after issuer (run issuer .start turns) turn
    rw [run_append_singleton]
    generalize (run issuer .start turns).after issuer turn = s' at step ⊢
    cases step with
    | step at_ answered =>
      cases World.answer_steps (memory_run issuer turns) answered with
      | store c => exact ih.change (Tables.answer_change _ c _)
      | other => exact ih
    | _ => exact ih

/-- What becomes of an event in one turn. -/
theorem After.settlesTo {turn : Turn} (step : After issuer s turn s') (memory : s.world.store = .memory s.world.tables)
    {id : Int} {e : OutboxEvent} (found : s.world.tables.outbox.get? id = some e) :
    ∃ e', s'.world.tables.outbox.get? id = some e' ∧ e.SettlesTo e' := by
  cases step with
  | step at_ answered =>
    cases World.answer_steps memory answered with
    | store c => exact (Tables.answer_change _ c _).settlesTo found
    | other => exact ⟨e, found, .same⟩
  | _ => exact ⟨e, found, .same⟩

theorem settlesTo_run (turns more : List Turn) {id : Int} {e : OutboxEvent}
    (found : (run issuer .start turns).world.tables.outbox.get? id = some e) :
    ∃ e', (run issuer .start (turns ++ more)).world.tables.outbox.get? id = some e' ∧ e.SettlesTo e' := by
  induction more using List.reverseRecOn with
  | nil => exact ⟨e, by rwa [List.append_nil], .same⟩
  | append_singleton more turn ih =>
    obtain ⟨mid, there, early⟩ := ih
    have step := after_after issuer (run issuer .start (turns ++ more)) turn
    obtain ⟨e', later, late⟩ := step.settlesTo (memory_run issuer _) there
    rw [← List.append_assoc, run_append_singleton]
    exact ⟨e', later, early.trans late⟩

/-! ### Letters and the rows that they settle -/

/-- A handler of a message about this event has had its letter answered so. -/
def Sent (s : Pool) (id : Int) (sent : Bool) : Prop :=
  ∃ x ∈ s.trace, ∃ body r l, s.tasks[x.place]? = some (.handle body) ∧ Relay.RowRecord.parse? body = some r ∧
    r.id = id ∧ x.exchange = ⟨.send l, sent⟩

theorem After.sent {turn : Turn} (step : After issuer s turn s') {id : Int} {sent : Bool} (h : s.Sent id sent) :
    s'.Sent id sent := by
  obtain ⟨x, mem, body, r, l, task, rest⟩ := h
  exact ⟨x, step.trace.subset mem, body, r, l, task_of_within step.tasks task, rest⟩

/-- Only a handler settles an event, the one that its message names, once its letter was answered. -/
theorem settle_of_asks {k : Task} {log : List Exchange} {id : Int} {status : OutboxStatus}
    (asks : k.Asks log (.store (.updateStatus id status))) :
    ∃ body r l sent, k = .handle body ∧ Relay.RowRecord.parse? body = some r ∧ r.id = id ∧
      status = Relay.settledAs sent ∧ ⟨.send l, sent⟩ ∈ log := by
  cases k with
  | useCase u =>
    obtain ⟨seen, ⟨free, -⟩, -⟩ := asks
    exact free.elim
  | handle body =>
    cases asks with
    | @settle r read l tells row pending sent => exact ⟨body, r, l, sent, rfl, read, rfl, rfl, by simp⟩

/-- A settled event is one whose letter was answered before. -/
theorem sent_of_settled (issuer : Issuer) (turns : List Turn) {id : Int} {e : OutboxEvent}
    (found : (run issuer .start turns).world.tables.outbox.get? id = some e) (settled : e.status ≠ .pending) :
    ∃ sent, e.status = Relay.settledAs sent ∧ (run issuer .start turns).Sent id sent := by
  induction turns using List.reverseRecOn generalizing e with
  | nil => cases found
  | append_singleton turns turn ih =>
    have step := after_after issuer (run issuer .start turns) turn
    have earlier (found : (run issuer .start turns).world.tables.outbox.get? id = some e) :
        ∃ sent, e.status = Relay.settledAs sent ∧ (run issuer .start (turns ++ [turn])).Sent id sent := by
      obtain ⟨sent, same, before⟩ := ih found settled
      rw [run_append_singleton]
      exact ⟨sent, same, step.sent before⟩
    rw [run_append_singleton] at found earlier ⊢
    generalize (run issuer .start turns).after issuer turn = s' at step found earlier ⊢
    cases step with
    | @step place now accepts k effect next at_ reply world answered =>
      cases World.answer_steps (memory_run issuer turns) answered with
      | other => exact earlier found
      | store c =>
        rcases (Tables.answer_change now c _).status_cases found with old | pending | rfl
        · exact earlier old
        · exact absurd pending settled
        · obtain ⟨body, r, l, sent, rfl, read, named, same, before⟩ := settle_of_asks (asks_of_step at_)
          obtain ⟨x, mem, rfl, answer⟩ := mem_log.1 before
          have task := task_of_within (After.step at_ answered).tasks (task_of_thread at_)
          exact ⟨sent, same, x, List.mem_append_left _ mem, body, r, l, task, read, named, answer⟩
    | _ => exact earlier found

/-! ### Steps of a handler -/

variable {place : Nat} {body : Bytes} {before : List Turn} {now : Instant} {accepts : Letter → Bool}

/-- A turn of a thread, or of a place that has none to take. -/
theorem step_cases (issuer : Issuer) (before : List Turn) (place : Nat) (now : Instant) (accepts : Letter → Bool) :
    (run issuer .start (before ++ [.step place now accepts])).world = (run issuer .start before).world ∨
    ∃ k e next reply, (run issuer .start before).threads[place]? = some ⟨k, .ask e next⟩ ∧
      World.answer issuer now (Relay.mailer accepts) e (run issuer .start before).world =
        (reply, (run issuer .start (before ++ [.step place now accepts])).world) ∧
      ⟨place, now, e, reply⟩ ∈ (run issuer .start (before ++ [.step place now accepts])).trace := by
  have step := after_after issuer (run issuer .start before) (.step place now accepts)
  rw [run_append_singleton]
  generalize (run issuer .start before).after issuer (.step place now accepts) = s' at step ⊢
  cases step with
  | step at_ answered => exact .inr ⟨_, _, _, _, at_, answered, by simp⟩
  | idle => exact .inl rfl

/-- The one change that a handler may make: the pending event that its message names is settled. -/
inductive Settles (body : Bytes) (now : Instant) (w : World) : World → Prop
  | of {r : Relay.RowRecord} (read : Relay.RowRecord.parse? body = some r) {e : OutboxEvent}
      (found : w.tables.outbox.get? r.id = some e) (pending : e.status = .pending) {status : OutboxStatus}
      (ends : status ≠ .pending) : Settles body now w
        ⟨.memory { w.tables with outbox := w.tables.outbox.adjust r.id (OutboxEvent.settle status now) }, w.denied⟩

theorem settles_of_asks {log : List Exchange} {e : Effect} {w w' : World} {reply : e.Reply}
    (asks : Relay.Asks body log e) (memory : w.store = .memory w.tables)
    (answered : World.answer issuer now (Relay.mailer accepts) e w = (reply, w')) : w' = w ∨ Settles body now w w' := by
  have same := (World.eq_of_memory memory).symm
  obtain ⟨-, rfl⟩ := Prod.ext_iff.1 answered
  cases asks with
  | send => exact .inl rfl
  | lookup =>
    rw [World.answer_store issuer now accepts memory]
    exact .inl same
  | @settle r read l tells row _ sent =>
    rw [World.answer_store issuer now accepts memory]
    have change := Tables.answer_change now (.updateStatus r.id (Relay.settledAs sent)) w.tables
    generalize (Tables.answer now (.updateStatus r.id (Relay.settledAs sent)) w.tables).1.isOk = ok at change
    generalize (Tables.answer now (.updateStatus r.id (Relay.settledAs sent)) w.tables).2 = after at change ⊢
    cases change with
    | refused => exact .inl same
    | settled => exact .inl same
    | read reads => cases reads
    | updateStatus found can =>
      obtain ⟨pending, ends⟩ := OutboxStatus.canBecome_iff.1 can
      exact .inr (.of read found pending ends)

/-- A thread that takes a step has the task that is in its place in the end. -/
theorem task_eq {k k' : Task} {rest : Program k.Result} {turn : Turn}
    (at_ : (run issuer .start before).threads[place]? = some ⟨k, rest⟩) (within : before ++ [turn] <+: turns)
    (task : (run issuer .start turns).tasks[place]? = some k') : k = k' := by
  obtain ⟨more, rfl⟩ := within
  rw [List.append_assoc] at task
  exact Option.some.inj ((task_of_within (tasks_within _) (task_of_thread at_)).symm.trans task)

theorem handler_step (task : (run issuer .start turns).tasks[place]? = some (.handle body))
    (within : before ++ [.step place now accepts] <+: turns) :
    (run issuer .start (before ++ [.step place now accepts])).world = (run issuer .start before).world ∨
    Settles body now (run issuer .start before).world
      (run issuer .start (before ++ [.step place now accepts])).world := by
  rcases step_cases issuer before place now accepts with same | ⟨k, e, next, reply, at_, answered, -⟩
  · exact .inl same
  · obtain rfl := task_eq at_ within task
    exact settles_of_asks (asks_of_step at_) (memory_run issuer before) answered

end Pool

/-! ### Handlers that decline -/

/-- A message that cannot be read, or one about which nothing is to be done. -/
def Relay.Declined : Except HandleError Handled → Prop
  | .error e => e = .badRecord ∨ e = .badPayload
  | .ok handled => ∃ why, handled.outcome = .skipped why

theorem Relay.Ends.of_declined {body : Bytes} {log : List Exchange} {a : Except HandleError Handled}
    (ended : Ends body log a) (declined : Declined a) {ex : Exchange} (mem : ex ∈ log) :
    ∃ id, ex.effect = .store (.findEvent id) := by
  cases ended with
  | badRecord | badPayload | nothing => cases mem
  | unfound => rcases declined with none | none <;> cases none
  | missing | settled =>
    obtain rfl := List.mem_singleton.1 mem
    exact ⟨_, rfl⟩
  | unsettled => rcases declined with none | none <;> cases none
  | @sent r row l sent first =>
    obtain ⟨why, skipped⟩ := declined
    cases sent <;> cases skipped

namespace Pool
variable {issuer : Issuer} {turns : List Turn} {place : Nat} {body : Bytes} {a : (Task.handle body).Result}

theorem declined_step (at_ : (run issuer .start turns).threads[place]? = some ⟨.handle body, .done a⟩)
    (declined : Relay.Declined a) {before : List Turn} {now : Instant} {accepts : Letter → Bool}
    (within : before ++ [.step place now accepts] <+: turns) :
    (run issuer .start (before ++ [.step place now accepts])).world = (run issuer .start before).world := by
  rcases step_cases issuer before place now accepts with same | ⟨k, e, next, reply, there, answered, mem⟩
  · exact same
  · obtain rfl := task_eq there within (task_of_thread at_)
    obtain ⟨more, rfl⟩ := within
    have ended : Relay.Ends body _ a := ends_of_done at_
    obtain ⟨id, lookup⟩ := ended.of_declined declined (mem_log.2 ⟨_, (trace_within more).subset mem, rfl, rfl⟩)
    obtain rfl : e = .store (.findEvent id) := lookup
    have memory := memory_run issuer before
    rw [World.answer_store issuer now accepts memory] at answered
    exact (Prod.ext_iff.1 answered).2.symm.trans (World.eq_of_memory memory).symm

/-- However handlers of any messages, use cases and each other's steps are interleaved: an event is settled once at most,
and processed or failed only after the letter of one of its handlers was taken or refused; a handler that declines its
message has sent nothing and changed nothing; and no step of a handler changes anything but to settle the event that
its message names. -/
theorem events_settled_once (issuer : Issuer) (turns : List Turn) :
    (∀ more id e, (run issuer .start turns).world.tables.outbox.get? id = some e →
      ∃ e', (run issuer .start (turns ++ more)).world.tables.outbox.get? id = some e' ∧ e.SettlesTo e') ∧
    (∀ id e, (run issuer .start turns).world.tables.outbox.get? id = some e →
      (e.status = .processed → (run issuer .start turns).Sent id true) ∧
      (e.status = .failed → (run issuer .start turns).Sent id false)) ∧
    (∀ place body a, (run issuer .start turns).threads[place]? = some ⟨.handle body, .done a⟩ →
      Relay.Declined a →
      (∀ x ∈ (run issuer .start turns).trace, x.place = place → ∀ l, x.exchange.effect ≠ .send l) ∧
      ∀ before now accepts, before ++ [.step place now accepts] <+: turns →
        (run issuer .start (before ++ [.step place now accepts])).world = (run issuer .start before).world) ∧
    (∀ place body, (run issuer .start turns).tasks[place]? = some (.handle body) →
      ∀ before now accepts, before ++ [.step place now accepts] <+: turns →
        (run issuer .start (before ++ [.step place now accepts])).world = (run issuer .start before).world ∨
        Settles body now (run issuer .start before).world
          (run issuer .start (before ++ [.step place now accepts])).world) := by
  refine ⟨fun more id e found => settlesTo_run turns more found, fun id e found => ?_,
    fun place body a at_ declined => ?_,
    fun place body task before now accepts within => handler_step task within⟩
  · have letter (settled : e.status ≠ .pending) := sent_of_settled issuer turns found settled
    refine ⟨fun processed => ?_, fun failed => ?_⟩
    · obtain ⟨sent, same, before⟩ := letter (by rw [processed]; decide)
      cases sent with
      | true => exact before
      | false => cases processed.symm.trans same
    · obtain ⟨sent, same, before⟩ := letter (by rw [failed]; decide)
      cases sent with
      | true => cases failed.symm.trans same
      | false => exact before
  · have ended : Relay.Ends body _ a := ends_of_done at_
    refine ⟨fun x mem here l sends => ?_, fun before now accepts within => declined_step at_ declined within⟩
    obtain ⟨id, lookup⟩ := ended.of_declined declined (mem_log.2 ⟨x, mem, here, rfl⟩)
    cases sends.symm.trans lookup

end Pool
end Accounts
