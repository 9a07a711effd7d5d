import Accounts.Proofs.Run.UseCase
import Accounts.Proofs.Store.Tokens
/-! Use cases that run at the same time. Between two steps of one of them any number of steps of others may come, and
each step is answered at an instant of its own. Main statement: a user never has two active tokens. -/
namespace Accounts
open Time

/-- A use case that has begun, with what is left of it. -/
structure Job where
  useCase : UseCase
  rest : Program (Except ServiceError useCase.Answer)

/-- A service with its jobs, and what they have asked for so far. -/
structure Running where
  world : World
  jobs : List Job
  /-- All calls of the store, each with the instant at which it was answered. -/
  calls : List (Instant × StoreCall)
  /-- What the jobs have read from the clock. -/
  readings : List Instant

inductive Move
  | start (u : UseCase)
  /-- The job in this place takes its next step. -/
  | step (place : Nat) (now : Instant)

def Effect.calls (now : Instant) : Effect → List (Instant × StoreCall)
  | .store c => [(now, c)]
  | _ => []

namespace Running

def start : Running := ⟨⟨.empty, []⟩, [], [], []⟩

variable (issuer : Issuer) (mail : MailAction)

/-- The state after a move. A job that has ended, or that there is none of, changes nothing. -/
def after (s : Running) : Move → Running
  | .start u => { s with jobs := s.jobs ++ [⟨u, u.action.run⟩] }
  | .step place now =>
    match s.jobs[place]? with
    | some ⟨u, .ask e next⟩ =>
      let (reply, world) := World.answer issuer now mail e s.world
      { world
        jobs := s.jobs.set place ⟨u, next reply⟩
        calls := s.calls ++ e.calls now
        readings := Program.reading e reply s.readings }
    | _ => s

def run (moves : List Move) : Running := moves.foldl (after issuer mail) start

/-- The tables come from the calls, and every job asks only for what it may after some of the readings. -/
structure Valid (s : Running) : Prop where
  tables : s.world.store = .memory (Tables.after s.calls .empty)
  issued : ∀ r ∈ Tables.issuedAt s.calls, r ∈ s.readings
  jobs : ∀ job ∈ s.jobs, ∃ seen, (∀ r ∈ seen, r ∈ s.readings) ∧ Program.Within UseCase.MayAsk seen job.rest

variable {issuer mail}

theorem valid_start : start.Valid where
  tables := rfl
  issued _ mem := absurd mem List.not_mem_nil
  jobs _ mem := absurd mem List.not_mem_nil

theorem mem_reading {e : Effect} (reply : e.Reply) {seen : List Instant} {r : Instant} (mem : r ∈ seen) :
    r ∈ Program.reading e reply seen := by
  cases e with
  | clock => exact List.mem_cons_of_mem _ mem
  | _ => exact mem

theorem reading_mono {e : Effect} (reply : e.Reply) {seen more : List Instant} (sub : ∀ r ∈ seen, r ∈ more) :
    ∀ r ∈ Program.reading e reply seen, r ∈ Program.reading e reply more := by
  cases e with
  | clock =>
    intro r mem
    rcases List.mem_cons.1 mem with rfl | old
    · exact List.mem_cons_self
    · exact List.mem_cons_of_mem _ (sub r old)
  | _ => exact sub

/-- A call that a job may make issues its token, if any, at an instant that the job has read. -/
theorem issuedAt_mayAsk {seen : List Instant} {now : Instant} {e : Effect} (free : UseCase.MayAsk seen e) :
    ∀ r ∈ Tables.issuedAt (e.calls now), r ∈ seen := by
  intro r mem
  cases e with
  | store c =>
    cases c with
    | create | rotate =>
      obtain rfl : r = _ := by simpa [Effect.calls, Tables.issuedAt, StoreCall.newToken?] using mem
      exact free
    | _ => simp [Effect.calls, Tables.issuedAt, StoreCall.newToken?] at mem
  | _ => simp [Effect.calls, Tables.issuedAt] at mem

theorem answer_store {now : Instant} {e : Effect} {seen : List Instant} {w : World} {t : Tables}
    (free : UseCase.MayAsk seen e) (memory : w.store = .memory t) :
    (World.answer issuer now mail e w).2.store = .memory (Tables.after (e.calls now) t) := by
  cases e with
  | store c => simp [World.answer, memory, Store.answer, Effect.calls, Tables.after]
  | send letter => exact absurd free id
  | _ => exact memory

theorem Valid.after {s : Running} (h : s.Valid) (move : Move) : (s.after issuer mail move).Valid := by
  cases move with
  | start u =>
    refine { h with jobs := fun job mem => ?_ }
    rcases List.mem_append.1 mem with old | new
    · exact h.jobs job old
    · obtain rfl := List.mem_singleton.1 new
      exact ⟨[], fun r none => absurd none List.not_mem_nil, u.within_mayAsk⟩
  | step place now =>
    simp only [Running.after]
    split
    · next u e next at_ =>
      obtain ⟨seen, sub, free, later⟩ := h.jobs _ (List.mem_of_getElem? at_)
      refine ⟨?_, fun r mem => ?_, fun job mem => ?_⟩
      · rw [answer_store free h.tables, Tables.after_append]
      · have split : Tables.issuedAt (s.calls ++ e.calls now) =
            Tables.issuedAt s.calls ++ Tables.issuedAt (e.calls now) := List.filterMap_append
        rw [split, List.mem_append] at mem
        rcases mem with old | new
        · exact mem_reading _ (h.issued r old)
        · exact mem_reading _ (sub r (issuedAt_mayAsk free r new))
      · rcases List.mem_or_eq_of_mem_set mem with old | rfl
        · obtain ⟨seen, sub, free⟩ := h.jobs job old
          exact ⟨seen, fun r mem => mem_reading _ (sub r mem), free⟩
        · exact ⟨_, reading_mono _ sub, later _⟩
    · exact h

theorem valid_run (moves : List Move) : (run issuer mail moves).Valid := by
  suffices ∀ s : Running, s.Valid → (moves.foldl (Running.after issuer mail) s).Valid from this start valid_start
  induction moves with
  | nil => exact fun s h => h
  | cons move moves ih => exact fun s h => ih _ (h.after move)

theorem Valid.world_tables {s : Running} (h : s.Valid) : s.world.tables = Tables.after s.calls .empty := by
  simp only [World.tables, h.tables]

def activeTokens (s : Running) (userId : Int) (at_ : Instant) : List VerificationToken :=
  s.world.tables.tokens.values.filter fun token => token.userId = userId && token.isActive at_

/-- However the use cases are interleaved: the instants at which tokens are issued were read from the clock, and from
the last of these on at most one token of each user is active. A rotation spends exactly the tokens of its user that
were active when the new token was issued, and leaves all others as they were. -/
theorem length_activeTokens_le_one (issuer : Issuer) (mail : MailAction) (moves : List Move) :
    let s := run issuer mail moves
    (∀ r ∈ Tables.issuedAt s.calls, r ∈ s.readings) ∧
    (∀ (userId : Int) (at_ : Instant), (∀ r ∈ Tables.issuedAt s.calls, r ≤ at_) →
      (s.activeTokens userId at_).length ≤ 1) ∧
    ∀ (now : Instant) (userId : Int) (token : NewToken) (event : NewEvent),
      (Tables.answer now (.rotate userId token event) s.world.tables).1 = .ok () →
      ∀ (id : Int) (old : VerificationToken), s.world.tables.tokens.get? id = some old →
        (Tables.answer now (.rotate userId token event) s.world.tables).2.tokens.get? id = some
          (if old.userId = userId ∧ old.consumedAt = none ∧ token.issuedAt < old.expiresAt then
            { old with consumedAt := some token.issuedAt, updatedAt := token.issuedAt } else old) := by
  intro s
  have valid : s.Valid := valid_run moves
  refine ⟨valid.issued, fun userId at_ late => ?_, fun now userId token event ok id old found => ?_⟩
  · have superseded := Tables.superseded_after s.calls Tables.consistent_empty Tables.superseded_empty
    rw [activeTokens, valid.world_tables]
    exact superseded.length_active_le_one (Tables.consistent_after s.calls) late userId
  · exact Tables.get?_rotate ok found

end Running
end Accounts
