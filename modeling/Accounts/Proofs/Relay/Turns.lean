import Accounts.Proofs.Run.Basic
import Accounts.Relay.Loop
/-! The relay's loop with all that can happen around it: messages come in after some time, handling them takes time,
and the loop may be cancelled at any moment. Main statement: every message that is fetched is handled once and
acknowledged once, in order and before the next one is waited for, and nothing but a stop ends the loop. -/
namespace Accounts.Relay
open Program

/-! ### Waiting for messages

Time goes by in moments. A wait looks once a moment whether the loop is cancelled, and only then at the source. -/

/-- What a source gives. The fetch of a message is pending for some moments, and its handling and its acknowledgement
take some; the last fetch finds the source closed, or fails. -/
inductive Script
  | ends (pending : Nat) (fault : Option BrokerError)
  | message (pending : Nat) (body : Bytes) (busy : Nat) (rest : Script)

/-- Whether the loop is cancelled by a moment, if the signal is given at this one. -/
def cancelled (signal : Option Nat) (moment : Nat) : Bool := signal.any (· ≤ moment)

/-- What a wait from a moment on ends with, if the fetch is pending for so many moments, and the moment after it. -/
def wait (signal : Option Nat) (arrival : Arrival) (moment : Nat) : Nat → Arrival × Nat
  | 0 => (if cancelled signal moment then .cancelled else arrival, moment + 1)
  | pending + 1 =>
    if cancelled signal moment then (.cancelled, moment + 1) else wait signal arrival (moment + 1) pending

namespace Script

/-- What is fetched after the last message. -/
def ending : Script → Arrival
  | ends _ none => .closed
  | ends _ (some e) => .fault e
  | message _ _ _ rest => rest.ending

def bodies : Script → List Bytes
  | ends _ _ => []
  | message _ body _ rest => body :: rest.bodies

/-- The moment at which a fetch, the first one counted 0, has an answer, if the first wait begins at this one. -/
def readyAt (moment : Nat) : Script → Nat → Nat
  | ends pending _, _ => moment + pending
  | message pending _ _ _, 0 => moment + pending
  | message pending _ busy rest, i + 1 => rest.readyAt (moment + pending + 1 + busy) i

/-- What the waits of the loop end with, the first one beginning at this moment. -/
def arrivals (signal : Option Nat) (moment : Nat) : Script → List Arrival
  | ends pending fault => [(wait signal (ends pending fault).ending moment pending).1]
  | message pending body busy rest =>
    match wait signal (.message body) moment pending with
    | (.message body, later) => .message body :: rest.arrivals signal (later + busy)
    | (stop, _) => [stop]

/-- The first `count` messages are the ones that have an answer before the loop is cancelled, and this is what the wait
after them ends with. -/
structure Stops (script : Script) (signal : Option Nat) (moment count : Nat) (stop : Arrival) : Prop where
  count_le : count ≤ script.bodies.length
  fetched_iff : ∀ i < script.bodies.length, i < count ↔ cancelled signal (script.readyAt moment i) = false
  stop_eq : stop = if cancelled signal (script.readyAt moment count) then .cancelled else script.ending

end Script

variable {signal : Option Nat} {moment later : Nat}

theorem cancelled_mono (order : moment ≤ later) (h : cancelled signal moment = true) : cancelled signal later = true := by
  cases signal with
  | none => exact h
  | some given =>
    simp only [cancelled, Option.any_some, decide_eq_true_eq] at h ⊢
    exact Nat.le_trans h order

/-- A fetch that has its answer at the moment of the signal is given up. -/
theorem wait_of_cancelled (arrival : Arrival) {pending : Nat} (h : cancelled signal (moment + pending) = true) :
    (wait signal arrival moment pending).1 = .cancelled := by
  induction pending generalizing moment with
  | zero =>
    rw [Nat.add_zero] at h
    rw [wait, if_pos h]
  | succ pending ih =>
    rw [wait]
    by_cases already : cancelled signal moment = true
    · rw [if_pos already]
    · rw [if_neg already]
      exact ih (by rwa [Nat.succ_add_eq_add_succ])

theorem wait_of_ready {arrival : Arrival} {pending : Nat} (h : cancelled signal (moment + pending) = false) :
    wait signal arrival moment pending = (arrival, moment + pending + 1) := by
  induction pending generalizing moment with
  | zero =>
    rw [Nat.add_zero] at h
    rw [wait, if_neg (by simp [h]), Nat.add_zero]
  | succ pending ih =>
    have free : ¬cancelled signal moment = true := fun already => by
      rw [cancelled_mono (Nat.le_add_right ..) already] at h
      exact absurd h (by decide)
    rw [wait, if_neg free, ih (by rwa [Nat.succ_add_eq_add_succ]), Nat.succ_add_eq_add_succ]

namespace Script

theorem le_readyAt (moment : Nat) (script : Script) (i : Nat) : moment ≤ script.readyAt moment i := by
  induction script generalizing moment i with
  | ends pending fault =>
    rw [readyAt]
    exact Nat.le_add_right moment pending
  | message pending body busy rest ih =>
    cases i with
    | zero => exact Nat.le_add_right moment pending
    | succ i => exact Nat.le_trans (by omega) (ih (moment + pending + 1 + busy) i)

/-- The waits end with what is fetched before the loop is cancelled, and then with a stop. -/
theorem arrivals_eq (script : Script) (signal : Option Nat) (moment : Nat) :
    ∃ count stop, script.Stops signal moment count stop ∧
      script.arrivals signal moment = (script.bodies.take count).map .message ++ [stop] := by
  induction script generalizing moment with
  | ends pending fault =>
    refine ⟨0, _, ⟨Nat.le_refl _, nofun, rfl⟩, ?_⟩
    rw [arrivals]
    rcases h : cancelled signal (moment + pending) with _ | _
    · rw [wait_of_ready h, readyAt, h]
      rfl
    · rw [wait_of_cancelled _ h, readyAt, h]
      rfl
  | message pending body busy rest ih =>
    rcases h : cancelled signal (moment + pending) with _ | _
    · obtain ⟨count, stop, stops, eq⟩ := ih (moment + pending + 1 + busy)
      refine ⟨count + 1, stop, ⟨Nat.succ_le_succ stops.count_le, ?_, stops.stop_eq⟩, ?_⟩
      · rintro (_ | i) below
        · exact ⟨fun _ => h, fun _ => Nat.succ_pos _⟩
        · exact Nat.succ_lt_succ_iff.trans (stops.fetched_iff i (Nat.lt_of_succ_lt_succ below))
      · rw [arrivals, wait_of_ready h]
        exact congrArg (List.cons _) eq
    · -- the signal stands from then on, and no later fetch is ready before it
      have given (i : Nat) : cancelled signal (readyAt moment (message pending body busy rest) i) = true := by
        refine cancelled_mono ?_ h
        cases i with
        | zero => exact Nat.le_refl _
        | succ i => exact Nat.le_trans (by omega) (le_readyAt (moment + pending + 1 + busy) rest i)
      refine ⟨0, .cancelled, ⟨Nat.zero_le _, fun i _ => ?_, (if_pos (given 0)).symm⟩, ?_⟩
      · simp [given i]
      · have stop := wait_of_cancelled (.message body) h
        rw [arrivals]
        rcases ends : wait signal (.message body) moment pending with ⟨arrival, later⟩
        rw [ends] at stop
        obtain rfl : arrival = .cancelled := stop
        rfl

theorem ending_ne_message (script : Script) (body : Bytes) : script.ending ≠ .message body := by
  induction script with
  | ends pending fault => cases fault <;> exact nofun
  | message pending body busy rest ih => exact ih

theorem Stops.ne_message {script : Script} {count : Nat} {stop : Arrival} (h : script.Stops signal moment count stop)
    (body : Bytes) : stop ≠ .message body := by
  rw [h.stop_eq]
  by_cases given : cancelled signal (script.readyAt moment count) = true
  · rw [if_pos given]
    exact nofun
  · rw [if_neg given]
    exact script.ending_ne_message body

end Script

/-! ### Turns -/

/-- How the loop ends when a wait ends with this and not with a message. -/
def Arrival.result : Arrival → Except BrokerError Unit
  | fault e => .error e
  | _ => .ok ()

variable {σ : Type} (answer : (e : Effect) → σ → e.Reply × σ) (accepts : Nat → Bool)

/-- The state in which messages are left, one handled after the other. -/
def stateAfter (bodies : List Bytes) (s : σ) : σ :=
  bodies.foldl (fun s body => (run answer (handle body).run s).2) s

/-- What is done about one message, the numbers beginning with this one. -/
def turn (number : Nat) (bodies : List Bytes) (s : σ) (message : Bytes × Nat) : List Step :=
  [.arrived (.message message.1),
    .handled (number + message.2) (run answer (handle message.1).run (stateAfter answer (bodies.take message.2) s)).1,
    .committed (number + message.2) (accepts (number + message.2))]

/-- One message: its turn comes first, and the rest follows in the state in which it is left. -/
theorem run_loop_message (number : Nat) (body : Bytes) (rest : List Arrival) (s : σ) :
    run answer (loop accepts number (.message body :: rest)) s =
      let first := run answer (handle body).run s
      let last := run answer (loop accepts (number + 1) rest) first.2
      (⟨last.1.result, .arrived (.message body) :: .handled number first.1 ::
        .committed number (accepts number) :: last.1.steps⟩, last.2) := by
  rw [loop, run_bind, run_bind]
  rfl

theorem run_loop {stop : Arrival} (stops : ∀ body, stop ≠ .message body) (bodies : List Bytes)
    (number : Nat) (s : σ) :
    run answer (loop accepts number (bodies.map .message ++ [stop])) s =
      (⟨stop.result, bodies.zipIdx.flatMap (turn answer accepts number bodies s) ++ [.arrived stop]⟩,
        stateAfter answer bodies s) := by
  induction bodies generalizing number s with
  | nil =>
    cases stop with
    | message body => exact absurd rfl (stops body)
    | closed => rfl
    | fault e => rfl
    | cancelled => rfl
  | cons body rest ih =>
    have later : (rest.zipIdx 1).flatMap (turn answer accepts number (body :: rest) s) =
        rest.zipIdx.flatMap (turn answer accepts (number + 1) rest (run answer (handle body).run s).2) := by
      rw [List.zipIdx_succ, List.flatMap_map]
      refine congrArg (fun f => rest.zipIdx.flatMap f) (funext fun message => ?_)
      simp only [turn, Nat.add_right_comm number 1, ← Nat.add_assoc]
      rfl
    rw [List.map_cons, List.cons_append, run_loop_message]
    dsimp only
    rw [ih, List.zipIdx_cons, List.flatMap_cons, later]
    rfl

/-- Whatever a source gives, whenever the loop is cancelled, however effects are answered and whichever
acknowledgements fail: the messages that are fetched before the loop stops are handled in order, each in the state that
those before it leave and with an acknowledgement tried before the next wait. The loop ends well when it is cancelled or
the source is closed, and with the fault of a fetch else. -/
theorem fetched_handled_acknowledged (script : Script) (signal : Option Nat) (s : σ) :
    ∃ count stop, script.Stops signal 0 count stop ∧
      let fetched := script.bodies.take count
      run answer (loop accepts 1 (script.arrivals signal 0)) s =
        (⟨stop.result, fetched.zipIdx.flatMap (turn answer accepts 1 fetched s) ++ [.arrived stop]⟩,
          stateAfter answer fetched s) := by
  obtain ⟨count, stop, stops, eq⟩ := script.arrivals_eq signal 0
  refine ⟨count, stop, stops, ?_⟩
  rw [eq]
  exact run_loop answer accepts stops.ne_message _ 1 s

end Accounts.Relay
