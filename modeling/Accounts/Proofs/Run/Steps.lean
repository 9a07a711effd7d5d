import Accounts.Proofs.Run.Interleaving
import Accounts.Proofs.Store.Ids
import Mathlib.Data.List.Induction
/-! The steps of jobs that run at the same time: what each one has asked for, and what it was answered. Main
statement: a job goes on as its use case says, by the answers that it has got. -/
namespace Accounts
open Time

/-- A question and its answer. -/
structure Exchange where
  effect : Effect
  reply : effect.Reply

namespace Program
variable {α β ε : Type}

/-! ### What a program asks for, by the answers that it has got -/

/-- Whatever it is answered, it asks only for what is allowed after the exchanges up to then, and comes only to what
is allowed after them. -/
def Proceeds (asks : List Exchange → Effect → Prop) (ends : List Exchange → α → Prop) :
    List Exchange → Program α → Prop
  | log, done a => ends log a
  | log, ask e next => asks log e ∧ ∀ reply, Proceeds asks ends (log ++ [⟨e, reply⟩]) (next reply)

section
variable {asks : List Exchange → Effect → Prop} {ends : List Exchange → Except ServiceError β → Prop}
  {log : List Exchange}

theorem proceeds_now {f : Instant → Action β} (free : asks log .clock)
    (next : ∀ now, Proceeds asks ends (log ++ [⟨.clock, now⟩]) (f now).run) :
    Proceeds asks ends log (Action.now >>= f).run := ⟨free, next⟩

theorem proceeds_store {c : StoreCall} {f : c.Answer → Action β} (free : asks log (.store c))
    (refused : ∀ e, ends (log ++ [⟨.store c, .error e⟩]) (.error e))
    (next : ∀ a, Proceeds asks ends (log ++ [⟨.store c, .ok a⟩]) (f a).run) :
    Proceeds asks ends log (Action.store c >>= f).run := by
  refine ⟨free, fun reply => ?_⟩
  cases reply with
  | error e => exact refused e
  | ok a => exact next a

end

theorem proceeds_last {c : StoreCall} {asks : List Exchange → Effect → Prop}
    {ends : List Exchange → c.Reply → Prop} {log : List Exchange} (free : asks log (.store c))
    (ended : ∀ reply, ends (log ++ [⟨.store c, reply⟩]) reply) : Proceeds asks ends log (Action.store c).run :=
  ⟨free, ended⟩

/-- What the first part comes to, the second one goes on with. -/
theorem proceeds_bind {asks : List Exchange → Effect → Prop} {ends : List Exchange → Except ε β → Prop}
    {a : ExceptT ε Program α} {f : α → ExceptT ε Program β} {log : List Exchange}
    (first : Proceeds asks (fun log x => match x with
      | .ok x => Proceeds asks ends log (f x).run
      | .error e => ends log (.error e)) log a.run) : Proceeds asks ends log (a >>= f).run := by
  change Proceeds asks ends log (Program.bind a.run (ExceptT.bindCont f))
  generalize a.run = p at first
  induction p generalizing log with
  | done x => cases x <;> exact first
  | ask e next ih => exact ⟨first.1, fun reply => ih reply (first.2 reply)⟩

/-- Where no answer matters, what it may ask for is enough. -/
theorem proceeds_of_within {allowed : List Instant → Effect → Prop} {asks : List Exchange → Effect → Prop}
    {ends : List Exchange → α → Prop} (free : ∀ seen log e, allowed seen e → asks log e) (ended : ∀ log a, ends log a)
    {p : Program α} {seen : List Instant} (h : Within allowed seen p) (log : List Exchange) :
    Proceeds asks ends log p := by
  induction p generalizing seen log with
  | done a => exact ended log a
  | ask e next ih => exact ⟨free seen log e h.1, fun reply => ih reply (h.2 reply) _⟩

end Program

/-! ### What each use case asks for -/

namespace UseCase

/-- How a use case asks for one thing after the other. Of those that store no token, only verification is told in
full. -/
inductive Asks : UseCase → List Exchange → Effect → Prop
  | registerClock {ttl : Span} {salt : Bytes} {token : DrawnToken} {r : Action.Registration} :
      Asks (.register ttl salt token r) [] .clock
  | registerWrite {ttl : Span} {salt : Bytes} {token : DrawnToken} {r : Action.Registration} {now : Instant}
      {hash : String} : Asks (.register ttl salt token r) [⟨.clock, now⟩]
        (.store (.create ⟨r.username, r.profile⟩ hash (Action.issueToken r.profile.email token.text .register now ttl).1
          (Action.issueToken r.profile.email token.text .register now ttl).2))
  | resendLookup {ttl cooldown : Span} {token : DrawnToken} {email : String} :
      Asks (.resend ttl cooldown token email) [] (.store (.getUserByEmail email))
  | resendClock {ttl cooldown : Span} {token : DrawnToken} {email : String} {user : User}
      (unverified : user.verified = false) : Asks (.resend ttl cooldown token email)
        [⟨.store (.getUserByEmail email), .ok (some user)⟩] .clock
  | resendLatest {ttl cooldown : Span} {token : DrawnToken} {email : String} {user : User} {now : Instant}
      (unverified : user.verified = false) : Asks (.resend ttl cooldown token email)
        [⟨.store (.getUserByEmail email), .ok (some user)⟩, ⟨.clock, now⟩] (.store (.latestToken user.id))
  | resendWrite {ttl cooldown : Span} {token : DrawnToken} {email : String} {user : User} {now : Instant}
      {latest : Option VerificationToken} (unverified : user.verified = false)
      (waited : latest.any (Action.isTooSoon cooldown now) = false) : Asks (.resend ttl cooldown token email)
        [⟨.store (.getUserByEmail email), .ok (some user)⟩, ⟨.clock, now⟩, ⟨.store (.latestToken user.id), .ok latest⟩]
        (.store (.rotate user.id (Action.issueToken user.email token.text .resend now ttl).1
          (Action.issueToken user.email token.text .resend now ttl).2))
  | verifyLookup {text : String} : Asks (.verify text) [] (.store (.findToken text))
  | verifyClock {text : String} {found : VerificationToken} {user : User} (live : found.isConsumed = false) :
      Asks (.verify text) [⟨.store (.findToken text), .ok (some (found, user))⟩] .clock
  | verifyWrite {text : String} {found : VerificationToken} {user : User} {now : Instant}
      (live : found.isConsumed = false) (inTime : found.isExpired now = false) : Asks (.verify text)
        [⟨.store (.findToken text), .ok (some (found, user))⟩, ⟨.clock, now⟩]
        (.store (.verifyWithToken found.id user.id now))
  | other {u : UseCase} {log : List Exchange} {e : Effect} (undrawn : u.drawn? = none) (named : ∀ text, u ≠ .verify text)
      (quiet : e.newToken? = none) : Asks u log e

/-- What a verification comes to. -/
inductive VerifyEnds (text : String) : List Exchange → Except ServiceError User → Prop
  | empty (empty : text = "") : VerifyEnds text [] (.error (.invalidInput "token is required"))
  | failed {e : ServiceError} : VerifyEnds text [⟨.store (.findToken text), .error e⟩] (.error e)
  | unknown : VerifyEnds text [⟨.store (.findToken text), .ok none⟩] (.error .tokenNotFound)
  | spent {found : VerificationToken} {user : User} (spent : found.isConsumed = true) :
      VerifyEnds text [⟨.store (.findToken text), .ok (some (found, user))⟩] (.error .tokenAlreadyUsed)
  | expired {found : VerificationToken} {user : User} {now : Instant} (late : found.isExpired now = true) :
      VerifyEnds text [⟨.store (.findToken text), .ok (some (found, user))⟩, ⟨.clock, now⟩] (.error .tokenExpired)
  | written {found : VerificationToken} {user : User} {now : Instant} {reply : Except ServiceError User} :
      VerifyEnds text [⟨.store (.findToken text), .ok (some (found, user))⟩, ⟨.clock, now⟩,
        ⟨.store (.verifyWithToken found.id user.id now), reply⟩] reply

def Ends : (u : UseCase) → List Exchange → Except ServiceError u.Answer → Prop
  | .verify text => VerifyEnds text
  | _ => fun _ _ => True

open Program

theorem register_proceeds (ttl : Span) (salt : Bytes) (token : DrawnToken) (r : Action.Registration) :
    Proceeds (Asks (.register ttl salt token r)) (Ends (.register ttl salt token r)) []
      (action (.register ttl salt token r)).run := by
  refine of_nonempty (fun _ => trivial) fun _ => of_nonempty (fun _ => trivial) fun _ => ?_
  refine of_nonempty (fun _ => trivial) fun _ => of_lift (fun _ _ => trivial) fun hash _ => ?_
  exact proceeds_now .registerClock fun now => proceeds_last .registerWrite fun _ => trivial

theorem resend_proceeds (ttl cooldown : Span) (token : DrawnToken) (email : String) :
    Proceeds (Asks (.resend ttl cooldown token email)) (Ends (.resend ttl cooldown token email)) []
      (action (.resend ttl cooldown token email)).run := by
  refine of_nonempty (fun _ => trivial) fun _ => ?_
  refine proceeds_store .resendLookup (fun _ => trivial) fun found => ?_
  refine of_require (fun _ => trivial) fun user same => of_guard (fun _ => trivial) fun unverified => ?_
  subst same
  replace unverified : user.verified = false := Bool.eq_false_iff.2 unverified
  refine proceeds_now (.resendClock unverified) fun now => ?_
  refine proceeds_store (.resendLatest unverified) (fun _ => trivial) fun latest => ?_
  refine of_guard (fun _ => trivial) fun waited => ?_
  exact proceeds_last (.resendWrite unverified (Bool.eq_false_iff.2 waited)) fun _ => trivial

theorem verify_proceeds (text : String) :
    Proceeds (Asks (.verify text)) (Ends (.verify text)) [] (action (.verify text)).run := by
  refine of_nonempty .empty fun _ => ?_
  refine proceeds_store .verifyLookup (fun _ => .failed) fun stored => ?_
  refine of_require (fun none => none ▸ .unknown) fun ⟨found, user⟩ same => of_guard (fun spent => ?_) fun live => ?_
  · subst same
    exact VerifyEnds.spent spent
  · subst same
    replace live : found.isConsumed = false := Bool.eq_false_iff.2 live
    refine proceeds_now (.verifyClock live) fun now => of_guard .expired fun inTime => ?_
    exact proceeds_last (.verifyWrite live (Bool.eq_false_iff.2 inTime)) fun _ => .written

theorem proceeds (u : UseCase) : Proceeds u.Asks u.Ends [] u.action.run := by
  have plain (undrawn : u.drawn? = none) (named : ∀ text, u ≠ .verify text)
      (ended : ∀ log a, u.Ends log a) : Proceeds u.Asks u.Ends [] u.action.run :=
    proceeds_of_within (fun _ _ _ free => .other undrawn named (free.2.1 undrawn)) ended u.within_mayDraw []
  cases u with
  | register ttl salt token r => exact register_proceeds ttl salt token r
  | resend ttl cooldown token email => exact resend_proceeds ttl cooldown token email
  | verify text => exact verify_proceeds text
  | _ => exact plain rfl nofun fun _ _ => trivial

end UseCase

/-! ### Steps of a run -/

namespace Running

/-- What the job in a place has asked for in the state after some moves, and what it was answered. -/
structure Step where
  before : List Move
  place : Nat
  now : Instant
  exchange : Exchange

namespace Step

def move (x : Step) : Move := .step x.place x.now

/-- It is taken before the other one. -/
def Precedes (x y : Step) : Prop := x.before ++ [x.move] <+: y.before

theorem Precedes.before {x y : Step} (h : x.Precedes y) : x.before <+: y.before := (List.prefix_append _ _).trans h

theorem Precedes.trans {x y z : Step} (h : x.Precedes y) (h' : y.Precedes z) : x.Precedes z :=
  List.IsPrefix.trans h h'.before

end Step

variable (issuer : Issuer) (mail : MailAction)

def taken? (moves : List Move) : Move → Option Step
  | .start _ => none
  | .step place now =>
    match (run issuer mail moves).jobs[place]? with
    | some ⟨_, .ask e _⟩ =>
      some ⟨moves, place, now, e, (World.answer issuer now mail e (run issuer mail moves).world).1⟩
    | _ => none

def stepsFrom (moves : List Move) : List Move → List Step
  | [] => []
  | move :: more => (taken? issuer mail moves move).toList ++ stepsFrom (moves ++ [move]) more

def steps (moves : List Move) : List Step := stepsFrom issuer mail [] moves

/-- What the job in this place has asked for, with the answers. -/
def log (moves : List Move) (place : Nat) : List Exchange :=
  ((steps issuer mail moves).filter fun x => x.place = place).map Step.exchange

/-- What a move comes to: a step, if there is one, and the state after it. -/
inductive Moved (moves : List Move) : Move → Option Step → Running → Prop
  | start (u : UseCase) : Moved moves (.start u) none
      { run issuer mail moves with jobs := (run issuer mail moves).jobs ++ [⟨u, u.action.run⟩] }
  | step {place : Nat} {now : Instant} {u : UseCase} {e : Effect}
      {next : e.Reply → Program (Except ServiceError u.Answer)}
      (at_ : (run issuer mail moves).jobs[place]? = some ⟨u, .ask e next⟩) {reply : e.Reply} {world : World}
      (replied : World.answer issuer now mail e (run issuer mail moves).world = (reply, world)) :
      Moved moves (.step place now) (some ⟨moves, place, now, e, reply⟩)
        { world
          jobs := (run issuer mail moves).jobs.set place ⟨u, next reply⟩
          calls := (run issuer mail moves).calls ++ e.calls now
          readings := Program.reading e reply (run issuer mail moves).readings }
  | idle {place : Nat} {now : Instant} (ended : ∀ u e next,
      (run issuer mail moves).jobs[place]? ≠ some ⟨u, .ask e next⟩) :
      Moved moves (.step place now) none (run issuer mail moves)

theorem run_append (moves more : List Move) :
    run issuer mail (moves ++ more) = more.foldl (Running.after issuer mail) (run issuer mail moves) :=
  List.foldl_append

theorem after_step {s : Running} {place : Nat} {now : Instant} {u : UseCase} {e : Effect}
    {next : e.Reply → Program (Except ServiceError u.Answer)} (at_ : s.jobs[place]? = some ⟨u, .ask e next⟩)
    {reply : e.Reply} {world : World} (replied : World.answer issuer now mail e s.world = (reply, world)) :
    s.after issuer mail (.step place now) =
      ⟨world, s.jobs.set place ⟨u, next reply⟩, s.calls ++ e.calls now, Program.reading e reply s.readings⟩ := by
  simp only [Running.after, at_, replied]

variable {issuer mail} in
theorem of_step {P : Running → Prop} {s : Running} {place : Nat} {now : Instant} {u : UseCase} {e : Effect}
    {next : e.Reply → Program (Except ServiceError u.Answer)} (at_ : s.jobs[place]? = some ⟨u, .ask e next⟩)
    {reply : e.Reply} {world : World} (replied : World.answer issuer now mail e s.world = (reply, world))
    {more : List Move} (later : P (more.foldl (Running.after issuer mail)
      ⟨world, s.jobs.set place ⟨u, next reply⟩, s.calls ++ e.calls now, Program.reading e reply s.readings⟩)) :
    P ((Move.step place now :: more).foldl (Running.after issuer mail) s) := by
  rw [List.foldl_cons, after_step issuer mail at_ replied]
  exact later

theorem moved (moves : List Move) (move : Move) :
    Moved issuer mail moves move (taken? issuer mail moves move) (run issuer mail (moves ++ [move])) := by
  rw [run_append, List.foldl_cons, List.foldl_nil]
  cases move with
  | start u => exact .start u
  | step place now =>
    rcases at_ : (run issuer mail moves).jobs[place]? with _ | ⟨u, a | ⟨e, next⟩⟩
    · simp only [taken?, Running.after, at_]
      exact .idle fun u e next same => by cases at_.symm.trans same
    · simp only [taken?, Running.after, at_]
      exact .idle fun u e next same => by cases at_.symm.trans same
    · rw [after_step issuer mail at_ rfl]
      simp only [taken?, at_]
      exact .step at_ rfl

theorem stepsFrom_append (moves : List Move) (ms more : List Move) : stepsFrom issuer mail moves (ms ++ more) =
    stepsFrom issuer mail moves ms ++ stepsFrom issuer mail (moves ++ ms) more := by
  induction ms generalizing moves with
  | nil => simp [stepsFrom]
  | cons m ms ih => simp [stepsFrom, ih]

theorem steps_append (moves more : List Move) :
    steps issuer mail (moves ++ more) = steps issuer mail moves ++ stepsFrom issuer mail moves more :=
  stepsFrom_append issuer mail [] moves more

theorem stepsFrom_singleton (moves : List Move) (move : Move) :
    stepsFrom issuer mail moves [move] = (taken? issuer mail moves move).toList := List.append_nil _

variable {issuer mail} {moves more : List Move} {move : Move} {x : Step}

theorem eq_of_taken? (taken : taken? issuer mail moves move = some x) : move = x.move ∧ x.before = moves := by
  have this := moved issuer mail moves move
  rw [taken] at this
  generalize run issuer mail (moves ++ [move]) = s at this
  cases this with
  | step at_ replied => exact ⟨rfl, rfl⟩

theorem mem_stepsFrom (mem : x ∈ stepsFrom issuer mail moves more) :
    ∃ middle after, more = middle ++ x.move :: after ∧ x.before = moves ++ middle ∧
      taken? issuer mail x.before x.move = some x := by
  induction more generalizing moves with
  | nil => cases mem
  | cons m ms ih =>
    rcases List.mem_append.1 mem with first | later
    · have taken := Option.mem_toList.1 first
      obtain ⟨rfl, rfl⟩ := eq_of_taken? taken
      exact ⟨[], ms, rfl, (List.append_nil _).symm, taken⟩
    · obtain ⟨middle, after, rfl, before, taken⟩ := ih later
      exact ⟨m :: middle, after, rfl, by simp [before], taken⟩

theorem mem_steps (mem : x ∈ steps issuer mail moves) :
    x.before ++ [x.move] <+: moves ∧ taken? issuer mail x.before x.move = some x := by
  obtain ⟨middle, after, rfl, before, taken⟩ := mem_stepsFrom mem
  rw [List.nil_append] at before
  exact ⟨⟨after, by simp [before]⟩, taken⟩

theorem prefix_of_mem (mem : x ∈ steps issuer mail moves) : x.before <+: moves :=
  (List.prefix_append _ _).trans (mem_steps mem).1

theorem mem_steps_of_taken (taken : taken? issuer mail x.before x.move = some x)
    (within : x.before ++ [x.move] <+: moves) : x ∈ steps issuer mail moves := by
  obtain ⟨after, rfl⟩ := within
  rw [steps_append, steps_append, stepsFrom_singleton, taken]
  simp

theorem mem_steps_mono (mem : x ∈ steps issuer mail moves) (within : moves <+: more) :
    x ∈ steps issuer mail more := by
  obtain ⟨early, taken⟩ := mem_steps mem
  exact mem_steps_of_taken taken (early.trans within)

/-- Of two steps, one comes first. -/
theorem steps_ordered {y : Step} (hx : x ∈ steps issuer mail moves) (hy : y ∈ steps issuer mail moves) :
    x = y ∨ x.Precedes y ∨ y.Precedes x := by
  obtain ⟨inX, takenX⟩ := mem_steps hx
  obtain ⟨inY, takenY⟩ := mem_steps hy
  have shorter {x y : Step} (inX : x.before ++ [x.move] <+: moves) (inY : y.before ++ [y.move] <+: moves)
      (lt : x.before.length < y.before.length) : x.Precedes y :=
    List.prefix_of_prefix_length_le inX ((List.prefix_append _ _).trans inY) (by simpa using Nat.succ_le_of_lt lt)
  rcases Nat.lt_trichotomy x.before.length y.before.length with lt | same | gt
  · exact .inr (.inl (shorter inX inY lt))
  · have all : x.before ++ [x.move] = y.before ++ [y.move] :=
      (List.prefix_of_prefix_length_le inX inY (by simp [same])).eq_of_length (by simp [same])
    obtain ⟨before, move⟩ := List.append_inj all same
    rw [before, List.singleton_inj.1 move, takenY] at takenX
    exact .inl (Option.some.inj takenX).symm
  · exact .inr (.inr (shorter inY inX gt))

/-! ### Jobs and their exchanges -/

theorem log_append (issuer : Issuer) (mail : MailAction) (moves : List Move) (move : Move) (place : Nat) :
    log issuer mail (moves ++ [move]) place = log issuer mail moves place ++
      ((taken? issuer mail moves move).toList.filter fun x => x.place = place).map Step.exchange := by
  rw [log, steps_append, stepsFrom_singleton, List.filter_append, List.map_append]
  rfl

theorem mem_log {place : Nat} {ex : Exchange} :
    ex ∈ log issuer mail moves place ↔ ∃ x ∈ steps issuer mail moves, x.place = place ∧ x.exchange = ex := by
  simp [log, and_assoc]

/-- The last exchange of a job, and what its job had exchanged before. -/
theorem exists_step_of_log (moves : List Move) (exchanges : List Exchange) {place : Nat} {ex : Exchange}
    (last : log issuer mail moves place = exchanges ++ [ex]) :
    ∃ x ∈ steps issuer mail moves, x.place = place ∧ x.exchange = ex ∧ log issuer mail x.before place = exchanges := by
  induction moves using List.reverseRecOn with
  | nil => cases exchanges <;> cases last
  | append_singleton moves move ih =>
    have earlier (last : log issuer mail moves place = exchanges ++ [ex]) : ∃ x ∈ steps issuer mail (moves ++ [move]),
        x.place = place ∧ x.exchange = ex ∧ log issuer mail x.before place = exchanges := by
      obtain ⟨x, mem, rest⟩ := ih last
      exact ⟨x, mem_steps_mono mem (List.prefix_append moves [move]), rest⟩
    rw [log_append] at last
    rcases taken : taken? issuer mail moves move with _ | x
    · rw [taken] at last
      exact earlier (by simpa using last)
    · rw [taken] at last
      obtain ⟨rfl, rfl⟩ := eq_of_taken? taken
      by_cases here : x.place = place
      · have split : log issuer mail x.before place ++ [x.exchange] = exchanges ++ [ex] := by simpa [here] using last
        obtain ⟨before, same⟩ := List.append_inj' split rfl
        exact ⟨x, mem_steps_of_taken taken (List.prefix_refl _), here, List.singleton_inj.1 same, before⟩
      · exact earlier (by simpa [here] using last)

/-- Every job has come to where its exchanges lead, and a place without a job has none. -/
structure Logged (issuer : Issuer) (mail : MailAction) (moves : List Move) : Prop where
  none : ∀ place, (run issuer mail moves).jobs[place]? = .none → log issuer mail moves place = []
  some : ∀ place job, (run issuer mail moves).jobs[place]? = .some job →
    Program.Proceeds job.useCase.Asks job.useCase.Ends (log issuer mail moves place) job.rest

theorem Logged.append (h : Logged issuer mail moves) (move : Move) : Logged issuer mail (moves ++ [move]) := by
  have this := moved issuer mail moves move
  generalize taken : taken? issuer mail moves move = step at this
  generalize later : run issuer mail (moves ++ [move]) = s at this
  have logs (place : Nat) := log_append issuer mail moves move place
  rw [taken] at logs
  cases this with
  | start u =>
    simp only [Option.toList_none, List.filter_nil, List.map_nil, List.append_nil] at logs
    refine ⟨fun place none => ?_, fun place job at_ => ?_⟩
    · rw [logs]
      rw [later, List.getElem?_eq_none_iff, List.length_append] at none
      exact h.none place (List.getElem?_eq_none_iff.2 (by omega))
    · rw [logs]
      rw [later, List.getElem?_append] at at_
      split at at_
      · exact h.some place job at_
      · next new =>
        rw [h.none place (List.getElem?_eq_none_iff.2 (by omega))]
        obtain rfl := List.mem_singleton.1 (List.mem_of_getElem? at_)
        exact u.proceeds
  | @step place now u e next at_ reply world replied =>
    refine ⟨fun other none => ?_, fun other job there => ?_⟩
    · rw [later, List.getElem?_eq_none_iff, List.length_set] at none
      have ne : place ≠ other := by
        rintro rfl
        rw [List.getElem?_eq_none_iff.2 none] at at_
        cases at_
      rw [logs, h.none other (List.getElem?_eq_none_iff.2 none)]
      simp [ne]
    · rw [logs]
      rw [later, List.getElem?_set] at there
      by_cases same : place = other
      · subst same
        have here := List.getElem?_eq_some_iff.1 at_
        rw [if_pos rfl, if_pos here.1] at there
        obtain rfl := Option.some.inj there
        simpa using (h.some place _ at_).2 reply
      · rw [if_neg same] at there
        simpa [same] using h.some other job there
  | idle ended =>
    simp only [Option.toList_none, List.filter_nil, List.map_nil, List.append_nil] at logs
    refine ⟨fun place none => ?_, fun place job at_ => ?_⟩
    · rw [logs]
      exact h.none place (later ▸ none)
    · rw [logs]
      exact h.some place job (later ▸ at_)

theorem logged (issuer : Issuer) (mail : MailAction) (moves : List Move) : Logged issuer mail moves := by
  induction moves using List.reverseRecOn with
  | nil => exact ⟨fun _ _ => rfl, fun place job none => by simp [run, Running.start] at none⟩
  | append_singleton moves move ih => exact ih.append move

/-- What a step asks for is what its job may ask for, and the job goes on with the answer. -/
theorem asks_of_taken? (taken : taken? issuer mail x.before x.move = some x) :
    ∃ u next, (run issuer mail x.before).jobs[x.place]? = some ⟨u, .ask x.exchange.effect next⟩ ∧
      u.Asks (log issuer mail x.before x.place) x.exchange.effect ∧
      (run issuer mail (x.before ++ [x.move])).jobs[x.place]? = some ⟨u, next x.exchange.reply⟩ := by
  have this := moved issuer mail x.before x.move
  rw [taken] at this
  generalize later : run issuer mail (x.before ++ [x.move]) = s at this
  obtain ⟨before, place, now, exchange⟩ := x
  cases this with
  | @step _ _ u e next at_ reply world replied =>
    refine ⟨u, next, at_, ((logged issuer mail before).some place _ at_).1, ?_⟩
    exact List.getElem?_set_self (List.getElem?_eq_some_iff.1 at_).1

theorem taken?_of_job {place : Nat} {u : UseCase} {e : Effect} {next : e.Reply → Program (Except ServiceError u.Answer)}
    (at_ : (run issuer mail moves).jobs[place]? = some ⟨u, .ask e next⟩) (now : Instant) :
    taken? issuer mail moves (.step place now) =
      some ⟨moves, place, now, e, (World.answer issuer now mail e (run issuer mail moves).world).1⟩ := by
  simp only [taken?, at_]

/-- After a step, the job of a use case proceeds from one exchange more. -/
theorem proceeds_of_taken? (taken : taken? issuer mail x.before x.move = some x) {u : UseCase}
    {rest : Program (Except ServiceError u.Answer)}
    (at_ : (run issuer mail x.before).jobs[x.place]? = some ⟨u, rest⟩) :
    u.Asks (log issuer mail x.before x.place) x.exchange.effect ∧
    ∃ rest', (run issuer mail (x.before ++ [x.move])).jobs[x.place]? = some ⟨u, rest'⟩ ∧
      Program.Proceeds u.Asks u.Ends (log issuer mail x.before x.place ++ [x.exchange]) rest' := by
  obtain ⟨u', next, at', asks, later⟩ := asks_of_taken? taken
  obtain ⟨rfl, -⟩ := Job.mk.inj (Option.some.inj (at_.symm.trans at'))
  refine ⟨asks, _, later, ?_⟩
  have proceeds := (logged issuer mail (x.before ++ [x.move])).some x.place _ later
  rw [log_append, taken] at proceeds
  simpa using proceeds

def started (moves : List Move) : List UseCase :=
  moves.filterMap fun
    | .start u => some u
    | .step .. => none

theorem started_append (moves more : List Move) : started (moves ++ more) = started moves ++ started more :=
  List.filterMap_append

theorem useCases_run (issuer : Issuer) (mail : MailAction) (moves : List Move) :
    (run issuer mail moves).jobs.map Job.useCase = started moves := by
  induction moves using List.reverseRecOn with
  | nil => rfl
  | append_singleton moves move ih =>
    have this := moved issuer mail moves move
    generalize taken? issuer mail moves move = step at this
    generalize run issuer mail (moves ++ [move]) = s at this
    rw [started_append, ← ih]
    cases this with
    | start u => simp [started]
    | @step place now u e next at_ reply world replied =>
      have here : ((run issuer mail moves).jobs.map Job.useCase)[place]? = some u := by simp [at_]
      obtain ⟨bound, same⟩ := List.getElem?_eq_some_iff.1 here
      have kept := List.set_getElem_self bound
      rw [same] at kept
      simp [started, List.map_set, kept]
    | idle => simp [started]

/-- A job keeps its place. -/
theorem started_of_job {place : Nat} {job : Job} (at_ : (run issuer mail moves).jobs[place]? = some job)
    (within : moves <+: more) : (started more)[place]? = some job.useCase := by
  obtain ⟨late, rfl⟩ := within
  have here : (started moves)[place]? = some job.useCase := by
    rw [← useCases_run issuer mail, List.getElem?_map, at_]
    rfl
  rw [started_append, List.getElem?_append_left (List.getElem?_eq_some_iff.1 here).1]
  exact here

/-- A job that has ended stays as it is. -/
theorem ended_append {place : Nat} {u : UseCase} {a : Except ServiceError u.Answer}
    (ended : (run issuer mail moves).jobs[place]? = some ⟨u, .done a⟩) (more : List Move) :
    (run issuer mail (moves ++ more)).jobs[place]? = some ⟨u, .done a⟩ := by
  induction more using List.reverseRecOn with
  | nil => rwa [List.append_nil]
  | append_singleton more move ih =>
    have this := moved issuer mail (moves ++ more) move
    rw [← List.append_assoc]
    generalize taken? issuer mail (moves ++ more) move = step at this
    generalize run issuer mail (moves ++ more ++ [move]) = s at this
    cases this with
    | start u => exact (List.getElem?_append_left (List.getElem?_eq_some_iff.1 ih).1).trans ih
    | @step other now u e next at_ reply world replied =>
      have ne : other ≠ place := by
        rintro rfl
        cases at_.symm.trans ih
      exact (List.getElem?_set_ne ne).trans ih
    | idle => exact ih

/-! ### Tables -/

theorem consistent_run (issuer : Issuer) (mail : MailAction) (moves : List Move) :
    (run issuer mail moves).world.tables.Consistent := by
  rw [(valid_run moves).world_tables]
  exact Tables.consistent_after _

theorem world_run (issuer : Issuer) (mail : MailAction) (moves : List Move) :
    (run issuer mail moves).world.store = .memory (run issuer mail moves).world.tables := by
  rw [(valid_run moves).world_tables]
  exact (valid_run moves).tables

/-- What a step that asks the store for something is answered, and what it leaves. -/
theorem answered {c : StoreCall} {reply : c.Reply} (taken : taken? issuer mail x.before x.move = some x)
    (asked : x.exchange = ⟨.store c, reply⟩) :
    reply = (Tables.answer x.now c (run issuer mail x.before).world.tables).1 ∧
    (run issuer mail (x.before ++ [x.move])).world.tables =
      (Tables.answer x.now c (run issuer mail x.before).world.tables).2 := by
  have this := moved issuer mail x.before x.move
  rw [taken] at this
  generalize run issuer mail (x.before ++ [x.move]) = s at this
  obtain ⟨before, place, now, exchange⟩ := x
  dsimp only at asked
  subst asked
  cases this with
  | step at_ replied =>
    have store := world_run issuer mail before
    simp only [World.answer, store, Store.answer, Prod.mk.injEq] at replied
    obtain ⟨rfl, rfl⟩ := replied
    exact ⟨rfl, rfl⟩

/-- Tables change only by a step that asks the store for something. -/
theorem tables_append_singleton (issuer : Issuer) (mail : MailAction) (moves : List Move) (move : Move) :
    (run issuer mail (moves ++ [move])).world.tables = (run issuer mail moves).world.tables ∨
    ∃ x c reply, taken? issuer mail moves move = some x ∧ x.before = moves ∧ x.move = move ∧
      x.exchange = ⟨.store c, reply⟩ := by
  have this := moved issuer mail moves move
  generalize taken : taken? issuer mail moves move = step at this
  generalize later : run issuer mail (moves ++ [move]) = s at this
  cases this with
  | start u => exact .inl rfl
  | idle => exact .inl rfl
  | @step place now u e next at_ reply world replied =>
    cases e with
    | store c => exact .inr ⟨_, c, reply, rfl, rfl, rfl, rfl⟩
    | send letter =>
      obtain ⟨seen, -, free, -⟩ := (valid_run moves).jobs _ (List.mem_of_getElem? at_)
      exact absurd free id
    | _ =>
      left
      obtain ⟨-, rfl⟩ := Prod.ext_iff.1 replied
      rfl

/-- What every change keeps is kept from one state of a run to all later ones. -/
theorem tables_induction {P : Tables → Prop} (step : ∀ {now t c ok t'}, t.Consistent → Tables.Change now t c ok t' →
    P t → P t') (moves more : List Move) (start : P (run issuer mail moves).world.tables) :
    P (run issuer mail (moves ++ more)).world.tables := by
  induction more using List.reverseRecOn with
  | nil => rwa [List.append_nil]
  | append_singleton more move ih =>
    rw [← List.append_assoc]
    rcases tables_append_singleton issuer mail (moves ++ more) move with same |
      ⟨x, c, reply, taken, before, rfl, asked⟩
    · rwa [same]
    · rw [← before] at taken ih ⊢
      rw [(answered taken asked).2]
      exact step (consistent_run issuer mail x.before) (Tables.answer_change x.now c _) ih

theorem continues_run (issuer : Issuer) (mail : MailAction) (moves more : List Move) :
    Tables.Continues (run issuer mail moves).world.tables (run issuer mail (moves ++ more)).world.tables :=
  tables_induction (fun _ change h => h.trans change.continues) moves more (.refl _)

/-- What comes to hold comes to hold by a step. -/
theorem exists_step {P : Tables → Prop} (moves more : List Move) (first : ¬P (run issuer mail moves).world.tables)
    (last : P (run issuer mail (moves ++ more)).world.tables) :
    ∃ x c reply, x ∈ steps issuer mail (moves ++ more) ∧ moves <+: x.before ∧ x.exchange = ⟨.store c, reply⟩ ∧
      ¬P (run issuer mail x.before).world.tables ∧ P (run issuer mail (x.before ++ [x.move])).world.tables := by
  induction more using List.reverseRecOn with
  | nil => exact absurd (List.append_nil moves ▸ last) first
  | append_singleton more move ih =>
    rw [← List.append_assoc] at last ⊢
    by_cases early : P (run issuer mail (moves ++ more)).world.tables
    · obtain ⟨x, c, reply, mem, rest⟩ := ih early
      exact ⟨x, c, reply, by rw [steps_append]; exact List.mem_append_left _ mem, rest⟩
    · rcases tables_append_singleton issuer mail (moves ++ more) move with same |
        ⟨x, c, reply, taken, before, rfl, asked⟩
      · rw [same] at last
        exact absurd last early
      · rw [← before] at taken early last
        refine ⟨x, c, reply, ?_, ?_, asked, early, last⟩
        · rw [← before]
          exact mem_steps_of_taken taken (List.prefix_refl _)
        · rw [before]
          exact List.prefix_append moves more

end Running
end Accounts
