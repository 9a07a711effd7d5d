import Accounts.Proofs.Relay.Exchanges
import Accounts.Proofs.Run.History
import Mathlib.Data.List.Induction
/-! Use cases and messages that are worked on at the same time, with a record of all that was asked and answered. A
step of one of them is never interrupted. Main statement: every task has come to where its exchanges lead. -/
namespace Accounts
open Time

/-- A task that was started, and what is left of it. -/
structure Thread where
  task : Task
  rest : Program task.Result

/-- What the thread in a place has asked for at an instant, and what it was answered. -/
structure Entry where
  place : Nat
  now : Instant
  exchange : Exchange

structure Pool where
  world : World
  threads : List Thread
  trace : List Entry

inductive Turn
  | start (k : Task)
  /-- The next step of the thread in a place. The mailer takes some letters. -/
  | step (place : Nat) (now : Instant) (accepts : Letter → Bool)

/-! ### What tasks ask for and come to -/

namespace UseCase

/-- In these exchanges the token was looked at and put on the deny-list. -/
def Spends (log : List Exchange) (token : String) : Prop :=
  ∃ c id, ⟨.verifyRefresh token, .ok (c, id)⟩ ∈ log ∧ ⟨.deny id c.expiresAt, .ok ()⟩ ∈ log

/-- A session is refreshed or ended only by spending its token. -/
def Pays (u : UseCase) (log : List Exchange) (a : Except ServiceError u.Answer) : Prop :=
  ∀ token, u.presented? = some token → a.isOk = true → Spends log token

/-- What is put on the deny-list was told by the token that is presented. -/
def Knows (u : UseCase) (log : List Exchange) : Effect → Prop
  | .deny id expiresAt => ∃ token c, u.presented? = some token ∧ ⟨.verifyRefresh token, .ok (c, id)⟩ ∈ log ∧
      c.expiresAt = expiresAt
  | _ => True

/-- And of session tokens it spends the one that is presented alone. -/
def MayPool (u : UseCase) (log : List Exchange) (e : Effect) : Prop := ∃ seen, u.MayDraw seen e ∧ u.Knows log e

theorem MayDraw.mayPool {u : UseCase} {seen : List Instant} {e : Effect} (may : u.MayDraw seen e)
    (none : u.presented? = none) (log : List Exchange) : u.MayPool log e := by
  refine ⟨seen, may, ?_⟩
  cases e with
  | deny id expiresAt =>
    have presented : u.presented?.isSome := may.2.2
    rw [none] at presented
    cases presented
  | _ => trivial

theorem revoke_proceeds {u : UseCase} {token : String} (presented : u.presented? = some token)
    {ends : List Exchange → Except ServiceError Unit → Prop} (refused : ∀ log e, ends log (.error e))
    (spent : ∀ log, Spends log token → ends log (.ok ())) (log : List Exchange) :
    Program.Proceeds u.MayPool ends log (Action.revoke token).run := by
  have some : u.presented?.isSome := by rw [presented]; rfl
  refine ⟨⟨[], ⟨trivial, fun _ => rfl, presented⟩, trivial⟩, fun verified => ?_⟩
  cases verified with
  | error e => exact refused _ e
  | ok told =>
    obtain ⟨c, id⟩ := told
    have knows : u.Knows (log ++ [⟨.verifyRefresh token, .ok (c, id)⟩]) (.deny id c.expiresAt) :=
      ⟨token, c, presented, List.mem_append_right _ (List.mem_singleton_self _), rfl⟩
    refine ⟨⟨[], ⟨trivial, fun _ => rfl, some⟩, knows⟩, fun denied => ?_⟩
    cases denied with
    | error e => exact refused _ e
    | ok _ => exact spent _ ⟨c, id, by simp, List.mem_append_right _ (List.mem_singleton_self _)⟩

theorem refresh_proceeds (jti token : String) :
    Program.Proceeds (refresh jti token).MayPool (refresh jti token).Pays [] (action (.refresh jti token)).run := by
  have refused (log : List Exchange) (e : ServiceError) : (refresh jti token).Pays log (.error e) := nofun
  have free {log : List Exchange} {e : Effect} (may : MayAsk [] e) (quiet : e.newToken? = none)
      (suits : (refresh jti token).Suits e) (knows : (refresh jti token).Knows log e) :
      (refresh jti token).MayPool log e := ⟨[], ⟨may, fun _ => quiet, suits⟩, knows⟩
  refine ⟨free trivial rfl trivial trivial, fun checked => ?_⟩
  cases checked with
  | error e => exact refused _ e
  | ok identity =>
    refine Program.proceeds_store (free trivial rfl trivial trivial) (fun e => refused _ e) fun found => ?_
    refine Program.of_require (fun _ => refused _ _) fun user _ => Program.proceeds_bind ?_
    refine revoke_proceeds rfl refused (fun log spends => ?_) _
    refine ⟨free trivial rfl trivial trivial, fun tokens same presented _ => ?_⟩
    obtain rfl := Option.some.inj presented
    obtain ⟨c, id, verified, denied⟩ := spends
    exact ⟨c, id, List.mem_append_left _ verified, List.mem_append_left _ denied⟩

theorem proceeds_paid (u : UseCase) : Program.Proceeds u.MayPool u.Pays [] u.action.run := by
  have free (none : u.presented? = none) : Program.Proceeds u.MayPool u.Pays [] u.action.run := by
    refine Program.proceeds_of_within (fun seen log e may => may.mayPool none log) (fun log a token some => ?_)
      u.within_mayDraw []
    rw [none] at some
    cases some
  cases u with
  | refresh jti token => exact refresh_proceeds jti token
  | logout token =>
    refine revoke_proceeds rfl (fun _ _ => nofun) (fun log spends same presented _ => ?_) []
    obtain rfl := Option.some.inj presented
    exact spends
  | _ => exact free rfl

end UseCase

namespace Task

def Asks : Task → List Exchange → Effect → Prop
  | useCase u => u.MayPool
  | handle body => Relay.Asks body

def Ends : (k : Task) → List Exchange → k.Result → Prop
  | useCase u => u.Pays
  | handle body => Relay.Ends body

theorem proceeds (k : Task) : Program.Proceeds k.Asks k.Ends [] k.program := by
  cases k with
  | useCase u => exact u.proceeds_paid
  | handle body => exact Relay.handle_proceeds body

end Task

namespace Pool
variable (issuer : Issuer)

def fresh (w : World) : Pool := ⟨w, [], []⟩

def after (s : Pool) : Turn → Pool
  | .start k => { s with threads := s.threads ++ [⟨k, k.program⟩] }
  | .step place now accepts =>
    match s.threads[place]? with
    | some ⟨k, .ask e next⟩ =>
      let (reply, world) := World.answer issuer now (Relay.mailer accepts) e s.world
      ⟨world, s.threads.set place ⟨k, next reply⟩, s.trace ++ [⟨place, now, e, reply⟩]⟩
    | _ => s

def run (w : World) (turns : List Turn) : Pool := turns.foldl (after issuer) (fresh w)

def started (turns : List Turn) : List Task :=
  turns.filterMap fun
    | .start k => some k
    | .step .. => none

def instants (turns : List Turn) : List Instant :=
  turns.filterMap fun
    | .start _ => none
    | .step _ now _ => some now

def tasks (s : Pool) : List Task := s.threads.map Thread.task

/-- What the thread in this place has asked for, with the answers. -/
def log (s : Pool) (place : Nat) : List Exchange :=
  (s.trace.filter fun x => x.place = place).map Entry.exchange

/-- What a turn comes to. -/
inductive After (s : Pool) : Turn → Pool → Prop
  | start (k : Task) : After s (.start k) { s with threads := s.threads ++ [⟨k, k.program⟩] }
  | step {place : Nat} {now : Instant} {accepts : Letter → Bool} {k : Task} {e : Effect}
      {next : e.Reply → Program k.Result} (at_ : s.threads[place]? = some ⟨k, .ask e next⟩) {reply : e.Reply}
      {world : World} (answered : World.answer issuer now (Relay.mailer accepts) e s.world = (reply, world)) :
      After s (.step place now accepts)
        ⟨world, s.threads.set place ⟨k, next reply⟩, s.trace ++ [⟨place, now, e, reply⟩]⟩
  | idle (place : Nat) (now : Instant) (accepts : Letter → Bool) : After s (.step place now accepts) s

theorem after_after (s : Pool) (turn : Turn) : After issuer s turn (s.after issuer turn) := by
  cases turn with
  | start k => exact .start k
  | step place now accepts =>
    rw [after]
    split
    · next at_ => exact .step at_ rfl
    · exact .idle place now accepts

theorem run_append (w : World) (turns more : List Turn) :
    run issuer w (turns ++ more) = more.foldl (after issuer) (run issuer w turns) := List.foldl_append

theorem run_append_singleton (w : World) (turns : List Turn) (turn : Turn) :
    run issuer w (turns ++ [turn]) = (run issuer w turns).after issuer turn := run_append issuer w turns [turn]

variable {issuer} {s s' : Pool} {turn : Turn} {w : World} {turns more : List Turn}

/-- A step that has a known answer. -/
theorem after_step {place : Nat} {now : Instant} {accepts : Letter → Bool} {k : Task} {e : Effect}
    {next : e.Reply → Program k.Result} (at_ : s.threads[place]? = some ⟨k, .ask e next⟩) {reply : e.Reply}
    {world : World} (answered : World.answer issuer now (Relay.mailer accepts) e s.world = (reply, world)) :
    s.after issuer (.step place now accepts) =
      ⟨world, s.threads.set place ⟨k, next reply⟩, s.trace ++ [⟨place, now, e, reply⟩]⟩ := by
  rw [after, at_]
  dsimp only
  rw [answered]

theorem mem_log {place : Nat} {ex : Exchange} :
    ex ∈ s.log place ↔ ∃ x ∈ s.trace, x.place = place ∧ x.exchange = ex := by
  simp [log, and_assoc]

/-! ### What only grows -/

/-- A thread keeps its task and its place. -/
theorem task_of_within (within : s.tasks <+: s'.tasks) {place : Nat} {k : Task} (task : s.tasks[place]? = some k) :
    s'.tasks[place]? = some k := by
  obtain ⟨more, same⟩ := within
  rw [← same, List.getElem?_append_left (List.getElem?_eq_some_iff.1 task).1]
  exact task

theorem task_of_thread {place : Nat} {th : Thread} (at_ : s.threads[place]? = some th) :
    s.tasks[place]? = some th.task := by
  rw [tasks, List.getElem?_map, at_]
  rfl

theorem After.trace (h : After issuer s turn s') : s.trace <+: s'.trace := by
  cases h with
  | step => exact List.prefix_append _ _
  | _ => exact List.prefix_refl _

theorem After.tasks_eq (h : After issuer s turn s') : s'.tasks = s.tasks ++ started [turn] := by
  cases h with
  | start k => simp [Pool.tasks, started]
  | @step place now accepts k e next at_ reply world answered =>
    have here : s.tasks[place]? = some k := task_of_thread at_
    obtain ⟨bound, same⟩ := List.getElem?_eq_some_iff.1 here
    have kept := List.set_getElem_self bound
    rw [same] at kept
    simp only [Pool.tasks, List.map_set] at kept ⊢
    rw [kept]
    exact (List.append_nil _).symm
  | idle => exact (List.append_nil _).symm

theorem After.tasks (h : After issuer s turn s') : s.tasks <+: s'.tasks := ⟨_, h.tasks_eq.symm⟩

/-- What every turn keeps, a run keeps. -/
theorem run_induction {P : Pool → Prop} (step : ∀ {s turn s'}, After issuer s turn s' → P s → P s')
    (turns : List Turn) (start : P (run issuer w turns)) (more : List Turn) : P (run issuer w (turns ++ more)) := by
  induction more using List.reverseRecOn with
  | nil => rwa [List.append_nil]
  | append_singleton more turn ih =>
    rw [← List.append_assoc, run_append_singleton]
    exact step (after_after issuer _ turn) ih

theorem trace_within (more : List Turn) : (run issuer w turns).trace <+: (run issuer w (turns ++ more)).trace :=
  run_induction (P := fun s => (run issuer w turns).trace <+: s.trace) (fun h before => before.trans h.trace) turns
    (List.prefix_refl _) more

theorem tasks_within (more : List Turn) : (run issuer w turns).tasks <+: (run issuer w (turns ++ more)).tasks :=
  run_induction (P := fun s => (run issuer w turns).tasks <+: s.tasks) (fun h before => before.trans h.tasks) turns
    (List.prefix_refl _) more

/-! ### Threads and their exchanges -/

/-- Every thread has come to where its exchanges lead, and a place without a thread has none. -/
structure Logged (s : Pool) : Prop where
  none : ∀ x ∈ s.trace, x.place < s.threads.length
  some : ∀ place th, s.threads[place]? = some th →
    Program.Proceeds th.task.Asks th.task.Ends (s.log place) th.rest

theorem Logged.log_eq_nil (h : s.Logged) {place : Nat} (new : ¬place < s.threads.length) : s.log place = [] := by
  refine List.eq_nil_iff_forall_not_mem.2 fun ex mem => ?_
  obtain ⟨x, there, rfl, -⟩ := mem_log.1 mem
  exact new (h.none x there)

theorem log_snoc {x : Entry} (grown : s'.trace = s.trace ++ [x]) (place : Nat) :
    s'.log place = s.log place ++ if x.place = place then [x.exchange] else [] := by
  rw [log, log, grown, List.filter_append, List.map_append]
  by_cases here : x.place = place <;> simp [here]

theorem Logged.after (h : s.Logged) (step : After issuer s turn s') : s'.Logged := by
  cases step with
  | idle => exact h
  | start k =>
    refine ⟨fun x mem => ?_, fun place th at_ => ?_⟩
    · rw [List.length_append]
      exact Nat.lt_add_right 1 (h.none x mem)
    · rw [List.getElem?_append] at at_
      split at at_
      · exact h.some place th at_
      · next new =>
        obtain rfl := List.mem_singleton.1 (List.mem_of_getElem? at_)
        change Program.Proceeds k.Asks k.Ends (s.log place) k.program
        rw [h.log_eq_nil new]
        exact k.proceeds
  | @step place now accepts k e next at_ reply world answered =>
    have here := List.getElem?_eq_some_iff.1 at_
    refine ⟨fun x mem => ?_, fun other th there => ?_⟩
    · rw [List.length_set]
      rcases List.mem_append.1 mem with old | new
      · exact h.none x old
      · obtain rfl := List.mem_singleton.1 new
        exact here.1
    · rw [log_snoc (s := s) rfl]
      rw [List.getElem?_set] at there
      by_cases same : place = other
      · subst same
        rw [if_pos rfl, if_pos here.1] at there
        obtain rfl := Option.some.inj there
        simpa using (h.some place _ at_).2 reply
      · rw [if_neg same] at there
        simpa [same] using h.some other th there

theorem logged (issuer : Issuer) (w : World) (turns : List Turn) : (run issuer w turns).Logged := by
  refine run_induction (fun step h => h.after step) [] ?_ turns
  exact ⟨fun x mem => absurd mem List.not_mem_nil, fun place th none => by simp [run, fresh] at none⟩

/-- What a step asks for is what its task may ask for. -/
theorem asks_of_step {place : Nat} {k : Task} {e : Effect} {next : e.Reply → Program k.Result}
    (at_ : (run issuer w turns).threads[place]? = some ⟨k, .ask e next⟩) :
    k.Asks ((run issuer w turns).log place) e := ((logged issuer w turns).some place _ at_).1

theorem ends_of_done {place : Nat} {k : Task} {a : k.Result}
    (at_ : (run issuer w turns).threads[place]? = some ⟨k, .done a⟩) :
    k.Ends ((run issuer w turns).log place) a := (logged issuer w turns).some place _ at_

/-! ### What a run is made from -/

theorem instants_append (turns more : List Turn) : instants (turns ++ more) = instants turns ++ instants more :=
  List.filterMap_append

theorem tasks_run (issuer : Issuer) (w : World) (turns : List Turn) : (run issuer w turns).tasks = started turns := by
  induction turns using List.reverseRecOn with
  | nil => rfl
  | append_singleton turns turn ih =>
    have split : started (turns ++ [turn]) = started turns ++ started [turn] := List.filterMap_append
    rw [run_append_singleton, (after_after issuer _ turn).tasks_eq, ih, split]

/-- All that was asked for was asked for in a step. -/
theorem step_of_mem (issuer : Issuer) (w : World) (turns : List Turn) {x : Entry} (mem : x ∈ (run issuer w turns).trace) :
    ∃ before accepts k next, before ++ [.step x.place x.now accepts] <+: turns ∧
      (run issuer w before).threads[x.place]? = some ⟨k, .ask x.exchange.effect next⟩ := by
  induction turns using List.reverseRecOn with
  | nil => cases mem
  | append_singleton turns turn ih =>
    have earlier (old : x ∈ (run issuer w turns).trace) :
        ∃ before accepts k next, before ++ [.step x.place x.now accepts] <+: turns ++ [turn] ∧
          (run issuer w before).threads[x.place]? = some ⟨k, .ask x.exchange.effect next⟩ := by
      obtain ⟨before, accepts, k, next, within, at_⟩ := ih old
      exact ⟨before, accepts, k, next, within.trans (List.prefix_append _ _), at_⟩
    have step := after_after issuer (run issuer w turns) turn
    rw [run_append_singleton] at mem
    generalize (run issuer w turns).after issuer turn = s' at step mem
    cases step with
    | start k => exact earlier mem
    | idle => exact earlier mem
    | @step place now accepts k e next at_ reply world answered =>
      rcases List.mem_append.1 mem with old | new
      · exact earlier old
      · obtain rfl := List.mem_singleton.1 new
        exact ⟨turns, accepts, k, next, List.prefix_refl _, at_⟩

end Pool
end Accounts
