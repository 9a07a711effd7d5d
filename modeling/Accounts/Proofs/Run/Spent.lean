import Accounts.Proofs.Run.Pool
import Accounts.Proofs.Session.DenyList
import Accounts.Proofs.Session.Kinds
import Mathlib.Data.List.Pairwise
/-! Refresh tokens that are presented again and again, at the same time or later. The clock is read when a token is
looked at, and once more when it comes to the deny-list. Main statement: a token is spent once, and for ever, but by
those who looked at it before its end and come to the deny-list after it. -/
namespace Accounts
open Time Session

/-- The refresh token that was spent by this: its identifier, and the second at which it ends. -/
def Exchange.spent? : Exchange → Option (String × Int)
  | ⟨.deny id expiresAt, .ok _⟩ => some (id, expiresAt)
  | _ => none

theorem Exchange.spent?_eq_some {ex : Exchange} {f : String × Int} (h : ex.spent? = some f) :
    ex = ⟨.deny f.1 f.2, .ok ()⟩ := by
  unfold spent? at h
  split at h
  · obtain rfl := Option.some.inj h
    rfl
  · cases h

namespace Pool
variable {issuer : Issuer} {w : World} {turns more : List Turn} {s s' : Pool}

/-- The refresh tokens spent so far. -/
def marks (s : Pool) : List (String × Int) := s.trace.filterMap fun x => x.exchange.spent?

/-- The refresh tokens that are presented. -/
def Presented (turns : List Turn) (token : String) : Prop :=
  ∃ u, .useCase u ∈ started turns ∧ u.presented? = some token

/-- Presented tokens with one identifier end at the same second. So it is where each issued token has an identifier of
its own. -/
def OwnIds (issuer : Issuer) (turns : List Turn) : Prop :=
  ∀ token token', Presented turns token → Presented turns token' → ∀ e e', issuer.mark? token = some e →
    issuer.mark? token' = some e' → e.1 = e'.1 → e = e'

theorem started_append (turns more : List Turn) : started (turns ++ more) = started turns ++ started more :=
  List.filterMap_append

theorem Presented.append {token : String} (h : Presented turns token) (more : List Turn) :
    Presented (turns ++ more) token := by
  obtain ⟨u, mem, same⟩ := h
  exact ⟨u, by rw [started_append]; exact List.mem_append_left _ mem, same⟩

theorem OwnIds.of_append (h : OwnIds issuer (turns ++ more)) : OwnIds issuer turns :=
  fun token token' presented presented' => h token token' (presented.append more) (presented'.append more)

/-! ### Where spent tokens come from -/

/-- All that was answered was answered by the world at that instant. -/
theorem answered_of_mem (issuer : Issuer) (w : World) (turns : List Turn) :
    ∀ x ∈ (run issuer w turns).trace, ∃ w' accepts,
      (World.answer issuer x.now (Relay.mailer accepts) x.exchange.effect w').1 = x.exchange.reply := by
  refine run_induction (P := fun s => ∀ x ∈ s.trace, ∃ w' accepts,
    (World.answer issuer x.now (Relay.mailer accepts) x.exchange.effect w').1 = x.exchange.reply)
    (fun {s turn s'} step h => ?_) [] (fun x none => absurd none List.not_mem_nil) turns
  cases step with
  | start k => exact h
  | idle => exact h
  | @step place now accepts k e next at_ reply world answered =>
    intro x mem
    rcases List.mem_append.1 mem with old | new
    · exact h x old
    · obtain rfl := List.mem_singleton.1 new
      exact ⟨s.world, accepts, congrArg Prod.fst answered⟩

theorem mark?_of_looked {place : Nat} {seen : Instant} {token id : String} {c : Claims}
    (mem : ⟨place, seen, .verifyRefresh token, .ok (c, id)⟩ ∈ (run issuer w turns).trace) :
    issuer.mark? token = some (id, c.expiresAt) ∧ wholeSeconds seen ≤ c.expiresAt + Issuer.leeway := by
  obtain ⟨w', accepts, verified⟩ := answered_of_mem issuer w turns _ mem
  exact Issuer.mark?_of_verifyRefresh verified

section
variable {place : Nat} {k : Task} {id : String} {expiresAt : Int} {next : (Effect.deny id expiresAt).Reply → Program k.Result}

/-- Only a task to which a token was presented puts one on the deny-list, and it is that one. -/
theorem presented_of_deny (at_ : (run issuer w turns).threads[place]? = some ⟨k, .ask (.deny id expiresAt) next⟩) :
    ∃ token, Presented turns token ∧ issuer.mark? token = some (id, expiresAt) := by
  have asks : k.Asks ((run issuer w turns).log place) (.deny id expiresAt) := asks_of_step at_
  have task := task_of_thread at_
  rw [tasks_run] at task
  cases k with
  | useCase u =>
    obtain ⟨seen, -, token, c, presented, looked, rfl⟩ := asks
    obtain ⟨⟨_, now, _⟩, there, rfl, rfl⟩ := mem_log.1 looked
    exact ⟨token, ⟨u, List.mem_of_getElem? task, presented⟩, (mark?_of_looked there).1⟩
  | handle body =>
    have handles : Relay.Asks body ((run issuer w turns).log place) (.deny id expiresAt) := asks
    generalize (run issuer w turns).log place = log at handles
    cases handles

end

theorem presented_of_mark {f : String × Int} (mem : f ∈ (run issuer w turns).marks) :
    ∃ token, Presented turns token ∧ issuer.mark? token = some f := by
  obtain ⟨⟨place, now, ex⟩, there, spent⟩ := List.mem_filterMap.1 mem
  obtain rfl := Exchange.spent?_eq_some spent
  obtain ⟨before, accepts, k, next, ⟨more, rfl⟩, at_⟩ := step_of_mem issuer w turns there
  obtain ⟨token, presented, marked⟩ := presented_of_deny at_
  exact ⟨token, by rw [List.append_assoc]; exact presented.append _, marked⟩

theorem OwnIds.eq_of_marks (own : OwnIds issuer turns) {token : String} (presented : Presented turns token)
    {f : String × Int} (marked : issuer.mark? token = some f) : ∀ e ∈ (run issuer w turns).marks, e.1 = f.1 → e = f := by
  intro e mem same
  obtain ⟨other, shown, named⟩ := presented_of_mark mem
  exact own other token shown presented e f named marked same

theorem marks_snoc {x : Entry} (grown : s'.trace = s.trace ++ [x]) :
    s'.marks = s.marks ++ x.exchange.spent?.toList := by
  rw [marks, marks, grown, List.filterMap_append]
  cases h : x.exchange.spent? <;> simp [h]

/-! ### The deny-list in the course of a run -/

/-- What a step does to the deny-list. -/
inductive Puts (now : Instant) (denied : Issuer.DenyList) : Exchange → Issuer.DenyList → Prop
  | quiet {ex : Exchange} (unspent : ex.spent? = none) : Puts now denied ex denied
  | deny {f : String × Int} {reply : Except ServiceError Unit} {after : Issuer.DenyList}
      (enters : Issuer.Enters now denied f (reply, after)) : Puts now denied ⟨.deny f.1 f.2, reply⟩ after

theorem answer_puts {now : Instant} {accepts : Letter → Bool} {e : Effect} {reply : e.Reply} {w' : World}
    (answered : World.answer issuer now (Relay.mailer accepts) e w = (reply, w')) :
    Puts now w.denied ⟨e, reply⟩ w'.denied := by
  obtain ⟨rfl, rfl⟩ := Prod.ext_iff.1 answered
  cases e with
  | deny id expiresAt => exact .deny (Issuer.deny_enters now w.denied id expiresAt)
  | _ => exact .quiet rfl

theorem answer_deny {now : Instant} {mail : MailAction} {id : String} {expiresAt : Int} {out : Except ServiceError Unit}
    {after : Issuer.DenyList} (made : Issuer.deny now w.denied id expiresAt = (out, after)) :
    World.answer issuer now mail (.deny id expiresAt) w = (out, ⟨w.store, after⟩) := by
  dsimp only [World.answer]
  rw [made]

/-- The deny-list against the tokens that were spent, at any instant not before those of the run. Who spent a token
that was spent already came after its end. -/
structure Ledger (turns : List Turn) (s : Pool) : Prop where
  denies : ∀ now, (∀ r ∈ instants turns, r ≤ now) → Issuer.Denies s.marks now s.world.denied
  late : s.trace.Pairwise fun x y => ∀ f, x.exchange.spent? = some f → y.exchange.spent? = some f →
    f.2 + Issuer.leeway < wholeSeconds y.now

section
variable {turn : Turn} {x : Entry} (h : Ledger turns s) (grown : s'.trace = s.trace ++ [x])
include h grown

/-- A step that spends no token leaves the ledger right, whatever it does to the deny-list. -/
theorem Ledger.quiet (unspent : x.exchange.spent? = none)
    (denies : ∀ now, (∀ r ∈ instants (turns ++ [turn]), r ≤ now) → Issuer.Denies s.marks now s'.world.denied) :
    Ledger (turns ++ [turn]) s' := by
  have same : s'.marks = s.marks := by
    rw [marks_snoc grown, unspent]
    exact List.append_nil _
  refine ⟨fun now later => same ▸ denies now later, ?_⟩
  rw [grown, List.pairwise_append]
  refine ⟨h.late, List.pairwise_singleton _ _, fun y old z new f _ spent => ?_⟩
  rw [List.mem_singleton.1 new, unspent] at spent
  cases spent

/-- A token that is spent was not spent before, or has ended. -/
theorem Ledger.spent {f : String × Int} (spends : x.exchange.spent? = some f)
    (free : f ∉ s.marks ∨ f.2 + Issuer.leeway < wholeSeconds x.now)
    (denies : ∀ now, (∀ r ∈ instants (turns ++ [turn]), r ≤ now) → Issuer.Denies (s.marks ++ [f]) now s'.world.denied) :
    Ledger (turns ++ [turn]) s' := by
  have more : s'.marks = s.marks ++ [f] := by
    rw [marks_snoc grown, spends]
    rfl
  refine ⟨fun now later => more ▸ denies now later, ?_⟩
  rw [grown, List.pairwise_append]
  refine ⟨h.late, List.pairwise_singleton _ _, fun y old z new e before again => ?_⟩
  obtain rfl := List.mem_singleton.1 new
  obtain rfl := Option.some.inj (spends.symm.trans again)
  exact free.resolve_left (not_not_intro (List.mem_filterMap.2 ⟨y, old, before⟩))

end

theorem Ledger.after (h : Ledger turns (run issuer w turns)) {turn : Turn}
    (late : ∀ r ∈ instants turns, ∀ now ∈ instants [turn], r ≤ now) (own : OwnIds issuer turns) :
    Ledger (turns ++ [turn]) (run issuer w (turns ++ [turn])) := by
  have was {now : Instant} (later : ∀ r ∈ instants (turns ++ [turn]), r ≤ now) :
      ∀ r ∈ instants turns, r ≤ now :=
    fun r mem => later r (by rw [instants_append]; exact List.mem_append_left _ mem)
  have step := after_after issuer (run issuer w turns) turn
  rw [run_append_singleton]
  generalize (run issuer w turns).after issuer turn = s' at step ⊢
  cases step with
  | start k => exact { h with denies := fun now later => h.denies now (was later) }
  | idle => exact { h with denies := fun now later => h.denies now (was later) }
  | @step place now accepts k e next at_ reply world answered =>
    have current : Issuer.Denies (run issuer w turns).marks now (run issuer w turns).world.denied :=
      h.denies now fun r mem => late r mem now (by simp [instants])
    have from_now {instant : Instant} (later : ∀ r ∈ instants (turns ++ [.step place now accepts]), r ≤ instant) :
        now ≤ instant := later now (by simp [instants])
    have puts := answer_puts answered
    obtain ⟨store, denied⟩ := world
    cases puts with
    | quiet unspent => exact h.quiet rfl unspent fun instant later => h.denies instant (was later)
    | @deny f reply after enters =>
      obtain ⟨token, presented, marked⟩ := presented_of_deny at_
      cases current.after (own.eq_of_marks presented marked) enters with
      | again old live denies => exact h.quiet rfl rfl fun instant later => denies.later (from_now later)
      | spent free denies => exact h.spent rfl rfl free fun instant later => denies.later (from_now later)

theorem ledger_run (store : Store) (turns : List Turn) (ordered : (instants turns).Pairwise (· ≤ ·))
    (own : OwnIds issuer turns) : Ledger turns (run issuer ⟨store, []⟩ turns) := by
  induction turns using List.reverseRecOn with
  | nil => exact ⟨fun now _ => Issuer.denies_empty now, List.Pairwise.nil⟩
  | append_singleton turns turn ih =>
    have split := ordered
    rw [instants_append, List.pairwise_append] at split
    exact (ih split.1 own.of_append).after split.2.2 own.of_append

/-! ### What follows for a token -/

/-- The task in this place looked at the token while it was good, and put it on the deny-list after its end. -/
def Late (s : Pool) (token : String) (place : Nat) : Prop :=
  ∃ c id seen now, ⟨place, seen, .verifyRefresh token, .ok (c, id)⟩ ∈ s.trace ∧
    ⟨place, now, .deny id c.expiresAt, .ok ()⟩ ∈ s.trace ∧
    wholeSeconds seen ≤ c.expiresAt + Issuer.leeway ∧ c.expiresAt + Issuer.leeway < wholeSeconds now

/-- A task that succeeds with a token has looked at it, and has spent it. -/
theorem exists_spent {place : Nat} {u : UseCase} {a : u.Answer} {token : String}
    (ended : (run issuer w turns).threads[place]? = some ⟨.useCase u, .done (.ok a)⟩)
    (presented : u.presented? = some token) :
    ∃ c id seen now, ⟨place, seen, .verifyRefresh token, .ok (c, id)⟩ ∈ (run issuer w turns).trace ∧
      ⟨place, now, .deny id c.expiresAt, .ok ()⟩ ∈ (run issuer w turns).trace := by
  have pays : u.Pays ((run issuer w turns).log place) (.ok a) := ends_of_done ended
  obtain ⟨c, id, looked, spent⟩ := pays token presented rfl
  obtain ⟨⟨_, seen, _⟩, there, rfl, rfl⟩ := mem_log.1 looked
  obtain ⟨⟨_, now, _⟩, there', rfl, rfl⟩ := mem_log.1 spent
  exact ⟨c, id, seen, now, there, there'⟩

/-- Of two who spent a token, one came after its end. -/
theorem Ledger.late_of_ne (h : Ledger turns s) {x y : Entry} (hx : x ∈ s.trace) (hy : y ∈ s.trace) (differ : x ≠ y) :
    ∀ f, x.exchange.spent? = some f → y.exchange.spent? = some f →
      f.2 + Issuer.leeway < wholeSeconds x.now ∨ f.2 + Issuer.leeway < wholeSeconds y.now := by
  have symmetric : Std.Symm fun x y : Entry => ∀ f, x.exchange.spent? = some f → y.exchange.spent? = some f →
      f.2 + Issuer.leeway < wholeSeconds x.now ∨ f.2 + Issuer.leeway < wholeSeconds y.now :=
    ⟨fun x y apart f hx hy => (apart f hy hx).symm⟩
  have either : s.trace.Pairwise fun x y => ∀ f, x.exchange.spent? = some f → y.exchange.spent? = some f →
      f.2 + Issuer.leeway < wholeSeconds x.now ∨ f.2 + Issuer.leeway < wholeSeconds y.now :=
    h.late.imp fun late f hx hy => .inr (late f hx hy)
  exact either.forall hx hy differ

theorem Ledger.late_of_two (h : Ledger turns (run issuer w turns)) {place place' : Nat} {u v : UseCase} {a : u.Answer}
    {b : v.Answer} {token : String}
    (endedU : (run issuer w turns).threads[place]? = some ⟨.useCase u, .done (.ok a)⟩)
    (endedV : (run issuer w turns).threads[place']? = some ⟨.useCase v, .done (.ok b)⟩)
    (presentedU : u.presented? = some token) (presentedV : v.presented? = some token) (apart : place ≠ place') :
    (run issuer w turns).Late token place ∨ (run issuer w turns).Late token place' := by
  obtain ⟨c, id, seen, now, looked, spent⟩ := exists_spent endedU presentedU
  obtain ⟨c', id', seen', now', looked', spent'⟩ := exists_spent endedV presentedV
  obtain ⟨marked, live⟩ := mark?_of_looked looked
  obtain ⟨marked', live'⟩ := mark?_of_looked looked'
  have same : (id', c'.expiresAt) = (id, c.expiresAt) := Option.some.inj (marked'.symm.trans marked)
  have differ : (⟨place, now, .deny id c.expiresAt, .ok ()⟩ : Entry) ≠ ⟨place', now', .deny id' c'.expiresAt, .ok ()⟩ :=
    fun one => apart (congrArg Entry.place one)
  rcases h.late_of_ne spent spent' differ _ rfl (congrArg some same) with late | late
  · exact .inl ⟨c, id, seen, now, looked, spent, live, late⟩
  · refine .inr ⟨c', id', seen', now', looked', spent', live', ?_⟩
    rw [← same] at late
    exact late

/-- What comes of a step that puts a token on the deny-list: it is let in if it was not spent or has ended, and then the
list holds the tokens that were spent and have not ended, and that one. -/
structure Denied (s s' : Pool) (place : Nat) (now : Instant) (f : String × Int) (reply : Except ServiceError Unit) :
    Prop where
  trace : s'.trace = s.trace ++ [⟨place, now, .deny f.1 f.2, reply⟩]
  accepted : reply = .ok () ↔ f ∉ s.marks ∨ f.2 + Issuer.leeway < wholeSeconds now
  ids : (s'.world.denied.map (·.1)).Nodup
  listed : ∀ e, e ∈ s'.world.denied ↔ e ∈ s'.marks ∧ (wholeSeconds now ≤ e.2 + Issuer.leeway ∨ e = f)

theorem Ledger.denied {store : Store} {before : List Turn} {place : Nat} {now : Instant} {accepts : Letter → Bool}
    {k : Task} {id : String} {expiresAt : Int} {next : (Effect.deny id expiresAt).Reply → Program k.Result}
    (ledger : Ledger before (run issuer ⟨store, []⟩ before)) (own : OwnIds issuer before)
    (latest : ∀ r ∈ instants before, r ≤ now)
    (at_ : (run issuer ⟨store, []⟩ before).threads[place]? = some ⟨k, .ask (.deny id expiresAt) next⟩) :
    ∃ reply, Denied (run issuer ⟨store, []⟩ before) (run issuer ⟨store, []⟩ (before ++ [.step place now accepts]))
      place now (id, expiresAt) reply := by
  obtain ⟨token, presented, marked⟩ := presented_of_deny at_
  have denies := ledger.denies now latest
  have puts := Issuer.deny_enters now (run issuer ⟨store, []⟩ before).world.denied id expiresAt
  have mem := fun e => denies.mem_iff (own.eq_of_marks presented marked) puts (e := e)
  have after := denies.after (own.eq_of_marks presented marked) puts
  rcases made : Issuer.deny now (run issuer ⟨store, []⟩ before).world.denied id expiresAt with ⟨reply, denied⟩
  rw [made] at mem after
  have stepped : run issuer ⟨store, []⟩ (before ++ [.step place now accepts]) = _ :=
    (run_append_singleton ..).trans (after_step at_ (answer_deny made))
  have grown : (run issuer ⟨store, []⟩ (before ++ [.step place now accepts])).trace =
      (run issuer ⟨store, []⟩ before).trace ++ [⟨place, now, .deny id expiresAt, reply⟩] := by rw [stepped]
  have listed : (run issuer ⟨store, []⟩ (before ++ [.step place now accepts])).world.denied = denied := by rw [stepped]
  have marks := marks_snoc grown
  refine ⟨reply, ?_⟩
  cases after with
  | again old live denies =>
    refine ⟨grown, ⟨nofun, fun free => ?_⟩, listed ▸ denies.ids, fun e => ?_⟩
    · exact absurd (free.resolve_left (not_not_intro old)) (Int.not_lt.2 live)
    · have there : e ∈ (run issuer ⟨store, []⟩ before).marks ∨ e = (id, expiresAt) ↔
          e ∈ (run issuer ⟨store, []⟩ before).marks := or_iff_left_of_imp fun same => same ▸ old
      have same : (run issuer ⟨store, []⟩ (before ++ [.step place now accepts])).marks =
          (run issuer ⟨store, []⟩ before).marks := marks.trans (List.append_nil _)
      rw [listed, mem, same, and_or_right, there]
  | spent free denies =>
    have more : (run issuer ⟨store, []⟩ (before ++ [.step place now accepts])).marks =
        (run issuer ⟨store, []⟩ before).marks ++ [(id, expiresAt)] := marks
    refine ⟨grown, ⟨fun _ => free, fun _ => rfl⟩, listed ▸ denies.ids, fun e => ?_⟩
    rw [listed, mem, more, and_or_right, List.mem_append, List.mem_singleton]

/-- However refreshes and logouts are interleaved, with each other and with all else, while the clock does not go back.
Of two tasks that succeed with one refresh token, one has looked at it before its end and put it on the deny-list after
it. A token that is spent is good for no refresh at every later instant, and it is revoked again only if it ends between
the two readings of the clock. Whenever a token is put on the deny-list, it is let in just if it was not spent or has
ended, and then the list holds the tokens that were spent and have not ended, and that one. -/
theorem refresh_tokens_spent_once_or_late (issuer : Issuer) (store : Store) (turns : List Turn)
    (ordered : (instants turns).Pairwise (· ≤ ·)) (own : OwnIds issuer turns) :
    (∀ (place place' : Nat) (u v : UseCase) (a : u.Answer) (b : v.Answer) token,
      (run issuer ⟨store, []⟩ turns).threads[place]? = some ⟨.useCase u, .done (.ok a)⟩ →
      (run issuer ⟨store, []⟩ turns).threads[place']? = some ⟨.useCase v, .done (.ok b)⟩ →
      u.presented? = some token → v.presented? = some token → place ≠ place' →
      (run issuer ⟨store, []⟩ turns).Late token place ∨ (run issuer ⟨store, []⟩ turns).Late token place') ∧
    (∀ token, ∀ f ∈ (run issuer ⟨store, []⟩ turns).marks, issuer.mark? token = some f →
      ∀ now, (∀ r ∈ instants turns, r ≤ now) →
        issuer.checkRefresh now (run issuer ⟨store, []⟩ turns).world.denied token = .error .invalidToken ∧
        ∀ later, now ≤ later →
          ((issuer.revoke now later (run issuer ⟨store, []⟩ turns).world.denied token).1 = .ok () ↔
            (∃ told, issuer.verifyRefresh now token = .ok told) ∧ f.2 + Issuer.leeway < wholeSeconds later)) ∧
    (∀ before place now accepts k id expiresAt next, before ++ [.step place now accepts] <+: turns →
      (run issuer ⟨store, []⟩ before).threads[place]? = some ⟨k, .ask (.deny id expiresAt) next⟩ →
      ∃ reply, Denied (run issuer ⟨store, []⟩ before) (run issuer ⟨store, []⟩ (before ++ [.step place now accepts]))
        place now (id, expiresAt) reply) := by
  have ledger := ledger_run store turns ordered own
  refine ⟨fun place place' u v a b token => ledger.late_of_two, fun token f mem marked now latest => ?_,
    fun before place now accepts k id expiresAt next within at_ => ?_⟩
  · have denies := ledger.denies now latest
    refine ⟨denies.refuses marked mem, fun later le => (denies.later le).revoke_iff marked mem ?_⟩
    obtain ⟨other, presented, named⟩ := presented_of_mark mem
    exact own.eq_of_marks presented named
  · obtain ⟨more, rfl⟩ := within
    have earlier : (instants before).Pairwise (· ≤ ·) ∧ ∀ r ∈ instants before, r ≤ now := by
      rw [List.append_assoc, instants_append, List.pairwise_append] at ordered
      exact ⟨ordered.1, fun r mem => ordered.2.2 r mem now (by simp [instants])⟩
    have own := own.of_append.of_append
    exact (ledger_run store before earlier.1 own).denied own earlier.2 at_

/-- A logout that is carried out step by step. -/
theorem after_logout {place : Nat} {token : String}
    (at_ : s.threads[place]? = some ⟨.useCase (.logout token), (UseCase.action (.logout token)).run⟩)
    {seen now : Instant} {c : Claims} {id : String} (good : issuer.verifyRefresh seen token = .ok (c, id))
    {out : Except ServiceError Unit} {after : Issuer.DenyList}
    (made : Issuer.deny now s.world.denied id c.expiresAt = (out, after)) (accepts accepts' : Letter → Bool) :
    (s.after issuer (.step place seen accepts)).after issuer (.step place now accepts') =
      ⟨⟨s.world.store, after⟩, s.threads.set place ⟨.useCase (.logout token), .done out⟩,
        s.trace ++ [⟨place, seen, .verifyRefresh token, .ok (c, id)⟩, ⟨place, now, .deny id c.expiresAt, out⟩]⟩ := by
  let looked : Pool := ⟨s.world, s.threads.set place ⟨.useCase (.logout token), (Action.deny id c.expiresAt).run⟩,
    s.trace ++ [⟨place, seen, .verifyRefresh token, .ok (c, id)⟩]⟩
  have here := List.getElem?_set_self (a := (⟨.useCase (.logout token), (Action.deny id c.expiresAt).run⟩ : Thread))
    (List.getElem?_eq_some_iff.1 at_).1
  have first : s.after issuer (.step place seen accepts) = looked := after_step at_ (congrArg (·, s.world) good)
  have second : looked.after issuer (.step place now accepts') = _ := after_step here (answer_deny made)
  rw [first, second, List.set_set, List.append_assoc]
  rfl

end Pool

namespace Sample
open Pool

/-- What a session of the first user was issued at the thousandth second. -/
def refreshToken : String :=
  (issuer.issue 1000000000 (User.fresh ⟨"ann", registration.profile⟩ 1000000 1) "1").refresh

theorem verifyRefresh_refreshToken {now : Instant} (live : Issuer.Live now 605800) :
    issuer.verifyRefresh now refreshToken =
      .ok (issuer.refreshClaims 1000000000 (User.fresh ⟨"ann", registration.profile⟩ 1000000 1) "1", "1") := by
  have fits : (issuer.refreshClaims 1000000000 (User.fresh ⟨"ann", registration.profile⟩ 1000000 1) "1").Fits :=
    ⟨⟨by decide, by decide⟩, ⟨by decide, by decide⟩, ⟨by decide, by decide⟩⟩
  exact Issuer.verifyRefresh_refresh fits live

/-- Two logouts with one token, each with its two readings of the clock. -/
def twoLogouts (seen now seen' now' : Instant) : List Turn :=
  [.start (.useCase (.logout refreshToken)), .start (.useCase (.logout refreshToken)),
    .step 0 seen fun _ => true, .step 0 now fun _ => true, .step 1 seen' fun _ => true, .step 1 now' fun _ => true]

section
variable {seen now seen' now' : Instant}

theorem ownIds_twoLogouts : OwnIds issuer (twoLogouts seen now seen' now') := by
  have one {token : String} (h : Presented (twoLogouts seen now seen' now') token) : token = refreshToken := by
    obtain ⟨u, mem, shown⟩ := h
    have logout : Task.useCase u = .useCase (.logout refreshToken) := by simpa [started, twoLogouts] using mem
    cases logout
    exact (Option.some.inj shown).symm
  intro token token' h h' e e' marked marked' _
  rw [one h] at marked
  rw [one h'] at marked'
  exact Option.some.inj (marked.symm.trans marked')

theorem run_twoLogouts (live : Issuer.Live seen 605800) (live' : Issuer.Live seen' 605800)
    {out : Except ServiceError Unit} {after : Issuer.DenyList}
    (made : Issuer.deny now' [("1", 605800)] "1" 605800 = (out, after)) :
    run issuer ⟨.empty, []⟩ (twoLogouts seen now seen' now') = ⟨⟨.empty, after⟩,
      [⟨.useCase (.logout refreshToken), .done (.ok ())⟩, ⟨.useCase (.logout refreshToken), .done out⟩],
      [⟨0, seen, .verifyRefresh refreshToken, issuer.verifyRefresh seen refreshToken⟩, ⟨0, now, .deny "1" 605800, .ok ()⟩,
        ⟨1, seen', .verifyRefresh refreshToken, issuer.verifyRefresh seen' refreshToken⟩,
        ⟨1, now', .deny "1" 605800, out⟩]⟩ := by
  let started := ((fresh ⟨.empty, []⟩).after issuer (.start (.useCase (.logout refreshToken)))).after issuer
    (.start (.useCase (.logout refreshToken)))
  have first : (started.after issuer (.step 0 seen fun _ => true)).after issuer (.step 0 now fun _ => true) = _ :=
    after_logout rfl (verifyRefresh_refreshToken live) rfl _ _
  rw [run, twoLogouts, List.foldl_cons, List.foldl_cons, List.foldl_cons, List.foldl_cons, first, List.foldl_cons,
    List.foldl_cons, List.foldl_nil]
  refine (after_logout rfl (verifyRefresh_refreshToken live') made _ _).trans ?_
  rw [verifyRefresh_refreshToken live, verifyRefresh_refreshToken live']
  rfl

end

/-- The second logout comes a second later, and is refused; so is a refresh after another thousand. -/
theorem refresh_tokens_spent_once_or_late_twoLogouts :
    let turns := twoLogouts 1000000000 1000000000 1001000000 1001000000
    (instants turns).Pairwise (· ≤ ·) ∧ OwnIds issuer turns ∧
    issuer.checkRefresh 2000000000 (run issuer ⟨.empty, []⟩ turns).world.denied refreshToken = .error .invalidToken := by
  intro turns
  have ordered : (instants turns).Pairwise (· ≤ ·) := by decide
  have live : Issuer.Live 1000000000 605800 := ⟨by decide, by decide, by decide⟩
  have live' : Issuer.Live 1001000000 605800 := ⟨by decide, by decide, by decide⟩
  have ran : run issuer ⟨.empty, []⟩ turns = _ := run_twoLogouts live live' rfl
  have marked := (Issuer.mark?_of_verifyRefresh (verifyRefresh_refreshToken live)).1
  have spent : ("1", 605800) ∈ (run issuer ⟨.empty, []⟩ turns).marks := by
    rw [ran]
    exact List.mem_cons_self
  have law := (refresh_tokens_spent_once_or_late issuer .empty turns ordered ownIds_twoLogouts).2.1
  exact ⟨ordered, ownIds_twoLogouts, (law refreshToken _ spent marked 2000000000 (by decide)).1⟩

/-- The second logout looks at the token in its last good second and puts it on the deny-list in the next one, where its
entry is no longer. -/
theorem refresh_token_spent_twice :
    let turns := twoLogouts 605805000000 605805000000 605805500000 605806000000
    (instants turns).Pairwise (· ≤ ·) ∧ OwnIds issuer turns ∧
    (run issuer ⟨.empty, []⟩ turns).threads =
      [⟨.useCase (.logout refreshToken), .done (.ok ())⟩, ⟨.useCase (.logout refreshToken), .done (.ok ())⟩] ∧
    (run issuer ⟨.empty, []⟩ turns).world.denied = [("1", 605800)] := by
  intro turns
  have live : Issuer.Live 605805000000 605800 := ⟨by decide, by decide, by decide⟩
  have live' : Issuer.Live 605805500000 605800 := ⟨by decide, by decide, by decide⟩
  have ran : run issuer ⟨.empty, []⟩ turns = _ := run_twoLogouts live live' rfl
  rw [ran]
  exact ⟨by decide, ownIds_twoLogouts, rfl, rfl⟩

end Sample
end Accounts
