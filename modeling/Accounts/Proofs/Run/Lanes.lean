import Accounts.Proofs.Run.Errands
/-! What each task may change. Main statement: handlers of messages change nothing that a use case sees, and a use case
changes what is stored of its own user only, in the columns that it is for. -/
namespace Accounts
open Time

def Task.isUseCase : Task → Bool
  | .useCase _ => true
  | .handle _ => false

/-- The user that a use case is about, as the tables tell; for a registration, the one that it would store. -/
def UseCase.actsOn? (t : Tables) : UseCase → Option Int
  | register .. => some t.users.next
  | resend _ _ _ email => (t.users.find? fun u => u.email = email).map User.id
  | verify text => (t.tokens.find? fun row => row.token = text).map VerificationToken.userId
  | updateProfile username _ | changePassword _ username _ _ | deleteAccount username =>
    (t.userByName? username).map User.id
  | _ => none

/-- All that a use case that is for some columns writes if it succeeds. -/
def UseCase.WritesOnly (t t' : Tables) : UseCase → Prop
  | updateProfile username profile => ∃ user at_, t.userByName? username = some user ∧
      t' = { t with users := t.users.adjust user.id fun u => { u with profile, updatedAt := at_ } }
  | verify text => ∃ row at_, (t.tokens.find? fun row => row.token = text) = some row ∧
      t' = { t with
        tokens := t.tokens.adjust row.id fun old => { old with consumedAt := some at_, updatedAt := at_ }
        users := t.users.adjust row.userId fun u =>
          { u with verified := true, verifiedAt := some at_, updatedAt := at_ } }
  | changePassword _ username _ _ => ∃ user, t.userByName? username = some user ∧
      t'.users = t.users ∧ t'.tokens = t.tokens ∧ t'.outbox = t.outbox ∧
      (t'.hashes.lookup user.id).isSome = true ∧ ∀ id ≠ user.id, t'.hashes.lookup id = t.hashes.lookup id
  | _ => True

/-! ### Without the handlers -/

/-- Two stores in memory, the same but for what events have come to. -/
inductive Beside : World → World → Prop
  | of {t t' : Tables} (same : t.SameButSettled t') (denied : Issuer.DenyList) :
      Beside ⟨.memory t, denied⟩ ⟨.memory t', denied⟩

theorem Beside.tables {w w' : World} (h : Beside w w') : w.tables.SameButSettled w'.tables := by
  cases h with
  | of same => exact same

theorem World.answer_beside (issuer : Issuer) (now : Instant) (accepts : Letter → Bool) {e : Effect} {w w' : World}
    (apart : ∀ c, e = .store c → ¬c.AsksOfEvents) (beside : Beside w w') :
    (World.answer issuer now (Relay.mailer accepts) e w').1 = (World.answer issuer now (Relay.mailer accepts) e w).1 ∧
    Beside (World.answer issuer now (Relay.mailer accepts) e w).2
      (World.answer issuer now (Relay.mailer accepts) e w').2 := by
  cases beside with
  | of same denied =>
    cases e with
    | store c =>
      obtain ⟨replied, later⟩ := Tables.answer_sameButSettled now same (apart c rfl)
      exact ⟨replied, .of later denied⟩
    | _ => exact ⟨rfl, .of same _⟩

theorem UseCase.MayAsk.apart {seen : List Instant} {e : Effect} (free : MayAsk seen e) :
    ∀ c, e = .store c → ¬c.AsksOfEvents := by
  rintro c rfl asks
  cases c with
  | findEvent | updateStatus => exact free
  | _ => exact asks

namespace Errand
variable (issuer : Issuer) {w w' : World}

theorem run_beside (u : UseCase) (clock : Nat → Instant) (accepts : Letter → Bool) (beside : Beside w w') :
    (run issuer ⟨.useCase u, clock, accepts⟩ w').1 = (run issuer ⟨.useCase u, clock, accepts⟩ w).1 ∧
    Beside (run issuer ⟨.useCase u, clock, accepts⟩ w).2 (run issuer ⟨.useCase u, clock, accepts⟩ w').2 := by
  let answer := Program.ticking issuer clock (Relay.mailer accepts)
  let Related (s s' : World × Nat) := Beside s.1 s'.1 ∧ s'.2 = s.2
  have step : ∀ e s s', (∀ c, e = .store c → ¬c.AsksOfEvents) → Related s s' →
      (answer e s').1 = (answer e s).1 ∧ Related (answer e s).2 (answer e s').2 := by
    intro e s s' apart ⟨beside, tick⟩
    obtain ⟨replied, later⟩ := World.answer_beside issuer (clock s.2) accepts apart beside
    simp only [answer, Related, Program.ticking, tick, and_true]
    exact ⟨replied, later⟩
  have along : Program.Along answer (fun e _ => ∀ c, e = .store c → ¬c.AsksOfEvents) (w, 0) u.action.run :=
    Program.along_of_within (fun _ _ _ free => free.apart) u.within_mayAsk _
  have start : Related (w, 0) (w', 0) := ⟨beside, rfl⟩
  obtain ⟨replied, later, -⟩ := along.simulated step start
  exact ⟨replied, later⟩

/-- The use cases of a history, without the handlers. -/
def useCases (es : List Errand) : List Errand := es.filter fun e => e.task.isUseCase

theorem outcomes_beside (es : List Errand) (beside : Beside w w') (consistent : w'.tables.Consistent) :
    ((outcomes issuer es w').1.filter fun result => result.1.isUseCase) = (outcomes issuer (useCases es) w).1 ∧
    Beside (after issuer (useCases es) w) (after issuer es w') := by
  induction es generalizing w w' with
  | nil => exact ⟨rfl, beside⟩
  | cons e es ih =>
    have later : (e.run issuer w').2.tables.Consistent := by
      cases beside with
      | of same denied =>
        obtain ⟨t', leads, -⟩ := e.does issuer consistent denied
        exact leads.tables_eq ▸ leads.consistent
    obtain ⟨task, clock, accepts⟩ := e
    cases task with
    | useCase u =>
      obtain ⟨same, beside⟩ := run_beside issuer u clock accepts beside
      obtain ⟨rest, last⟩ := ih beside later
      exact ⟨congrArg₂ List.cons (congrArg (Sigma.mk (Task.useCase u)) same) rest, last⟩
    | handle body =>
      -- nothing takes the handler's place
      have stays : Beside w (run issuer ⟨.handle body, clock, accepts⟩ w').2 := by
        cases beside with
        | @of t t' same denied =>
          obtain ⟨after, settled, world, -⟩ :=
            @handle_leads t' denied issuer body clock accepts consistent
          rw [world]
          exact .of (same.trans settled) denied
      exact ih stays later

end Errand

/-! ### One use case -/

namespace UseCase
variable {now later : Instant} {t t' : Tables} {u : UseCase} {c : StoreCall} {userId : Int}

theorem Commits.not_asksOfEvents (h : u.Commits now t c) : ¬c.AsksOfEvents := by
  cases h <;> exact id

theorem Commits.actsOn_of_concerns (h : u.Commits now t c) (consistent : t.Consistent)
    (concerns : c.Concerns t userId) : u.actsOn? t = some userId := by
  cases h with
  | register => exact congrArg some concerns
  | @resend ttl cooldown token email user addressed found =>
    exact (congrArg (Option.map User.id) found).trans (congrArg some concerns)
  | @verify text row user named stored owner =>
    have acts : actsOn? t (.verify text) = some row.userId := congrArg (Option.map VerificationToken.userId) stored
    rw [acts]
    obtain ⟨-, own⟩ := consistent.users.get?_eq_some_iff.1 owner
    rcases concerns with rfl | ⟨token, there, rfl⟩
    · rw [own]
    · have same := consistent.tokens.get?_eq_some_iff.2 ⟨List.mem_of_find?_eq_some stored, rfl⟩
      rw [Option.some.inj (same.symm.trans there)]
  | updateProfile | deleteAccount =>
    obtain ⟨user, named, rfl⟩ := concerns
    exact congrArg (Option.map User.id) named
  | changePassword named guarded found =>
    exact (congrArg (Option.map User.id) found).trans (congrArg some concerns)

theorem writesOnly_of_reads (reads : u.writes = false) (t t' : Tables) : u.WritesOnly t t' := by
  cases u with
  | updateProfile | verify | changePassword => cases reads
  | _ => trivial

theorem Commits.writesOnly (h : u.Commits now t c) (consistent : t.Consistent)
    (change : Tables.Change later t c true t') : u.WritesOnly t t' := by
  cases h with
  | register | resend | deleteAccount => trivial
  | verify named stored owner =>
    cases change with
    | read reads => cases reads
    | verifyWithToken =>
      obtain ⟨-, own⟩ := consistent.users.get?_eq_some_iff.1 owner
      exact ⟨_, now, stored, by rw [own]; rfl⟩
  | updateProfile =>
    cases change with
    | read reads => cases reads
    | updateProfile named free stored =>
      obtain ⟨-, own⟩ := consistent.users.get?_eq_some_iff.1 stored
      exact ⟨_, later, named, by rw [own]; rfl⟩
  | changePassword named guarded found =>
    cases change with
    | read reads => cases reads
    | updatePassword =>
      refine ⟨_, found, rfl, rfl, rfl, ?_, fun id other => Tables.lookup_setHash_of_ne t _ other⟩
      rw [Tables.lookup_setHash_self]
      rfl

end UseCase

namespace Errand

/-- Handlers of messages change no result of a use case, and nothing of the tables but what events have come to. A use
case leaves what is stored of all users but its own, and all events that are there. What is for the profile, the
verification or the password writes only these columns, and nothing if it is refused. -/
theorem use_cases_in_lanes (issuer : Issuer) (es : List Errand) :
    (((outcomes issuer es .start).1.filter fun result => result.1.isUseCase) =
        (outcomes issuer (useCases es) .start).1 ∧
      (tablesAfter issuer (useCases es)).SameButSettled (tablesAfter issuer es)) ∧
    ∀ u clock accepts,
      let t := tablesAfter issuer es
      let t' := tablesAfter issuer (es ++ [⟨.useCase u, clock, accepts⟩])
      let result := (run issuer ⟨.useCase u, clock, accepts⟩ (after issuer es .start)).1
      (∀ userId, u.actsOn? t ≠ some userId → t.Agree t' userId) ∧ t.outbox.rows <+: t'.outbox.rows ∧
      (∀ answer, result = .ok answer → u.WritesOnly t t') ∧ ∀ e, result = .error e → t' = t := by
  have start : Beside .start .start := .of (.refl .empty) []
  obtain ⟨results, beside⟩ := outcomes_beside issuer es start Tables.consistent_empty
  refine ⟨⟨results, beside.tables⟩, fun u clock accepts => ?_⟩
  have does := does_append issuer es ⟨.useCase u, clock, accepts⟩
  have consistent := (leads_start issuer es).consistent
  dsimp only
  generalize tablesAfter issuer (es ++ [_]) = t' at does ⊢
  cases does with
  | refused fails =>
    refine ⟨fun userId _ => .refl _ userId, List.prefix_rfl, fun answer ok => ?_, fun _ _ => rfl⟩
    cases fails.symm.trans ok
  | read reads =>
    exact ⟨fun userId _ => .refl _ userId, List.prefix_rfl, fun _ _ => UseCase.writesOnly_of_reads reads _ _,
      fun _ _ => rfl⟩
  | commits commits change succeeds =>
    refine ⟨fun userId other => ?_, change.outbox_prefix commits.not_asksOfEvents, fun _ _ => ?_, fun e fails => ?_⟩
    · exact change.agree consistent fun concerns => other (commits.actsOn_of_concerns consistent concerns)
    · exact commits.writesOnly consistent change
    · obtain ⟨answer, ok⟩ := succeeds
      cases fails.symm.trans ok

end Errand
end Accounts
