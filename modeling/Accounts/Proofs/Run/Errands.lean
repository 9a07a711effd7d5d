import Accounts.Proofs.Run.Agreement
import Accounts.Proofs.Store.Frames
/-! Histories of errands in memory, each with a clock of its own. Main statements: a user who is verified has spent a
token of that user's, and stays verified until the account is deleted, for good. -/
namespace Accounts
open Time

/-- What every answer keeps holds after a program that asks for no more than this. -/
theorem Program.Proceeds.keeps {α σ : Type} {answer : (e : Effect) → σ → e.Reply × σ}
    {asks : List Exchange → Effect → Prop} {ends : List Exchange → α → Prop} {P : σ → Prop}
    (step : ∀ log e s, asks log e → P s → P (answer e s).2) {log : List Exchange} {p : Program α}
    (h : Proceeds asks ends log p) {s : σ} (start : P s) : P (run answer p s).2 := by
  induction p generalizing log s with
  | done a => exact start
  | ask e next ih => exact ih _ (h.2 _) (step log e s h.1 start)

namespace Errand

/-! ### One errand -/

/-- What an errand does to the tables. -/
inductive Does (issuer : Issuer) (w : World) : Errand → Tables → Prop
  | refused {u : UseCase} {clock : Nat → Instant} {accepts : Letter → Bool} {e : ServiceError}
      (fails : (run issuer ⟨.useCase u, clock, accepts⟩ w).1 = .error e) :
      Does issuer w ⟨.useCase u, clock, accepts⟩ w.tables
  | read {u : UseCase} {clock : Nat → Instant} {accepts : Letter → Bool} (reads : u.writes = false) :
      Does issuer w ⟨.useCase u, clock, accepts⟩ w.tables
  | commits {u : UseCase} {clock : Nat → Instant} {accepts : Letter → Bool} {read later : Instant} {c : StoreCall}
      {t : Tables} (commits : u.Commits read w.tables c) (change : Tables.Change later w.tables c true t)
      (succeeds : ∃ a, (run issuer ⟨.useCase u, clock, accepts⟩ w).1 = .ok a) (ticks : ∃ n, clock n = read) :
      Does issuer w ⟨.useCase u, clock, accepts⟩ t
  | settles {body : Bytes} {clock : Nat → Instant} {accepts : Letter → Bool} {t : Tables}
      (same : Tables.SameButSettled w.tables t) : Does issuer w ⟨.handle body, clock, accepts⟩ t

/-- The tables in memory after some, which they continue. -/
structure Leads (t : Tables) (w : World) (t' : Tables) : Prop where
  world : ∃ denied, w = ⟨.memory t', denied⟩
  consistent : t'.Consistent
  continues : Tables.Continues t t'

theorem Leads.tables_eq {t t' : Tables} {w : World} (h : Leads t w t') : w.tables = t' := by
  obtain ⟨denied, rfl⟩ := h.world
  rfl

theorem Leads.trans {t mid t' : Tables} {w w' : World} (h : Leads t w mid) (h' : Leads mid w' t') : Leads t w' t' :=
  ⟨h'.world, h'.consistent, h.continues.trans h'.continues⟩

theorem leads_refl {t : Tables} (h : t.Consistent) (denied : Issuer.DenyList) : Leads t ⟨.memory t, denied⟩ t :=
  ⟨⟨denied, rfl⟩, h, .refl t⟩

theorem leads_change {now : Instant} {t t' : Tables} {c : StoreCall} {ok : Bool} (h : t.Consistent)
    (change : Tables.Change now t c ok t') (denied : Issuer.DenyList) : Leads t ⟨.memory t', denied⟩ t' :=
  ⟨⟨denied, rfl⟩, h.change change, change.continues⟩

variable {t : Tables} {denied : Issuer.DenyList}

theorem handle_leads (issuer : Issuer) (body : Bytes) (clock : Nat → Instant) (accepts : Letter → Bool)
    (h : t.Consistent) : ∃ t', Tables.SameButSettled t t' ∧
      (run issuer ⟨.handle body, clock, accepts⟩ ⟨.memory t, denied⟩).2 = ⟨.memory t', denied⟩ ∧
      Leads t (run issuer ⟨.handle body, clock, accepts⟩ ⟨.memory t, denied⟩).2 t' := by
  let P (s : World × Nat) : Prop := ∃ t', Tables.SameButSettled t t' ∧ s.1 = ⟨.memory t', denied⟩ ∧
    t'.Consistent ∧ Tables.Continues t t'
  have step : ∀ log e s, Relay.Asks body log e → P s →
      P (Program.ticking issuer clock (Relay.mailer accepts) e s).2 := by
    rintro log e ⟨w, n⟩ asks ⟨mid, same, rfl, consistent, continues⟩
    cases asks with
    | lookup | send => exact ⟨mid, same, rfl, consistent, continues⟩
    | @settle r _ _ _ _ _ sent =>
      have change := Tables.answer_change (clock n) (.updateStatus r.id (Relay.settledAs sent)) mid
      exact ⟨_, same.trans change.sameButSettled, rfl, consistent.change change, continues.trans change.continues⟩
  have start : P (⟨.memory t, denied⟩, 0) := ⟨t, .refl t, rfl, h, .refl t⟩
  obtain ⟨t', same, world, consistent, continues⟩ := (Relay.handle_proceeds body).keeps step start
  exact ⟨t', same, world, ⟨denied, world⟩, consistent, continues⟩

theorem does (issuer : Issuer) (e : Errand) (h : t.Consistent) (denied : Issuer.DenyList) :
    ∃ t', Leads t (e.run issuer ⟨.memory t, denied⟩).2 t' ∧ e.Does issuer ⟨.memory t, denied⟩ t' := by
  obtain ⟨task, clock, accepts⟩ := e
  cases task with
  | handle body =>
    obtain ⟨t', same, -, leads⟩ := handle_leads issuer body clock accepts h
    exact ⟨t', leads, .settles same⟩
  | useCase u =>
    have pursued : u.Pursued clock t denied (u.pursue issuer clock (Relay.mailer accepts) ⟨.memory t, denied⟩ 0) :=
      u.pursue_pursued
    have ran : run issuer ⟨.useCase u, clock, accepts⟩ ⟨.memory t, denied⟩ =
        ((u.pursue issuer clock (Relay.mailer accepts) ⟨.memory t, denied⟩ 0).1,
          (u.pursue issuer clock (Relay.mailer accepts) ⟨.memory t, denied⟩ 0).2.1) := rfl
    generalize u.pursue issuer clock (Relay.mailer accepts) ⟨.memory t, denied⟩ 0 = out at pursued ran
    rw [ran]
    cases pursued with
    | refused e after n => exact ⟨t, leads_refl h after, .refused (congrArg Prod.fst ran)⟩
    | read reads a after n => exact ⟨t, leads_refl h after, .read reads⟩
    | done commits accepted a n =>
      have change := Tables.answer_accepted accepted
      exact ⟨_, leads_change h change denied, .commits commits change ⟨a, by rw [ran]⟩ ⟨_, rfl⟩⟩

/-! ### Histories -/

/-- The world after errands, one after the other. -/
def after (issuer : Issuer) (es : List Errand) (w : World) : World := (outcomes issuer es w).2

/-- The tables after errands from the start. -/
abbrev tablesAfter (issuer : Issuer) (es : List Errand) : Tables := (after issuer es .start).tables

variable (issuer : Issuer) (es more : List Errand) (e : Errand)

theorem after_cons (w : World) : after issuer (e :: es) w = after issuer es (e.run issuer w).2 := rfl

theorem after_append (w : World) : after issuer (es ++ more) w = after issuer more (after issuer es w) := by
  induction es generalizing w with
  | nil => rfl
  | cons e es ih => exact ih _

theorem after_singleton (w : World) : after issuer [e] w = (e.run issuer w).2 := rfl

/-- A store in memory stays in memory, and errands keep what single calls keep. -/
theorem leads_after (h : t.Consistent) (denied : Issuer.DenyList) :
    ∃ t', Leads t (after issuer es ⟨.memory t, denied⟩) t' := by
  induction es generalizing t denied with
  | nil => exact ⟨t, leads_refl h denied⟩
  | cons e es ih =>
    obtain ⟨mid, leads, -⟩ := e.does issuer h denied
    obtain ⟨denied', there⟩ := leads.world
    obtain ⟨t', later⟩ := ih leads.consistent denied'
    rw [← there, ← after_cons] at later
    exact ⟨t', leads.trans later⟩

theorem leads_start : Leads .empty (after issuer es .start) (tablesAfter issuer es) := by
  obtain ⟨t', leads⟩ := leads_after issuer es Tables.consistent_empty []
  have same : tablesAfter issuer es = t' := leads.tables_eq
  rw [same]
  exact leads

theorem leads_append : Leads (tablesAfter issuer es) (after issuer (es ++ more) .start)
    (tablesAfter issuer (es ++ more)) := by
  obtain ⟨denied, world⟩ := (leads_start issuer es).world
  obtain ⟨t', leads⟩ := leads_after issuer more (leads_start issuer es).consistent denied
  rw [← world, ← after_append] at leads
  have same : tablesAfter issuer (es ++ more) = t' := leads.tables_eq
  rw [same]
  exact leads

theorem does_append : e.Does issuer (after issuer es .start) (tablesAfter issuer (es ++ [e])) := by
  obtain ⟨denied, world⟩ := (leads_start issuer es).world
  obtain ⟨t', leads, does⟩ := e.does issuer (leads_start issuer es).consistent denied
  rw [← world] at leads does
  have same : tablesAfter issuer (es ++ [e]) = t' := by
    rw [tablesAfter, after_append, after_singleton]
    exact leads.tables_eq
  rw [same]
  exact does

variable {issuer es more e}

/-! ### Verified users -/

/-- A Verify of a token that was issued to this user has succeeded. -/
def VerifiedIn (issuer : Issuer) (es : List Errand) (userId : Int) : Prop :=
  ∃ before text clock accepts later, es = before ++ ⟨.useCase (.verify text), clock, accepts⟩ :: later ∧
    (∃ row ∈ (tablesAfter issuer before).tokens.values, row.token = text ∧ row.userId = userId) ∧
    ∃ user, (run issuer ⟨.useCase (.verify text), clock, accepts⟩ (after issuer before .start)).1 = .ok user

theorem VerifiedIn.append {userId : Int} (h : VerifiedIn issuer es userId) (more : List Errand) :
    VerifiedIn issuer (es ++ more) userId := by
  obtain ⟨before, text, clock, accepts, later, rfl, verified⟩ := h
  exact ⟨before, text, clock, accepts, later ++ more, by rw [List.append_assoc]; rfl, verified⟩

/-- A user is verified for a token that is stored as that user's. -/
theorem spends_of_commits {now at_ : Instant} {u : UseCase} {c : StoreCall} (h : t.Consistent)
    (commits : u.Commits now t c) {tokenId userId : Int} (verifies : c = .verifyWithToken tokenId userId at_) :
    ∃ text, u = .verify text ∧ ∃ row ∈ t.tokens.values, row.token = text ∧ row.userId = userId := by
  cases commits with
  | @verify text found user named stored owner live inTime =>
    obtain ⟨-, rfl, -⟩ := StoreCall.verifyWithToken.inj verifies
    obtain ⟨-, same⟩ := h.users.get?_eq_some_iff.1 owner
    exact ⟨text, rfl, found, List.mem_of_find?_eq_some stored, by simpa using List.find?_some stored, same.symm⟩
  | _ => cases verifies

theorem verifiedIn_of_verified {user : User} (stored : user ∈ (tablesAfter issuer es).users.values)
    (verified : user.verified = true) : VerifiedIn issuer es user.id := by
  induction es using List.reverseRecOn generalizing user with
  | nil => exact absurd stored List.not_mem_nil
  | append_singleton es e ih =>
    have earlier (old : User) (there : old ∈ (tablesAfter issuer es).users.values) (same : old.id = user.id)
        (proved : old.verified = true) : VerifiedIn issuer (es ++ [e]) user.id :=
      same ▸ (ih there proved).append [e]
    have does := does_append issuer es e
    have consistent := (leads_start issuer es).consistent
    generalize tablesAfter issuer (es ++ [e]) = t' at does stored
    cases does with
    | refused | read => exact earlier user stored rfl verified
    | settles same => exact earlier user (same.users ▸ stored) rfl verified
    | @commits u clock accepts read later c _ commits change succeeds =>
      rcases change.verified_cases consistent stored verified with ⟨old, there, same, proved⟩ | ⟨-, tokenId, at_, rfl⟩
      · exact earlier old there same proved
      · obtain ⟨text, rfl, row⟩ := spends_of_commits consistent commits rfl
        exact ⟨es, text, clock, accepts, [], rfl, row, succeeds⟩

/-! ### Deleted accounts -/

/-- After some errands, the account of this name is deleted in others. -/
def DeletedIn (issuer : Issuer) (before es : List Errand) (username : String) : Prop :=
  ∃ early clock accepts late, es = early ++ ⟨.useCase (.deleteAccount username), clock, accepts⟩ :: late ∧
    (run issuer ⟨.useCase (.deleteAccount username), clock, accepts⟩ (after issuer (before ++ early) .start)).1 = .ok ()

/-- A user who is stored stays so under the same name, and verified if so, unless the account is deleted. -/
theorem user_stays {before : List Errand} {user : User} (stored : user ∈ (tablesAfter issuer before).users.values)
    (es : List Errand) :
    (∃ row ∈ (tablesAfter issuer (before ++ es)).users.values, row.id = user.id ∧ row.username = user.username ∧
      (user.verified = true → row.verified = true)) ∨ DeletedIn issuer before es user.username := by
  induction es using List.reverseRecOn with
  | nil =>
    rw [List.append_nil]
    exact .inl ⟨user, stored, rfl, rfl, id⟩
  | append_singleton es e ih =>
    rcases ih with ⟨row, there, id, name, proved⟩ | ⟨early, clock, accepts, late, rfl, deleted⟩
    · have does := does_append issuer (before ++ es) e
      have consistent := (leads_start issuer (before ++ es)).consistent
      rw [← List.append_assoc]
      generalize tablesAfter issuer (before ++ es ++ [e]) = t' at does
      cases does with
      | refused | read => exact .inl ⟨row, there, id, name, proved⟩
      | settles same => exact .inl ⟨row, same.users ▸ there, id, name, proved⟩
      | @commits u clock accepts read later c _ commits change succeeds =>
        rcases change.user_stays consistent there with ⟨row', there', id', name', proved'⟩ | ⟨-, rfl⟩
        · exact .inl ⟨row', there', id'.trans id, name'.trans name, fun verified => proved' (proved verified)⟩
        · generalize named : row.username = username at commits change
          obtain rfl : username = user.username := named.symm.trans name
          cases commits
          obtain ⟨a, deleted⟩ := succeeds
          exact .inr ⟨es, clock, accepts, [], rfl, deleted⟩
    · exact .inr ⟨early, clock, accepts, late ++ [e], by rw [List.append_assoc]; rfl, deleted⟩

theorem username_ne_of_deleted {username : String} {clock : Nat → Instant} {accepts : Letter → Bool}
    (deleted : (run issuer ⟨.useCase (.deleteAccount username), clock, accepts⟩ (after issuer es .start)).1 = .ok ()) :
    ∀ row ∈ (tablesAfter issuer (es ++ [⟨.useCase (.deleteAccount username), clock, accepts⟩])).users.values,
      row.username ≠ username := by
  have does := does_append issuer es ⟨.useCase (.deleteAccount username), clock, accepts⟩
  have consistent := (leads_start issuer es).consistent
  generalize tablesAfter issuer (es ++ [_]) = t' at does
  intro row there name
  cases does with
  | refused fails => cases fails.symm.trans deleted
  | read reads => cases reads
  | commits commits change succeeds =>
    cases commits
    cases change with
    | read reads => cases reads
    | deleteUser named =>
      obtain ⟨found, named⟩ := Tables.userByName?_eq_some named
      rw [consistent.users.values_erase] at there
      obtain ⟨there, apart⟩ := List.mem_filter.1 there
      have same := consistent.eq_of_username_eq there found (name.trans named.symm)
      exact of_decide_eq_true apart (congrArg User.id same)

/-- Once the account of a user's name was deleted, the user's id is not there again. -/
theorem gone_of_deletedIn {before : List Errand} {user : User}
    (stored : user ∈ (tablesAfter issuer before).users.values) (deleted : DeletedIn issuer before es user.username) :
    user.id ∉ (tablesAfter issuer (before ++ es)).users.keys := by
  obtain ⟨early, clock, accepts, late, rfl, deleted⟩ := deleted
  have unnamed := username_ne_of_deleted deleted
  generalize (⟨.useCase (.deleteAccount user.username), clock, accepts⟩ : Errand) = d at unnamed ⊢
  have start := leads_start issuer before
  have there : Leads _ _ (tablesAfter issuer (before ++ (early ++ [d]))) := leads_append issuer before (early ++ [d])
  have rest : Leads _ _ (tablesAfter issuer (before ++ (early ++ [d]) ++ late)) := leads_append issuer _ late
  rw [List.append_assoc] at unnamed
  have split : early ++ d :: late = early ++ [d] ++ late := by rw [List.append_assoc]; rfl
  rw [split, ← List.append_assoc before]
  intro again
  have handedOut := Int.le_trans (start.consistent.users.le_last stored) there.continues.users.last_le
  have kept := rest.continues.users.mem_keys handedOut again
  obtain ⟨row, mem, id⟩ := there.consistent.users.mem_keys_iff.1 kept
  have origin := there.continues.users.origin_eq start.consistent.users there.consistent.users stored mem id.symm
  exact unnamed row mem (congrArg Prod.fst origin).symm

end Errand
end Accounts
