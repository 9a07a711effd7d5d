import Accounts.Proofs.Run.History
/-! What becomes of a token once its user has asked for another one. Main statement: it verifies nothing any more,
except at the very instant at which the other one was issued, if it ends then. -/
namespace Accounts
open Time

/-! ### Tokens are told apart by their texts -/

def DistinctTexts (t : Tables) : Prop := ∀ a ∈ t.tokens.values, ∀ b ∈ t.tokens.values, a.token = b.token → a = b

theorem DistinctTexts.step {mid after : Tables} {es : List Execution} {e : Execution} {letters : List Letter}
    (h : DistinctTexts mid) (follows : Follows .empty (drawnIn es) mid) (distinct : (drawnIn (es ++ [e])).Nodup)
    (does : e.Does mid letters after) : DistinctTexts after := by
  obtain ⟨c, ok, change⟩ := does.change
  have consistent := follows.consistent.change change
  rw [drawnIn_append] at distinct
  -- a token that was there has another text than the one that is drawn now
  have fresh {old a : VerificationToken} (stored : old ∈ mid.tokens.values) (drawn : e.task.drawn? = some a.token) :
      old.token ≠ a.token := by
    have early : old.token ∈ drawnIn es := by
      rcases follows.tokens old stored with ⟨first, none, -⟩ | ⟨-, drawn⟩
      · exact absurd none List.not_mem_nil
      · exact drawn
    exact fun same => (List.nodup_append.1 distinct).2.2 _ early a.token (by simp [drawnIn, drawn]) same
  intro a ha b hb same
  refine consistent.tokens.eq_of_key_eq ha hb ?_
  rcases does.token_cases follows.consistent ha with ⟨oldA, storedA, agesA⟩ | ⟨idA, drawnA⟩
  · rcases does.token_cases follows.consistent hb with ⟨oldB, storedB, agesB⟩ | ⟨idB, drawnB⟩
    · obtain rfl := h oldA storedA oldB storedB (agesA.text.symm.trans (same.trans agesB.text))
      exact agesA.id.trans agesB.id.symm
    · exact absurd (agesA.text.symm.trans same) (fresh storedA drawnB)
  · rcases does.token_cases follows.consistent hb with ⟨oldB, storedB, agesB⟩ | ⟨idB, drawnB⟩
    · exact absurd (agesB.text.symm.trans same.symm) (fresh storedB drawnA)
    · exact idA.trans idB.symm

theorem distinctTexts_after (issuer : Issuer) (es : List Execution) (distinct : (drawnIn es).Nodup) :
    DistinctTexts (World.after issuer es .start).tables := by
  induction es using List.reverseRecOn with
  | nil => exact fun _ none => absurd none List.not_mem_nil
  | append_singleton es e ih =>
    have early : (drawnIn es).Nodup := by
      rw [drawnIn_append] at distinct
      exact (List.nodup_append.1 distinct).1
    obtain ⟨letters, does⟩ := does_append issuer es e
    exact (ih early).step (follows_start issuer es) distinct does

/-! ### Verifying -/

def Accepted {α : Type} (out : Except ServiceError α × World) : Prop := ∃ a, out.1 = .ok a

theorem UseCase.accepted_verify_iff {issuer : Issuer} {now : Instant} {mail : MailAction} {t : Tables}
    {denied : Issuer.DenyList} (h : t.Consistent) (text : String) :
    Accepted ((UseCase.verify text).perform issuer now mail ⟨.memory t, denied⟩) ↔
      text ≠ "" ∧ ∃ row, (t.tokens.find? fun row => row.token = text) = some row ∧ row.isConsumed = false ∧
        row.isExpired now = false := by
  constructor
  · rintro ⟨user, ok⟩
    obtain ⟨c, commits, -⟩ := (UseCase.verify text).perform_outcome.commits rfl ok
    cases commits with
    | verify named stored owner live inTime => exact ⟨named, _, stored, live, inTime⟩
  · rintro ⟨named, row, found, live, inTime⟩
    have stored := List.mem_of_find?_eq_some found
    obtain ⟨user, owner⟩ := Option.isSome_iff_exists.1 (Table.has_iff_mem_keys.2 (h.owners row stored))
    have there : t.tokens.get? row.id = some row := h.tokens.get?_eq_some_iff.2 ⟨stored, rfl⟩
    have known : t.users.get? user.id = some user :=
      h.users.get?_eq_some_iff.2 ⟨(h.users.get?_eq_some_iff.1 owner).1, rfl⟩
    refine Program.after_nonempty (fun empty => absurd empty named) fun _ => ?_
    refine Program.after_read (.findToken text) (UseCase.findToken_answer text) ?_
    rw [found, Option.bind_some, owner]
    refine Program.after_require nofun fun pair same => ?_
    obtain rfl := Option.some.inj same
    refine Program.after_guard (fun spent => absurd spent (by simp [live])) fun _ => ?_
    refine Program.after_now ?_
    refine Program.after_guard (fun late => absurd late (Bool.eq_false_iff.1 inTime)) fun _ => ?_
    change ∃ a, (Tables.answer now (.verifyWithToken row.id user.id now) t).1 = .ok a
    simp [Tables.answer, Tables.verifyWithToken, known, there, live]

/-! ### A token that was superseded -/

/-- A task that issues another token to this user and is not refused. -/
inductive Resends (issuer : Issuer) (w : World) (user : User) : Execution → Prop
  | intro {sent : Instant} {ttl cooldown : Span} {token : DrawnToken} {email : String} {accepts : Letter → Bool}
      (found : (w.tables.users.find? fun u => u.email = email) = some user)
      (ok : Execution.result issuer ⟨sent, .useCase (.resend ttl cooldown token email), accepts⟩ w = .ok ()) :
      Resends issuer w user ⟨sent, .useCase (.resend ttl cooldown token email), accepts⟩

section
variable {issuer : Issuer} {t t' : Tables} {denied denied' : Issuer.DenyList} {user : User} {resend : Execution}

/-- None of the user's other tokens is active any more. -/
theorem Resends.inactive (h : Resends issuer ⟨.memory t, denied⟩ user resend) (consistent : t.Consistent)
    (next : resend.after issuer ⟨.memory t, denied⟩ = ⟨.memory t', denied'⟩) {a : VerificationToken}
    (mem : a ∈ t'.tokens.values) (owner : a.userId = user.id) (other : a.id ≠ t.tokens.next) :
    a.isActive resend.now = false := by
  cases h with
  | intro found ok =>
    rw [Execution.result, Execution.run_useCase] at ok
    rw [Execution.after, Execution.run_useCase] at next
    obtain ⟨c, commits, r, accepted, world⟩ := (UseCase.perform_outcome _).commits rfl ok
    dsimp only at next
    rw [next] at world
    obtain rfl : t' = (Tables.answer _ c t).2 := by simpa [World.tables] using congrArg World.tables world
    cases commits with
    | resend addressed found' unverified waited =>
      obtain rfl := Option.some.inj (found.symm.trans found')
      exact (Tables.answer_accepted accepted).others_inactive consistent rfl mem other owner

/-- Nor does one of them ever become active again. -/
theorem Resends.inactive_later (h : Resends issuer ⟨.memory t, denied⟩ user resend) (consistent : t.Consistent)
    (es : List Execution) {a : VerificationToken}
    (mem : a ∈ (World.after issuer (resend :: es) ⟨.memory t, denied⟩).tables.tokens.values)
    (owner : a.userId = user.id) (old : a.id ≤ t.tokens.last) : a.isActive resend.now = false := by
  obtain ⟨t', denied', next, does⟩ := resend.does issuer t denied
  obtain ⟨c, ok, change⟩ := does.change
  obtain ⟨t'', denied'', there, follows⟩ := follows_after issuer (consistent.change change) denied' es
  have world : World.after issuer (resend :: es) ⟨.memory t, denied⟩ = ⟨.memory t'', denied''⟩ := by
    rw [← there, ← next]
    rfl
  rw [world] at mem
  have last := change.continues.tokens.last_le
  rcases follows.tokens a mem with ⟨b, stored, ages⟩ | ⟨late, -⟩
  · have other : b.id ≠ t.tokens.next := by
      have id := ages.id
      simp only [Table.next]
      omega
    have off := h.inactive consistent next stored (ages.userId.symm.trans owner) other
    exact Bool.eq_false_iff.2 fun on => Bool.eq_false_iff.1 off (ages.isActive (Int.le_refl _) on)
  · omega

end

/-- What the row of such a token is like, as long as it is there. -/
theorem Resends.superseded {issuer : Issuer} {first middle last : List Execution} {resend : Execution} {user : User}
    (h : Resends issuer (World.after issuer (first ++ middle) .start) user resend) {old : VerificationToken}
    (issued : old ∈ (World.after issuer first .start).tables.tokens.values) (owner : old.userId = user.id)
    {row : VerificationToken}
    (mem : row ∈ (World.after issuer (first ++ middle ++ resend :: last) .start).tables.tokens.values)
    (same : row.id = old.id) : old.AgesTo row ∧ row.isActive resend.now = false := by
  have sound := (follows_start issuer first).consistent.tokens
  have before := follows_append issuer first middle
  have after := follows_append issuer first (middle ++ resend :: last)
  rw [← List.append_assoc] at after
  have early := sound.le_last issued
  have ages : old.AgesTo row := by
    rcases after.tokens row mem with ⟨a, stored, ages⟩ | ⟨late, -⟩
    · obtain rfl := sound.eq_of_key_eq stored issued (ages.id.symm.trans same)
      exact ages
    · omega
  refine ⟨ages, ?_⟩
  obtain ⟨denied, world⟩ := after_start_eq issuer (first ++ middle)
  have grows := before.continues.tokens.last_le
  rw [world] at h
  rw [World.after_append, world] at mem
  exact h.inactive_later before.consistent last mem (ages.userId.trans owner) (by omega)

/-- A token that a user had before another one was issued to that user is refused ever after, with one exception:
it verifies if it ends at the very instant at which the other one was issued, and that instant is not over. -/
theorem verify_superseded_iff (issuer : Issuer) (first middle last : List Execution) {resend : Execution} {user : User}
    {old : VerificationToken} (issued : old ∈ (World.after issuer first .start).tables.tokens.values)
    (owner : old.userId = user.id) (resends : Resends issuer (World.after issuer (first ++ middle) .start) user resend)
    {now : Instant} (accepts : Letter → Bool)
    (ordered : ((first ++ middle ++ resend :: last).map Execution.now ++ [now]).Pairwise (· ≤ ·))
    (distinct : (drawnIn (first ++ middle ++ resend :: last)).Nodup) :
    let w := World.after issuer (first ++ middle ++ resend :: last) .start
    (∃ verified, Execution.result issuer ⟨now, .useCase (.verify old.token), accepts⟩ w = .ok verified) ↔
      old.expiresAt = resend.now ∧ now = resend.now ∧
        ∃ row ∈ w.tables.tokens.values, row.id = old.id ∧ row.isConsumed = false := by
  intro w
  have notBefore : resend.now ≤ now :=
    (List.pairwise_append.1 ordered).2.2 _ (List.mem_map_of_mem (by simp)) now (List.mem_singleton_self now)
  have texts : DistinctTexts w.tables := distinctTexts_after issuer _ distinct
  have after := follows_append issuer first (middle ++ resend :: last)
  rw [← List.append_assoc] at after
  have drawn : old.token ∈ drawnIn first := by
    rcases (follows_start issuer first).tokens old issued with ⟨a, none, -⟩ | ⟨-, drawn⟩
    · exact absurd none List.not_mem_nil
    · exact drawn
  rw [List.append_assoc, drawnIn_append] at distinct
  have verifies : (∃ verified, Execution.result issuer ⟨now, .useCase (.verify old.token), accepts⟩ w = .ok verified) ↔
      old.token ≠ "" ∧ ∃ row, (w.tables.tokens.find? fun row => row.token = old.token) = some row ∧
        row.isConsumed = false ∧ row.isExpired now = false := by
    obtain ⟨denied, world⟩ : ∃ denied, w = ⟨.memory w.tables, denied⟩ := after_start_eq issuer _
    rw [world, Execution.result, Execution.run_useCase]
    exact UseCase.accepted_verify_iff after.consistent old.token
  rw [verifies]
  constructor
  · rintro ⟨-, row, found, live, inTime⟩
    have mem := List.mem_of_find?_eq_some found
    have text : row.token = old.token := by simpa using List.find?_some found
    have same : row.id = old.id := by
      rcases after.tokens row mem with ⟨a, stored, ages⟩ | ⟨-, late⟩
      · have early := distinctTexts_after issuer first (List.nodup_append.1 distinct).1
        obtain rfl := early a stored old issued (ages.text.symm.trans text)
        exact ages.id
      · exact absurd text.symm ((List.nodup_append.1 distinct).2.2 _ drawn _ late)
    obtain ⟨ages, inactive⟩ := resends.superseded issued owner mem same
    have ends : row.expiresAt ≤ resend.now := by simpa [VerificationToken.isActive, live] using inactive
    have open_ : now ≤ row.expiresAt := by simpa [VerificationToken.isExpired] using inTime
    rw [ages.expiresAt] at ends open_
    have ended : old.expiresAt = resend.now := Int.le_antisymm ends (Int.le_trans notBefore open_)
    exact ⟨ended, Int.le_antisymm (Int.le_trans open_ ends) notBefore, row, mem, same, live⟩
  · rintro ⟨ends, rfl, row, mem, same, live⟩
    obtain ⟨ages, -⟩ := resends.superseded issued owner mem same
    refine ⟨ne_empty_of_mem_drawnIn drawn, row, ?_, live, ?_⟩
    · obtain ⟨found, stored⟩ : ∃ found, (w.tables.tokens.find? fun row => row.token = old.token) = some found :=
        Option.isSome_iff_exists.1 (List.find?_isSome.2 ⟨row, mem, by simpa using ages.text⟩)
      have text : found.token = old.token := by simpa using List.find?_some stored
      obtain rfl := texts found (List.mem_of_find?_eq_some stored) row mem (text.trans ages.text.symm)
      exact stored
    · simp only [VerificationToken.isExpired, ages.expiresAt, ends]
      simp

/-! ### A token that ends when the next one is issued -/

namespace Sample

/-- Another token, at the instant at which the first one ends. -/
def resend : Execution := ⟨2000000, .useCase (.resend 5000000 60000000 tokenB "ann@x"), fun _ => true⟩

def user : User := User.fresh ⟨"ann", registration.profile⟩ 1000000 1

/-- The first token, as it is stored. -/
def first : VerificationToken := NewToken.row ⟨tokenA.text, .register, 1000000, 2000000⟩ 1 1

theorem resends : Resends issuer (World.after issuer [register] .start) user resend := by
  obtain ⟨hash, world⟩ := after_register
  rw [world]
  exact .intro rfl rfl

theorem first_mem : first ∈ (World.after issuer [register] .start).tables.tokens.values := by
  obtain ⟨hash, world⟩ := after_register
  rw [world]
  exact List.mem_singleton_self _

end Sample

theorem verify_superseded_at_end :
    (∃ verified, Execution.result Sample.issuer ⟨2000000, .useCase (.verify Sample.first.token), fun _ => true⟩
        (World.after Sample.issuer [Sample.register, Sample.resend] .start) = .ok verified) ↔
      Sample.first.expiresAt = Sample.resend.now ∧ 2000000 = Sample.resend.now ∧
        ∃ row ∈ (World.after Sample.issuer [Sample.register, Sample.resend] .start).tables.tokens.values,
          row.id = Sample.first.id ∧ row.isConsumed = false :=
  verify_superseded_iff Sample.issuer [Sample.register] [] [] Sample.first_mem rfl Sample.resends (fun _ => true)
    (by decide) (by decide)

/-- It does verify. -/
theorem superseded_token_verifies :
    Sample.first ∈ (World.after Sample.issuer [Sample.register] .start).tables.tokens.values ∧
    Sample.first.userId = Sample.user.id ∧
    Resends Sample.issuer (World.after Sample.issuer [Sample.register] .start) Sample.user Sample.resend ∧
    ([Sample.register, Sample.resend].map Execution.now ++ [2000000]).Pairwise (· ≤ ·) ∧
    (drawnIn [Sample.register, Sample.resend]).Nodup ∧
    ∃ verified, Execution.result Sample.issuer ⟨2000000, .useCase (.verify Sample.first.token), fun _ => true⟩
      (World.after Sample.issuer [Sample.register, Sample.resend] .start) = .ok verified := by
  refine ⟨Sample.first_mem, rfl, Sample.resends, by decide, by decide, ?_⟩
  obtain ⟨hash, world⟩ := Sample.after_register
  change ∃ verified, Execution.result Sample.issuer ⟨2000000, .useCase (.verify Sample.first.token), fun _ => true⟩
    (World.after Sample.issuer [Sample.resend] (World.after Sample.issuer [Sample.register] .start)) = .ok verified
  rw [world]
  exact ⟨_, rfl⟩

end Accounts
