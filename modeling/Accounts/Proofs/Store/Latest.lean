import Accounts.Action.Verification
import Accounts.Proofs.Store.Ids
import Accounts.Proofs.Store.Tokens
import Mathlib.Data.List.Induction
/-! The latest token of a user. Main statement: it tells whether any token was resent to the user lately, as long as
the token of the registration comes first. -/
namespace Accounts
open Time

namespace VerificationToken

/-- Made before the other one, or at the same instant and under no greater id. -/
def NotAfter (a b : VerificationToken) : Prop := a.createdAt < b.createdAt ∨ a.createdAt = b.createdAt ∧ a.id ≤ b.id

theorem NotAfter.refl (a : VerificationToken) : a.NotAfter a := .inr ⟨rfl, Int.le_refl a.id⟩

theorem NotAfter.trans {a b c : VerificationToken} (h : a.NotAfter b) (h' : b.NotAfter c) : a.NotAfter c := by
  unfold NotAfter at *
  grind

theorem later_cases (a b : VerificationToken) :
    (a.later b = b ∧ a.NotAfter b) ∨ (a.later b = a ∧ b.NotAfter a) := by
  unfold later
  split
  · next first => exact .inl ⟨rfl, by simpa [NotAfter] using first⟩
  · next second =>
    refine .inr ⟨rfl, ?_⟩
    simp only [Bool.or_eq_true, Bool.and_eq_true, decide_eq_true_eq, NotAfter] at second ⊢
    grind

theorem foldl_later (l : List VerificationToken) (a : VerificationToken) :
    l.foldl later a ∈ a :: l ∧ ∀ b ∈ a :: l, b.NotAfter (l.foldl later a) := by
  induction l generalizing a with
  | nil => exact ⟨List.mem_cons_self, fun b mem => List.mem_singleton.1 mem ▸ .refl b⟩
  | cons c l ih =>
    obtain ⟨mem, above⟩ := ih (a.later c)
    have here := above _ List.mem_cons_self
    have rest (b : VerificationToken) (there : b ∈ l) := above b (List.mem_cons_of_mem _ there)
    rw [List.foldl_cons]
    generalize l.foldl later (a.later c) = top at mem here rest ⊢
    simp only [List.mem_cons, forall_eq_or_imp] at mem ⊢
    rcases later_cases a c with ⟨same, first⟩ | ⟨same, first⟩
    · rw [same] at mem here
      exact ⟨.inr mem, first.trans here, here, rest⟩
    · rw [same] at mem here
      exact ⟨mem.imp_right .inr, here, first.trans here, rest⟩

end VerificationToken

namespace Tables

theorem latest?_eq_some {l : List VerificationToken} {top : VerificationToken} (h : latest? l = some top) :
    top ∈ l ∧ ∀ a ∈ l, a.NotAfter top := by
  cases l with
  | nil => cases h
  | cons a l => exact Option.some.inj h ▸ VerificationToken.foldl_later l a

/-! ### The token of the registration -/

/-- It is as old as the user, and all that were resent come after it. -/
structure RegisteredFirst (t : Tables) : Prop where
  createdAt : ∀ a ∈ t.tokens.values, ∀ u ∈ t.users.values, u.id = a.userId → a.purpose = .register →
    a.createdAt = u.createdAt
  before : ∀ a ∈ t.tokens.values, ∀ b ∈ t.tokens.values, a.userId = b.userId → a.purpose = .register →
    b.purpose = .resend → a.createdAt ≤ b.createdAt ∧ a.id < b.id

theorem registeredFirst_empty : RegisteredFirst empty where
  createdAt _ none := absurd none List.not_mem_nil
  before _ none := absurd none List.not_mem_nil

/-- What a call may store: on registration a token for that, and otherwise one that is resent, issued when the user was
there. -/
def Orderly (t : Tables) : StoreCall → Prop
  | .create _ _ token _ => token.purpose = .register
  | .rotate userId token _ => token.purpose = .resend ∧ ∀ u ∈ t.users.values, u.id = userId → u.createdAt ≤ token.issuedAt
  | _ => True

variable {now : Instant} {t t' : Tables} {c : StoreCall} {ok : Bool}

/-- Every user was there before the call, or is the one that the call stores. -/
theorem Change.user_cases (h : t.Consistent) (step : Change now t c ok t') {u : User} (mem : u ∈ t'.users.values) :
    (∃ old ∈ t.users.values, old.id = u.id ∧ old.origin = u.origin) ∨
      ok = true ∧ ∃ n hash token event, c = .create n hash token event ∧
        u = User.fresh n token.issuedAt t.users.next := by
  rcases step.continues.users.mem_values h.users (h.change step).users mem with old | ⟨late, early⟩
  · exact .inl old
  · cases step with
    | create unnamed free =>
      rw [pushEvent, pushToken, setHash, Table.values_push, List.mem_append, List.mem_singleton] at mem
      rcases mem with stored | rfl
      · exact absurd (h.users.le_last stored) (by omega)
      · exact .inr ⟨rfl, _, _, _, _, rfl, rfl⟩
    | _ => exact absurd (show u.id ≤ t.users.last from early) (by omega)

/-- Users came to be at instants at which tokens were issued. -/
theorem createdAt_mem_issuedAt (calls : List (Instant × StoreCall)) :
    ∀ u ∈ (after calls empty).users.values, u.createdAt ∈ issuedAt calls := by
  induction calls using List.reverseRecOn with
  | nil => exact fun _ none => absurd none List.not_mem_nil
  | append_singleton calls call ih =>
    intro u mem
    have split : issuedAt (calls ++ [call]) = issuedAt calls ++ issuedAt [call] := List.filterMap_append
    rw [split, List.mem_append]
    rw [after_append] at mem
    rcases (answer_change call.1 call.2 _).user_cases (consistent_after calls) mem with
      ⟨old, stored, -, origin⟩ | ⟨-, n, hash, token, event, same, rfl⟩
    · have createdAt : old.createdAt = u.createdAt := congrArg (·.2) origin
      exact .inl (createdAt ▸ ih old stored)
    · exact .inr (by simp [issuedAt, same, StoreCall.newToken?, User.fresh])

/-- A new user has no tokens. -/
theorem Consistent.userId_ne_next (h : t.Consistent) {a : VerificationToken} (mem : a ∈ t.tokens.values) :
    a.userId ≠ t.users.next := by
  have known := (h.users.within _ (h.owners a mem)).2
  simp only [Table.next]
  omega

theorem RegisteredFirst.createdAt_change (h : RegisteredFirst t) (consistent : t.Consistent)
    (step : Change now t c ok t') (orderly : t.Orderly c) {a : VerificationToken} (ha : a ∈ t'.tokens.values) {u : User}
    (hu : u ∈ t'.users.values) (owner : u.id = a.userId) (purpose : a.purpose = .register) :
    a.createdAt = u.createdAt := by
  rcases step.token_cases consistent ha with ⟨old, mem, ages⟩ | ⟨-, n, new, rfl⟩
  · have stored := h.createdAt old mem
    rw [← ages.purpose, ← ages.userId, ← ages.createdAt] at stored
    rcases step.user_cases consistent hu with ⟨first, known, id, origin⟩ | ⟨-, n, hash, token, event, rfl, rfl⟩
    · have createdAt := stored first known (id.trans owner) purpose
      exact createdAt.trans (congrArg (·.2) origin)
    · exact absurd (ages.userId.symm.trans owner.symm) (consistent.userId_ne_next mem)
  · rcases StoreCall.newToken?_eq_some new with ⟨user, hash, event, rfl⟩ | ⟨userId, event, rfl⟩
    · rcases step.user_cases consistent hu with ⟨first, known, id, -⟩ | ⟨-, _, _, _, _, call, rfl⟩
      · exact absurd (id.trans owner) (consistent.users.key_ne_next known)
      · cases call
        rfl
    · cases orderly.1.symm.trans purpose

/-- A token that is resent comes after the one of the registration, which is as old as its user. -/
theorem RegisteredFirst.before_next (h : RegisteredFirst t) (consistent : t.Consistent) {userId : Int}
    {token : NewToken} {event : NewEvent} (orderly : t.Orderly (.rotate userId token event)) {a : VerificationToken}
    (mem : a ∈ t.tokens.values) (owner : a.userId = userId) (purpose : a.purpose = .register) :
    a.createdAt ≤ token.issuedAt ∧ a.id < t.tokens.next := by
  obtain ⟨u, known, id⟩ := consistent.users.mem_keys_iff.1 (consistent.owners a mem)
  refine ⟨?_, ?_⟩
  · rw [h.createdAt a mem u known id purpose]
    exact orderly.2 u known (id.trans owner)
  · have := consistent.tokens.le_last mem
    simp only [Table.next]
    omega

theorem RegisteredFirst.before_change (h : RegisteredFirst t) (consistent : t.Consistent)
    (step : Change now t c ok t') (orderly : t.Orderly c) {a b : VerificationToken} (ha : a ∈ t'.tokens.values)
    (hb : b ∈ t'.tokens.values) (same : a.userId = b.userId) (first : a.purpose = .register)
    (second : b.purpose = .resend) : a.createdAt ≤ b.createdAt ∧ a.id < b.id := by
  rcases step.token_cases consistent ha with ⟨oldA, memA, agesA⟩ | ⟨-, n, new, rfl⟩
  · rw [agesA.userId] at same
    rw [agesA.purpose] at first
    rw [agesA.createdAt, agesA.id]
    rcases step.token_cases consistent hb with ⟨oldB, memB, agesB⟩ | ⟨-, n, new, rfl⟩
    · rw [agesB.userId] at same
      rw [agesB.purpose] at second
      rw [agesB.createdAt, agesB.id]
      exact h.before oldA memA oldB memB same first second
    · rcases StoreCall.newToken?_eq_some new with ⟨user, hash, event, rfl⟩ | ⟨userId, event, rfl⟩
      · cases Eq.trans (Eq.symm orderly) second
      · exact h.before_next consistent orderly memA same first
  · rcases StoreCall.newToken?_eq_some new with ⟨user, hash, event, rfl⟩ | ⟨userId, event, rfl⟩
    · rcases step.token_cases consistent hb with ⟨oldB, memB, agesB⟩ | ⟨-, n', new', rfl⟩
      · exact absurd (agesB.userId.symm.trans same.symm) (consistent.userId_ne_next memB)
      · obtain rfl := Option.some.inj new'
        cases first.symm.trans second
    · cases orderly.1.symm.trans first

theorem RegisteredFirst.change (h : RegisteredFirst t) (consistent : t.Consistent) (step : Change now t c ok t')
    (orderly : t.Orderly c) : RegisteredFirst t' where
  createdAt _ ha _ hu := h.createdAt_change consistent step orderly ha hu
  before _ ha _ hb := h.before_change consistent step orderly ha hb

/-! ### What the latest token tells -/

/-- The latest token of a user was resent within the cooldown if any of them was. -/
theorem RegisteredFirst.any_isTooSoon_iff (h : RegisteredFirst t) (userId : Int) (cooldown : Span) (now : Instant) :
    (latest? (t.tokens.values.filter fun row => row.userId = userId)).any (Action.isTooSoon cooldown now) = true ↔
      ∃ a ∈ t.tokens.values, a.userId = userId ∧ a.purpose = .resend ∧ now - a.createdAt < cooldown := by
  rw [Option.any_eq_true]
  constructor
  · rintro ⟨top, latest, soon⟩
    obtain ⟨mem, owner⟩ := List.mem_filter.1 (latest?_eq_some latest).1
    simp only [Action.isTooSoon, Bool.and_eq_true, decide_eq_true_eq] at soon owner
    exact ⟨top, mem, owner, soon⟩
  · rintro ⟨a, mem, owner, resent, soon⟩
    have listed : a ∈ t.tokens.values.filter fun row => row.userId = userId :=
      List.mem_filter.2 ⟨mem, by simpa using owner⟩
    rcases latest : latest? (t.tokens.values.filter fun row => row.userId = userId) with _ | top
    · generalize t.tokens.values.filter _ = l at listed latest
      cases l with
      | nil => cases listed
      | cons first rest => cases latest
    obtain ⟨there, above⟩ := latest?_eq_some latest
    obtain ⟨stored, same⟩ := List.mem_filter.1 there
    have notAfter : a.NotAfter top := above a listed
    refine ⟨top, rfl, ?_⟩
    simp only [Action.isTooSoon, Bool.and_eq_true, decide_eq_true_eq] at same ⊢
    have purpose : top.purpose = .resend := by
      cases purpose : top.purpose with
      | resend => rfl
      | register =>
        have first := h.before top stored a mem (same.trans owner.symm) purpose resent
        unfold VerificationToken.NotAfter at notAfter
        grind
    unfold VerificationToken.NotAfter at notAfter
    exact ⟨purpose, by grind⟩

end Tables
end Accounts
