import Accounts.Proofs.Store.Consistency
/-! What becomes of stored tokens: they stay what they were made as, are spent at most once, and at most one of a
user's tokens is active from the last instant on at which one was issued. -/
namespace Accounts
open Time

/-- What a stored token may be later on, as long as it is there. -/
structure VerificationToken.AgesTo (old new : VerificationToken) : Prop where
  id : new.id = old.id
  origin : new.origin = old.origin
  consumed : old.isConsumed = true → new.isConsumed = true

namespace VerificationToken

theorem AgesTo.refl (a : VerificationToken) : a.AgesTo a := ⟨rfl, rfl, fun h => h⟩

theorem AgesTo.trans {a b c : VerificationToken} (h : a.AgesTo b) (h' : b.AgesTo c) : a.AgesTo c :=
  ⟨h'.id.trans h.id, h'.origin.trans h.origin, fun spent => h'.consumed (h.consumed spent)⟩

theorem AgesTo.userId {a b : VerificationToken} (h : a.AgesTo b) : b.userId = a.userId :=
  congrArg (·.1) h.origin

theorem AgesTo.text {a b : VerificationToken} (h : a.AgesTo b) : b.token = a.token :=
  congrArg (·.2.token) h.origin

theorem AgesTo.purpose {a b : VerificationToken} (h : a.AgesTo b) : b.purpose = a.purpose :=
  congrArg (·.2.purpose) h.origin

theorem AgesTo.createdAt {a b : VerificationToken} (h : a.AgesTo b) : b.createdAt = a.createdAt :=
  congrArg (·.2.issuedAt) h.origin

theorem AgesTo.expiresAt {a b : VerificationToken} (h : a.AgesTo b) : b.expiresAt = a.expiresAt :=
  congrArg (·.2.expiresAt) h.origin

theorem agesTo_spend (a : VerificationToken) (now : Instant) : a.AgesTo (a.spend now) :=
  ⟨rfl, rfl, fun _ => rfl⟩

theorem agesTo_supersede (a : VerificationToken) (userId : Int) (now : Instant) :
    a.AgesTo (a.supersede userId now) := by
  unfold supersede
  split
  · exact a.agesTo_spend now
  · exact .refl a

/-- A token that is spent stays as it is. -/
theorem supersede_of_isConsumed {a : VerificationToken} (spent : a.isConsumed = true) (userId : Int) (now : Instant) :
    a.supersede userId now = a := by
  simp [supersede, VerificationToken.isActive, spent]

/-- What is not active now will not be active later on. -/
theorem AgesTo.isActive {a b : VerificationToken} (h : a.AgesTo b) {now later : Instant} (le : now ≤ later)
    (active : b.isActive later = true) : a.isActive now = true := by
  simp only [VerificationToken.isActive, Bool.and_eq_true, Bool.not_eq_true', decide_eq_true_eq] at active ⊢
  obtain ⟨live, before⟩ := active
  rw [h.expiresAt] at before
  refine ⟨Bool.eq_false_iff.2 fun spent => ?_, Int.lt_of_le_of_lt le before⟩
  rw [h.consumed spent] at live
  cases live

/-- After a rotation no earlier token of the user is active. -/
theorem isActive_supersede {a : VerificationToken} {userId : Int} (owner : a.userId = userId) (now : Instant) :
    (a.supersede userId now).isActive now = false := by
  unfold supersede
  by_cases active : a.isActive now = true
  · rw [if_pos (by simp [owner, active])]
    exact isActive_spend a now now
  · rw [if_neg (by simp [active])]
    exact Bool.eq_false_iff.2 active

end VerificationToken

def NewToken.row (n : NewToken) (id userId : Int) : VerificationToken :=
  ⟨id, userId, n.token, n.purpose, n.expiresAt, none, n.issuedAt, n.issuedAt⟩

/-- The token that a call stores if it succeeds. -/
def StoreCall.newToken? : StoreCall → Option NewToken
  | create _ _ token _ => some token
  | rotate _ token _ => some token
  | _ => none

theorem StoreCall.newToken?_of_reads {c : StoreCall} (reads : c.writes = false) : c.newToken? = none := by
  cases c with
  | create | rotate => cases reads
  | _ => rfl

theorem StoreCall.newToken?_eq_some {c : StoreCall} {n : NewToken} (new : c.newToken? = some n) :
    (∃ user hash event, c = create user hash n event) ∨ ∃ userId event, c = rotate userId n event := by
  cases c with
  | create user hash token event => exact .inl ⟨user, hash, event, by rw [Option.some.inj new]⟩
  | rotate userId token event => exact .inr ⟨userId, event, by rw [Option.some.inj new]⟩
  | _ => cases new

/-- The user whom that token is for. -/
def StoreCall.owner (t : Tables) : StoreCall → Int
  | rotate userId _ _ => userId
  | _ => t.users.next

namespace Tables
variable {now : Instant} {t t' : Tables} {c : StoreCall} {ok : Bool}

/-- Every token was there before the call, and is the same if it was spent, or is the one that the call stores. -/
theorem Change.mem_tokens (h : t.Consistent) (step : Change now t c ok t') {a : VerificationToken}
    (mem : a ∈ t'.tokens.values) :
    (∃ old ∈ t.tokens.values, old.AgesTo a ∧ (old.isConsumed = true → a = old)) ∨
      ok = true ∧ ∃ n, c.newToken? = some n ∧ a = n.row t.tokens.next (c.owner t) := by
  cases step with
  | refused | read | settled | updateProfile | updatePassword | updateStatus =>
    exact .inl ⟨a, mem, .refl a, fun _ => rfl⟩
  | deleteUser named =>
    rw [Table.values_keep] at mem
    exact .inl ⟨a, (List.mem_filter.1 mem).1, .refl a, fun _ => rfl⟩
  | @create n hash token event unnamed free =>
    rw [pushEvent, pushToken, Table.values_push, List.mem_append, List.mem_singleton] at mem
    rcases mem with stored | rfl
    · exact .inl ⟨a, stored, .refl a, fun _ => rfl⟩
    · exact .inr ⟨rfl, token, rfl, rfl⟩
  | @rotate userId token event known =>
    rw [pushEvent, pushToken, Table.values_push, List.mem_append, List.mem_singleton, Table.values_map] at mem
    rcases mem with mapped | rfl
    · obtain ⟨old, stored, rfl⟩ := List.mem_map.1 mapped
      exact .inl ⟨old, stored, old.agesTo_supersede _ _, fun spent => VerificationToken.supersede_of_isConsumed spent _ _⟩
    · exact .inr ⟨rfl, token, rfl, rfl⟩
  | @verifyWithToken tokenId userId at_ u token stored found live =>
    left
    rw [h.tokens.values_adjust] at mem
    obtain ⟨old, there, rfl⟩ := List.mem_map.1 mem
    refine ⟨old, there, ?_⟩
    by_cases same : old.id = tokenId
    · obtain rfl : token = old :=
        Option.some.inj (found.symm.trans (h.tokens.get?_eq_some_iff.2 ⟨there, same⟩))
      rw [if_pos same]
      exact ⟨token.agesTo_spend at_, fun spent => absurd spent (by simp [live])⟩
    · rw [if_neg same]
      exact ⟨.refl old, fun _ => rfl⟩

/-- Every token was there before the call, or is the one that the call stores. -/
theorem Change.token_cases (h : t.Consistent) (step : Change now t c ok t') {a : VerificationToken}
    (mem : a ∈ t'.tokens.values) :
    (∃ old ∈ t.tokens.values, old.AgesTo a) ∨
      ok = true ∧ ∃ n, c.newToken? = some n ∧ a = n.row t.tokens.next (c.owner t) :=
  (step.mem_tokens h mem).imp_left fun ⟨old, stored, ages, _⟩ => ⟨old, stored, ages⟩

/-- No token goes unless its user goes. -/
theorem Change.token_stays (h : t.Consistent) (step : Change now t c ok t') {a : VerificationToken}
    (mem : a ∈ t.tokens.values) (known : a.userId ∈ t'.users.keys) : a.id ∈ t'.tokens.keys := by
  have here : a.id ∈ t.tokens.keys := h.tokens.keys_eq ▸ List.mem_map_of_mem mem
  cases step with
  | refused | read | settled | updateProfile | updatePassword | updateStatus => exact here
  | deleteUser named =>
    have other := (Table.mem_keys_erase.1 known).1
    rw [(h.tokens.keep _).keys_eq, Table.values_keep]
    exact List.mem_map_of_mem (List.mem_filter.2 ⟨mem, by simpa using other⟩)
  | create =>
    rw [pushEvent, pushToken, Table.keys_push]
    exact List.mem_append_left _ here
  | rotate =>
    rw [pushEvent, pushToken, Table.keys_push, Table.keys_map]
    exact List.mem_append_left _ here
  | verifyWithToken =>
    rw [Table.keys_adjust]
    exact here

/-- Once a token is stored for a user, no other token of that user is active. -/
theorem Change.others_inactive (h : t.Consistent) (step : Change now t c true t') {n : NewToken}
    (new : c.newToken? = some n) {a : VerificationToken} (mem : a ∈ t'.tokens.values)
    (other : a.id ≠ t.tokens.next) (owner : a.userId = c.owner t) : a.isActive n.issuedAt = false := by
  cases step with
  | read reads =>
    rw [StoreCall.newToken?_of_reads reads] at new
    cases new
  | settled | updateProfile | updatePassword | updateStatus | deleteUser | verifyWithToken => cases new
  | create unnamed free =>
    rw [pushEvent, pushToken, Table.values_push, List.mem_append, List.mem_singleton] at mem
    rcases mem with stored | rfl
    · -- a new user has no tokens
      have known := (h.users.within _ (h.owners a stored)).2
      simp only [StoreCall.owner, Table.next] at owner
      omega
    · exact absurd rfl other
  | rotate known =>
    obtain rfl := Option.some.inj new
    rw [pushEvent, pushToken, Table.values_push, List.mem_append, List.mem_singleton, Table.values_map] at mem
    rcases mem with mapped | rfl
    · obtain ⟨old, stored, rfl⟩ := List.mem_map.1 mapped
      have same := (old.agesTo_supersede _ _).userId.symm.trans owner
      exact VerificationToken.isActive_supersede same _
    · exact absurd rfl other

/-- What a rotation makes of the tokens that are there. -/
theorem get?_rotate {userId : Int} {token : NewToken} {event : NewEvent} (ok : (answer now (.rotate userId token event) t).1 = .ok ())
    {id : Int} {old : VerificationToken} (found : t.tokens.get? id = some old) :
    (answer now (.rotate userId token event) t).2.tokens.get? id = some
      (if old.userId = userId ∧ old.consumedAt = none ∧ token.issuedAt < old.expiresAt then
        { old with consumedAt := some token.issuedAt, updatedAt := token.issuedAt } else old) := by
  have step := answer_accepted ok
  generalize (answer now (.rotate userId token event) t).2 = t' at step
  cases step with
  | read reads => cases reads
  | rotate known =>
    have mapped : (t.tokens.map (VerificationToken.supersede userId token.issuedAt)).get? id =
        some (old.supersede userId token.issuedAt) := by
      rw [Table.get?_map, found]
      rfl
    dsimp only [pushEvent, pushToken]
    rw [Table.get?_push _ mapped]
    simp [VerificationToken.supersede, VerificationToken.isActive, VerificationToken.isConsumed,
      VerificationToken.spend]

/-! ### At most one active token -/

def issuedAt (calls : List (Instant × StoreCall)) : List Instant :=
  calls.filterMap fun call => call.2.newToken?.map NewToken.issuedAt

/-- Of two tokens of one user, one is no longer active at one of the instants. -/
def Superseded (instants : List Instant) (t : Tables) : Prop :=
  ∀ a ∈ t.tokens.values, ∀ b ∈ t.tokens.values, a.userId = b.userId → a.id ≠ b.id →
    ∃ s ∈ instants, a.isActive s = false ∨ b.isActive s = false

theorem Superseded.change {instants : List Instant} (h : Superseded instants t) (consistent : t.Consistent)
    (step : Change now t c ok t') : Superseded (instants ++ issuedAt [(now, c)]) t' := by
  have issued {n : NewToken} (new : c.newToken? = some n) : n.issuedAt ∈ instants ++ issuedAt [(now, c)] := by
    simp [issuedAt, new]
  intro a ha b hb same distinct
  rcases step.token_cases consistent ha with ⟨olda, mema, agesa⟩ | ⟨rfl, n, new, rfl⟩
  · rcases step.token_cases consistent hb with ⟨oldb, memb, agesb⟩ | ⟨rfl, n, new, rfl⟩
    · have same' : olda.userId = oldb.userId := agesa.userId ▸ agesb.userId ▸ same
      have distinct' : olda.id ≠ oldb.id := agesa.id ▸ agesb.id ▸ distinct
      obtain ⟨s, mem, inactive⟩ := h olda mema oldb memb same' distinct'
      refine ⟨s, List.mem_append_left _ mem, inactive.imp (fun off => ?_) fun off => ?_⟩
      · exact Bool.eq_false_iff.2 fun on => Bool.eq_false_iff.1 off (agesa.isActive (Int.le_refl s) on)
      · exact Bool.eq_false_iff.2 fun on => Bool.eq_false_iff.1 off (agesb.isActive (Int.le_refl s) on)
    · exact ⟨n.issuedAt, issued new, .inl (step.others_inactive consistent new ha distinct same)⟩
  · exact ⟨n.issuedAt, issued new, .inr (step.others_inactive consistent new hb (Ne.symm distinct) same.symm)⟩

theorem superseded_after (calls : List (Instant × StoreCall)) :
    ∀ {t : Tables} {instants : List Instant}, t.Consistent → Superseded instants t →
      Superseded (instants ++ issuedAt calls) (after calls t) := by
  induction calls with
  | nil =>
    intro t instants consistent h
    simpa [issuedAt, after] using h
  | cons call calls ih =>
    intro t instants consistent h
    have step := answer_change call.1 call.2 t
    have rest := ih (consistent.change step) (h.change consistent step)
    rw [List.append_assoc] at rest
    have joined : issuedAt [call] ++ issuedAt calls = issuedAt (call :: calls) :=
      List.filterMap_append.symm
    rwa [joined] at rest

theorem superseded_empty : Superseded [] empty := fun _ none => absurd none List.not_mem_nil

theorem length_le_one_of_nodup {α : Type} {l : List α} (nodup : l.Nodup) (same : ∀ a ∈ l, ∀ b ∈ l, a = b) :
    l.length ≤ 1 := by
  match l with
  | [] => exact Nat.zero_le 1
  | [_] => exact Nat.le_refl 1
  | a :: b :: rest =>
    have eq : a = b := same a List.mem_cons_self b (List.mem_cons_of_mem a List.mem_cons_self)
    exact absurd (eq ▸ List.mem_cons_self) (List.nodup_cons.1 nodup).1

/-- A user has at most one token that is active at an instant that none of these comes after. -/
theorem Superseded.length_active_le_one {instants : List Instant} (h : Superseded instants t)
    (consistent : t.Consistent) {at_ : Instant} (late : ∀ s ∈ instants, s ≤ at_) (userId : Int) :
    (t.tokens.values.filter fun token => token.userId = userId && token.isActive at_).length ≤ 1 := by
  have nodup := consistent.tokens.nodup
  rw [consistent.tokens.keys_eq] at nodup
  refine length_le_one_of_nodup ((nodup.of_map _).filter _) fun a ha b hb => ?_
  simp only [List.mem_filter, Bool.and_eq_true, decide_eq_true_eq] at ha hb
  obtain ⟨storedA, ownerA, activeA⟩ := ha
  obtain ⟨storedB, ownerB, activeB⟩ := hb
  by_contra distinct
  have ids : a.id ≠ b.id := fun id => distinct (consistent.tokens.eq_of_key_eq storedA storedB id)
  obtain ⟨s, mem, offA | offB⟩ := h a storedA b storedB (ownerA.trans ownerB.symm) ids
  · have onA := (VerificationToken.AgesTo.refl a).isActive (late s mem) activeA
    exact Bool.eq_false_iff.1 offA onA
  · have onB := (VerificationToken.AgesTo.refl b).isActive (late s mem) activeB
    exact Bool.eq_false_iff.1 offB onB

end Tables
end Accounts
