import Accounts.Proofs.Store.Ids
/-! Accounts that are there: rows of users with the hashes of their passwords. Main statement: a call leaves every
account alone but the one that it is about. -/
namespace Accounts

/-- What is known of a user apart from whether, and since when, the address is verified. -/
def User.columns (u : User) : Int × String × Profile × Time.Instant := (u.id, u.username, u.profile, u.createdAt)

/-- The account that a call would change is this user's. -/
def StoreCall.IsAbout (u : User) : StoreCall → Prop
  | updateProfile username _ => u.username = username
  | updatePassword userId _ => u.id = userId
  | deleteUser username => u.username = username
  | _ => False

/-- The call would mark this user as verified. -/
def StoreCall.Verifies (u : User) : StoreCall → Prop
  | verifyWithToken _ userId _ => u.id = userId
  | _ => False

namespace Tables
open Time

/-- A user's row is kept, with its columns, and so is the hash of the password. -/
structure Keeps (t t' : Tables) (u : User) : Prop where
  row : ∃ u', t'.users.get? u.id = some u' ∧ u'.columns = u.columns
  hash : t'.hashes.lookup u.id = t.hashes.lookup u.id

/-- A user's row and the hash of the password are as they were. -/
structure Spares (t t' : Tables) (u : User) : Prop where
  row : t'.users.get? u.id = some u
  hash : t'.hashes.lookup u.id = t.hashes.lookup u.id

variable {t t' : Tables} {u : User} {now : Instant} {c : StoreCall} {ok : Bool}

theorem Spares.keeps (h : Spares t t' u) : Keeps t t' u := ⟨⟨u, h.row, rfl⟩, h.hash⟩

theorem Consistent.get?_of_mem (h : t.Consistent) (stored : u ∈ t.users.values) : t.users.get? u.id = some u :=
  h.users.get?_eq_some_iff.2 ⟨stored, rfl⟩

theorem Consistent.spares_refl (h : t.Consistent) (stored : u ∈ t.users.values) : Spares t t u :=
  ⟨h.get?_of_mem stored, rfl⟩

theorem userByName?_eq_some {username : String} (named : t.userByName? username = some u) :
    u ∈ t.users.values ∧ u.username = username :=
  ⟨List.mem_of_find?_eq_some named, by simpa using List.find?_some named⟩

theorem Consistent.eq_of_username_eq (h : t.Consistent) {v : User} (hu : u ∈ t.users.values) (hv : v ∈ t.users.values)
    (same : u.username = v.username) : u = v :=
  List.inj_on_of_nodup_map h.usernames hu hv same

theorem Consistent.userByName?_of_mem (h : t.Consistent) (stored : u ∈ t.users.values) :
    t.userByName? u.username = some u := by
  have known : (t.userByName? u.username).isSome = true := List.find?_isSome.2 ⟨u, stored, by simp⟩
  obtain ⟨found, named⟩ := Option.isSome_iff_exists.1 known
  obtain ⟨mem, same⟩ := userByName?_eq_some named
  rw [named, h.eq_of_username_eq mem stored same]

/-- Nobody else has a user's address. -/
theorem Consistent.emailTaken_own (h : t.Consistent) (stored : u ∈ t.users.values) :
    t.emailTaken u.email (some u.id) = false := by
  rw [emailTaken, Table.any, List.any_eq_false]
  intro other mem taken
  simp only [Bool.and_eq_true, decide_eq_true_eq] at taken
  obtain rfl := List.inj_on_of_nodup_map h.emails mem stored taken.1
  exact taken.2 rfl

theorem lookup_setHash_of_ne (t : Tables) {userId other : Int} (hash : String) (ne : other ≠ userId) :
    (t.setHash userId hash).hashes.lookup other = t.hashes.lookup other := by
  have apart : (other == userId) = false := by simpa using ne
  rw [setHash, List.lookup_append, Table.lookup_filter_ne _ ne, List.lookup_cons, apart]
  exact Option.or_none

theorem lookup_setHash_self (t : Tables) (userId : Int) (hash : String) :
    (t.setHash userId hash).hashes.lookup userId = some hash := by
  rw [setHash, List.lookup_append, Table.lookup_filter_self, List.lookup_cons_self, Option.none_or]

/-! ### Calls -/

/-- The tables with this row in the place of the user's. -/
def withUser (t : Tables) (row : User) : Tables := { t with users := t.users.adjust row.id fun _ => row }

section
variable {p : Profile}

theorem Consistent.withUser_withProfile (h : t.Consistent) (stored : u ∈ t.users.values) :
    t.withUser (u.withProfile p now) = { t with users := t.users.adjust u.id (User.withProfile p now) } := by
  have same : t.users.adjust u.id (fun _ => u.withProfile p now) = t.users.adjust u.id (User.withProfile p now) :=
    h.users.adjust_congr (h.get?_of_mem stored) rfl
  rw [← same]
  rfl

theorem Consistent.mem_withUser (h : t.Consistent) (stored : u ∈ t.users.values) :
    u.withProfile p now ∈ (t.withUser (u.withProfile p now)).users.values := by
  rw [h.withUser_withProfile stored, h.users.values_adjust]
  exact List.mem_map.2 ⟨u, stored, if_pos rfl⟩

variable (own : p.email = u.email)
include own

theorem Consistent.withUser (h : t.Consistent) (stored : u ∈ t.users.values) :
    (t.withUser (u.withProfile p now)).Consistent := by
  rw [h.withUser_withProfile stored]
  exact h.updateProfile (own ▸ h.emailTaken_own stored)

/-- A profile with the address that the user has is always accepted. -/
theorem Consistent.answer_updateProfile (h : t.Consistent) (stored : u ∈ t.users.values) :
    answer now (.updateProfile u.username p) t = (.ok (u.withProfile p now), t.withUser (u.withProfile p now)) := by
  rw [h.withUser_withProfile stored]
  simp [answer, Tables.updateProfile, h.userByName?_of_mem stored, own, h.emailTaken_own stored, h.get?_of_mem stored]

end

theorem Consistent.spares_adjust (h : t.Consistent) {id : Int} {f : User → User} (stored : u ∈ t.users.values)
    (other : u.id ≠ id) : Spares t { t with users := t.users.adjust id f } u := by
  refine ⟨?_, rfl⟩
  rw [Table.get?_adjust_of_ne _ _ other]
  exact h.get?_of_mem stored

/-- A call spares every account but the one that it is about, or whose user it verifies. -/
theorem Change.spares (step : Change now t c ok t') (h : t.Consistent)
    (stored : u ∈ t.users.values) (other : ¬ c.IsAbout u) (unverified : ¬ c.Verifies u) : Spares t t' u := by
  have there := h.get?_of_mem stored
  cases step with
  | refused | read | settled => exact h.spares_refl stored
  | @updateProfile username p named v found free stored' =>
    obtain ⟨mem, named_⟩ := userByName?_eq_some found
    obtain ⟨-, same⟩ := h.users.get?_eq_some_iff.1 stored'
    refine h.spares_adjust stored fun at_ => other ?_
    rw [h.users.eq_of_key_eq stored mem (at_.trans same)]
    exact named_
  | @updatePassword userId hash known => exact ⟨there, lookup_setHash_of_ne t hash other⟩
  | @deleteUser username named found =>
    obtain ⟨mem, named_⟩ := userByName?_eq_some found
    have apart : u.id ≠ named.id := fun same => other (h.users.eq_of_key_eq stored mem same ▸ named_)
    refine ⟨?_, Table.lookup_filter_ne _ apart⟩
    rwa [Table.get?_erase_of_ne _ apart]
  | @create n hash token event unnamed free =>
    exact ⟨Table.get?_push _ there, lookup_setHash_of_ne _ hash (h.users.key_ne_next stored)⟩
  | rotate | updateStatus => exact ⟨there, rfl⟩
  | verifyWithToken => exact ⟨(h.spares_adjust stored unverified).row, rfl⟩

/-- A call keeps every account but the one that it is about. -/
theorem Change.keeps (step : Change now t c ok t') (h : t.Consistent)
    (stored : u ∈ t.users.values) (other : ¬ c.IsAbout u) : Keeps t t' u := by
  by_cases verified : c.Verifies u
  · cases step with
    | refused | read | settled => exact (h.spares_refl stored).keeps
    | @verifyWithToken tokenId userId at_ =>
      obtain rfl : u.id = userId := verified
      refine ⟨⟨u.markVerified at_, ?_, rfl⟩, rfl⟩
      rw [Table.get?_adjust_self, h.get?_of_mem stored]
      rfl
    | _ => exact verified.elim
  · exact (step.spares h stored other verified).keeps

/-! ### Verified users -/

/-- A user who is verified was so before the call, unless the call is what verifies the user. -/
theorem Change.verified_cases (h : t.Consistent) (step : Change now t c ok t') (mem : u ∈ t'.users.values)
    (verified : u.verified = true) : (∃ old ∈ t.users.values, old.id = u.id ∧ old.verified = true) ∨
      ok = true ∧ ∃ tokenId at_, c = .verifyWithToken tokenId u.id at_ := by
  cases step with
  | refused | read | updatePassword | rotate | updateStatus | settled => exact .inl ⟨u, mem, rfl, verified⟩
  | @updateProfile _ p named v _ free stored =>
    rw [h.users.values_adjust] at mem
    obtain ⟨old, there, rfl⟩ := List.mem_map.1 mem
    refine .inl ⟨old, there, ?_⟩
    by_cases same : old.id = v.id
    · rw [if_pos same] at verified ⊢
      exact ⟨rfl, verified⟩
    · rw [if_neg same] at verified ⊢
      exact ⟨rfl, verified⟩
  | deleteUser named =>
    rw [h.users.values_erase] at mem
    exact .inl ⟨u, (List.mem_filter.1 mem).1, rfl, verified⟩
  | create unnamed free =>
    rw [pushEvent, pushToken, setHash, Table.values_push, List.mem_append, List.mem_singleton] at mem
    rcases mem with stored | rfl
    · exact .inl ⟨u, stored, rfl, verified⟩
    · cases verified
  | @verifyWithToken tokenId userId at_ _ _ stored found live =>
    rw [h.users.values_adjust] at mem
    obtain ⟨old, there, rfl⟩ := List.mem_map.1 mem
    by_cases same : old.id = userId
    · rw [if_pos same]
      exact .inr ⟨rfl, tokenId, at_, by rw [← same]; rfl⟩
    · rw [if_neg same] at verified ⊢
      exact .inl ⟨old, there, rfl, verified⟩

/-- A user who is stored stays so, and keeps the name and the verification, unless the call deletes the account. -/
theorem Change.user_stays (h : t.Consistent) (step : Change now t c ok t') (stored : u ∈ t.users.values) :
    (∃ row ∈ t'.users.values, row.id = u.id ∧ row.username = u.username ∧
      (u.verified = true → row.verified = true)) ∨ ok = true ∧ c = .deleteUser u.username := by
  cases step with
  | refused | read | updatePassword | rotate | updateStatus | settled => exact .inl ⟨u, stored, rfl, rfl, id⟩
  | @updateProfile _ p named v _ free stored' =>
    refine .inl ⟨if u.id = v.id then u.withProfile p now else u, ?_, ?_⟩
    · rw [h.users.values_adjust]
      exact List.mem_map_of_mem stored
    · split <;> exact ⟨rfl, rfl, id⟩
  | @deleteUser username named found =>
    obtain ⟨mem, named_⟩ := userByName?_eq_some found
    by_cases same : u.id = named.id
    · obtain rfl := h.users.eq_of_key_eq stored mem same
      exact .inr ⟨rfl, by rw [named_]⟩
    · refine .inl ⟨u, ?_, rfl, rfl, id⟩
      rw [h.users.values_erase]
      exact List.mem_filter.2 ⟨stored, by simpa using same⟩
  | create unnamed free =>
    refine .inl ⟨u, ?_, rfl, rfl, id⟩
    rw [pushEvent, pushToken, setHash, Table.values_push]
    exact List.mem_append_left _ stored
  | @verifyWithToken tokenId userId at_ _ _ stored' found live =>
    refine .inl ⟨if u.id = userId then u.markVerified at_ else u, ?_, ?_⟩
    · rw [h.users.values_adjust]
      exact List.mem_map_of_mem stored
    · split
      · exact ⟨rfl, rfl, fun _ => rfl⟩
      · exact ⟨rfl, rfl, id⟩

end Tables
end Accounts
