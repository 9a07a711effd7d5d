import Accounts.Session.Issuer
import Mathlib.Data.List.Nodup
/-! The deny-list against all that was ever revoked. Entries are dropped from it when their tokens have ended. Main
statements: whatever was dropped, a revoked token is good for no refresh, and it is put on the list again just if it has
ended when it comes there. -/
namespace Accounts.Issuer
open Time Session

/-- The identifier of a refresh token and the second at which it ends. -/
def mark? (i : Issuer) (token : String) : Option (String × Int) :=
  (Token.open? i.refreshKey token).bind fun c => c.tokenId.map fun id => (id, c.expiresAt)

theorem wholeSeconds_mono {a b : Instant} (h : a ≤ b) : wholeSeconds a ≤ wholeSeconds b :=
  Int.ediv_le_ediv (by decide) h

variable {i : Issuer} {now : Instant} {token : String} {denied : DenyList}

/-- What comes of looking at a refresh token. -/
inductive Verifies (i : Issuer) (now : Instant) (token : String) : Except ServiceError (Claims × String) → Prop
  | refused : Verifies i now token (.error .invalidToken)
  | good {c : Claims} {id : String} (marked : i.mark? token = some (id, c.expiresAt))
      (live : wholeSeconds now ≤ c.expiresAt + leeway) : Verifies i now token (.ok (c, id))

theorem verifyRefresh_verifies (i : Issuer) (now : Instant) (token : String) :
    Verifies i now token (i.verifyRefresh now token) := by
  unfold verifyRefresh verify
  rcases opened : Token.open? i.refreshKey token with _ | c
  · exact .refused
  dsimp only
  split
  · next accepted =>
    have live : wholeSeconds now ≤ c.expiresAt + leeway := by
      simp only [accepts, Bool.and_eq_true, decide_eq_true_eq] at accepted
      exact accepted.1.1.2
    dsimp only [bind, Except.bind]
    rcases named : c.tokenId with _ | id
    · exact .refused
    · exact .good (by simp [mark?, opened, named]) live
  · exact .refused

theorem mark?_of_verifyRefresh {c : Claims} {id : String} (h : i.verifyRefresh now token = .ok (c, id)) :
    i.mark? token = some (id, c.expiresAt) ∧ wholeSeconds now ≤ c.expiresAt + leeway := by
  have verifies := i.verifyRefresh_verifies now token
  rw [h] at verifies
  cases verifies with
  | good marked live => exact ⟨marked, live⟩

theorem lookup_isSome_iff {id : String} : (denied.lookup id).isSome = true ↔ id ∈ denied.map (·.1) := by
  rw [List.lookup_isSome_iff, List.mem_map]
  exact exists_congr fun e => and_congr_right fun _ => by rw [beq_iff_eq, eq_comm]

/-- What comes of a token that is put on the deny-list, and the list after it. -/
inductive Enters (now : Instant) (denied : DenyList) (f : String × Int) : Except ServiceError Unit × DenyList → Prop
  | again (listed : f.1 ∈ (pruned now denied).map (·.1)) : Enters now denied f
      (.error .invalidToken, ((pruned now denied).filter fun (other, _) => other ≠ f.1) ++ [f])
  | first (unlisted : f.1 ∉ (pruned now denied).map (·.1)) : Enters now denied f (.ok (), pruned now denied ++ [f])

theorem deny_enters (now : Instant) (denied : DenyList) (id : String) (expiresAt : Int) :
    Enters now denied (id, expiresAt) (deny now denied id expiresAt) := by
  unfold deny
  by_cases listed : ((pruned now denied).lookup id).isSome = true
  · rw [if_pos listed]
    exact .again (lookup_isSome_iff.1 listed)
  · rw [if_neg listed]
    exact .first fun mem => listed (lookup_isSome_iff.2 mem)

theorem listed_of_pruned {id : String} (h : id ∈ (pruned now denied).map (·.1)) : id ∈ denied.map (·.1) :=
  (List.filter_sublist.map _).subset h

/-- What is not on the list can be put there. -/
theorem deny_of_unlisted {id : String} {expiresAt : Int} (unlisted : id ∉ denied.map (·.1)) :
    deny now denied id expiresAt = (.ok (), pruned now denied ++ [(id, expiresAt)]) := by
  have free : ¬((pruned now denied).lookup id).isSome = true := fun listed =>
    unlisted (listed_of_pruned (lookup_isSome_iff.1 listed))
  exact if_neg free

theorem revoke_of_unlisted {later : Instant} {c : Claims} {id : String} (verified : i.verifyRefresh now token = .ok (c, id))
    (unlisted : id ∉ denied.map (·.1)) :
    i.revoke now later denied token = (.ok (), pruned later denied ++ [(id, c.expiresAt)]) := by
  rw [revoke, verified]
  exact deny_of_unlisted unlisted

theorem mem_pruned {e : String × Int} : e ∈ pruned now denied ↔ e ∈ denied ∧ wholeSeconds now ≤ e.2 + leeway := by
  simp [pruned]

variable {f : String × Int}

/-- What is on the list after it was there before, or was put there. -/
theorem Enters.mem {out : Except ServiceError Unit × DenyList} (enters : Enters now denied f out) {e : String × Int}
    (mem : e ∈ out.2) : e ∈ denied ∨ e = f := by
  cases enters with
  | again listed =>
    rcases List.mem_append.1 mem with kept | new
    · exact .inl (mem_pruned.1 (List.mem_filter.1 kept).1).1
    · exact .inr (List.mem_singleton.1 new)
  | first unlisted =>
    rcases List.mem_append.1 mem with kept | new
    · exact .inl (mem_pruned.1 kept).1
    · exact .inr (List.mem_singleton.1 new)

/-! ### All that was revoked -/

/-- The deny-list once these tokens were revoked, for use after the instants up to now: each is on it, or has ended. -/
structure Denies (marks : List (String × Int)) (now : Instant) (denied : DenyList) : Prop where
  ids : (denied.map (·.1)).Nodup
  revoked : ∀ e ∈ denied, e ∈ marks
  listed : ∀ e ∈ marks, e ∈ denied ∨ e.2 + leeway < wholeSeconds now

theorem denies_empty (now : Instant) : Denies [] now [] where
  ids := List.nodup_nil
  revoked _ mem := absurd mem List.not_mem_nil
  listed _ mem := absurd mem List.not_mem_nil

variable {marks : List (String × Int)}

theorem Denies.later (h : Denies marks now denied) {later : Instant} (le : now ≤ later) : Denies marks later denied :=
  { h with listed := fun e mem => (h.listed e mem).imp_right fun ended => Int.lt_of_lt_of_le ended (wholeSeconds_mono le) }

/-- A live token that was revoked is on the list. -/
theorem Denies.mem_of_live (h : Denies marks now denied) {e : String × Int} (mem : e ∈ marks)
    (live : wholeSeconds now ≤ e.2 + leeway) : e ∈ denied :=
  (h.listed e mem).resolve_right (Int.not_lt.2 live)

/-- A token that was revoked is good for no refresh any more. -/
theorem Denies.refuses (h : Denies marks now denied) {e : String × Int} (marked : i.mark? token = some e)
    (mem : e ∈ marks) : i.checkRefresh now denied token = .error .invalidToken := by
  have verifies := i.verifyRefresh_verifies now token
  unfold checkRefresh
  generalize i.verifyRefresh now token = verified at verifies
  cases verifies with
  | refused => rfl
  | @good c id named live =>
    obtain rfl := Option.some.inj (marked.symm.trans named)
    have listed := List.mem_map_of_mem (f := (·.1)) (h.mem_of_live mem live)
    exact if_pos (lookup_isSome_iff.2 listed)

theorem Denies.prune (h : Denies marks now denied) : Denies marks now (pruned now denied) where
  ids := h.ids.sublist (List.filter_sublist.map _)
  revoked e mem := h.revoked e (mem_pruned.1 mem).1
  listed e mem := by
    by_cases live : wholeSeconds now ≤ e.2 + leeway
    · exact .inl (mem_pruned.2 ⟨h.mem_of_live mem live, live⟩)
    · exact .inr (Int.not_le.1 live)

theorem nodup_ids_append (ids : (denied.map (·.1)).Nodup) (unlisted : f.1 ∉ denied.map (·.1)) :
    ((denied ++ [f]).map (·.1)).Nodup := by
  rw [List.map_append, List.nodup_append]
  refine ⟨ids, List.nodup_singleton _, fun id old other new same => unlisted ?_⟩
  obtain rfl : other = f.1 := List.mem_singleton.1 new
  exact same ▸ old

/-- An entry that is written again stays the same. -/
theorem Denies.again (h : Denies marks now denied) (there : f ∈ denied) (own : ∀ e ∈ marks, e.1 = f.1 → e = f) :
    Denies marks now ((denied.filter fun (other, _) => other ≠ f.1) ++ [f]) where
  ids := by
    refine nodup_ids_append (h.ids.sublist (List.filter_sublist.map _)) fun kept => ?_
    obtain ⟨e, mem, same⟩ := List.mem_map.1 kept
    have differs : e.1 ≠ f.1 := by simpa using (List.mem_filter.1 mem).2
    exact differs same
  revoked e mem := by
    rcases List.mem_append.1 mem with kept | new
    · exact h.revoked e (List.mem_filter.1 kept).1
    · exact List.mem_singleton.1 new ▸ h.revoked f there
  listed e mem := by
    refine (h.listed e mem).imp_left fun inside => ?_
    by_cases same : e.1 = f.1
    · exact List.mem_append_right _ (List.mem_singleton.2 (own e mem same))
    · exact List.mem_append_left _ (List.mem_filter.2 ⟨inside, by simpa using same⟩)

theorem Denies.add (h : Denies marks now denied) (unlisted : f.1 ∉ denied.map (·.1)) :
    Denies (marks ++ [f]) now (denied ++ [f]) where
  ids := nodup_ids_append h.ids unlisted
  revoked e mem := by
    rcases List.mem_append.1 mem with old | new
    · exact List.mem_append_left _ (h.revoked e old)
    · exact List.mem_append_right _ new
  listed e mem := by
    rcases List.mem_append.1 mem with old | new
    · exact (h.listed e old).imp_left (List.mem_append_left _)
    · exact .inl (List.mem_append_right _ new)

/-- What comes of a token that is put on the list: it is let in if it was not revoked or has ended. -/
inductive Denies.After (marks : List (String × Int)) (now : Instant) (f : String × Int) :
    Except ServiceError Unit × DenyList → Prop
  | again {after : DenyList} (old : f ∈ marks) (live : wholeSeconds now ≤ f.2 + leeway)
      (denies : Denies marks now after) : After marks now f (.error .invalidToken, after)
  | spent {after : DenyList} (free : f ∉ marks ∨ f.2 + leeway < wholeSeconds now)
      (denies : Denies (marks ++ [f]) now after) : After marks now f (.ok (), after)

section
variable (h : Denies marks now denied) (own : ∀ e ∈ marks, e.1 = f.1 → e = f)
  {out : Except ServiceError Unit × DenyList} (put : Enters now denied f out)
include h own put

theorem Denies.after : After marks now f out := by
  cases put with
  | again listed =>
    obtain ⟨e, mem, same⟩ := List.mem_map.1 listed
    obtain rfl := own e (h.prune.revoked e mem) same
    exact .again (h.prune.revoked e mem) (mem_pruned.1 mem).2 (h.prune.again mem own)
  | first unlisted =>
    refine .spent ?_ (h.prune.add unlisted)
    by_contra held
    obtain ⟨old, early⟩ := not_or.1 held
    have live : wholeSeconds now ≤ f.2 + leeway := Int.not_lt.1 early
    exact unlisted (List.mem_map_of_mem (mem_pruned.2 ⟨h.mem_of_live (Classical.not_not.1 old) live, live⟩))

/-- Then the list holds the tokens that were revoked and have not ended, and the one that was put there. -/
theorem Denies.mem_iff {e : String × Int} : e ∈ out.2 ↔ e ∈ marks ∧ wholeSeconds now ≤ e.2 + leeway ∨ e = f := by
  have kept : e ∈ pruned now denied ↔ e ∈ marks ∧ wholeSeconds now ≤ e.2 + leeway := by
    rw [mem_pruned]
    exact ⟨fun ⟨mem, live⟩ => ⟨h.revoked e mem, live⟩, fun ⟨mem, live⟩ => ⟨h.mem_of_live mem live, live⟩⟩
  cases put with
  | again listed =>
    rw [List.mem_append, List.mem_filter, kept, List.mem_singleton]
    constructor
    · exact fun mem => mem.imp_left And.left
    · rintro (old | same)
      · by_cases named : e.1 = f.1
        · exact .inr (own e old.1 named)
        · exact .inl ⟨old, by simpa using named⟩
      · exact .inr same
  | first unlisted => rw [List.mem_append, kept, List.mem_singleton]

end

/-- A token that was revoked is revoked again just if it is good when it is looked at, and has ended when it comes to
the list. -/
theorem Denies.revoke_iff {later : Instant} (h : Denies marks later denied) (marked : i.mark? token = some f)
    (mem : f ∈ marks) (own : ∀ e ∈ marks, e.1 = f.1 → e = f) :
    (i.revoke now later denied token).1 = .ok () ↔
      (∃ told, i.verifyRefresh now token = .ok told) ∧ f.2 + leeway < wholeSeconds later := by
  unfold revoke
  rcases verified : i.verifyRefresh now token with e | ⟨c, id⟩
  · exact ⟨nofun, fun ⟨⟨_, told⟩, _⟩ => nomatch told⟩
  obtain rfl := Option.some.inj (marked.symm.trans (mark?_of_verifyRefresh verified).1)
  have after := h.after own (deny_enters later denied id c.expiresAt)
  dsimp only
  generalize deny later denied id c.expiresAt = out at after
  cases after with
  | again old live => exact ⟨nofun, fun ⟨_, ended⟩ => absurd live (Int.not_le.2 ended)⟩
  | spent free => exact ⟨fun _ => ⟨⟨_, rfl⟩, free.resolve_left (not_not_intro mem)⟩, fun _ => rfl⟩

end Accounts.Issuer
