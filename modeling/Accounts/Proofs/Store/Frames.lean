import Accounts.Proofs.Store.Accounts
/-! What calls leave alone. Main statements: a call that is not about an event is answered alike whatever events have
come to, and an event that is settled is all that the other calls change. -/
namespace Accounts
open Time

/-- An event without its status and the times that change with it. -/
def OutboxEvent.written (e : OutboxEvent) : Int × Int × NewEvent × Instant := (e.id, e.origin)

/-- The call looks for an event or settles it. -/
def StoreCall.AsksOfEvents : StoreCall → Prop
  | findEvent _ | updateStatus _ _ => True
  | _ => False

/-- The call would change what is stored of a user. -/
def StoreCall.Concerns (t : Tables) (userId : Int) : StoreCall → Prop
  | updateProfile username _ | deleteUser username => ∃ u, t.userByName? username = some u ∧ u.id = userId
  | updatePassword id _ | rotate id _ _ => id = userId
  | create .. => t.users.next = userId
  | verifyWithToken tokenId id _ =>
    id = userId ∨ ∃ token, t.tokens.get? tokenId = some token ∧ token.userId = userId
  | _ => False

namespace Tables

/-- The same tables but for what events have come to. -/
structure SameButSettled (t t' : Tables) : Prop where
  users : t'.users = t.users
  hashes : t'.hashes = t.hashes
  tokens : t'.tokens = t.tokens
  outbox : t'.outbox.map OutboxEvent.written = t.outbox.map OutboxEvent.written

/-- The tables tell the same of a user: the row, the hash of the password and the tokens. -/
structure Agree (t t' : Tables) (userId : Int) : Prop where
  row : t'.users.get? userId = t.users.get? userId
  hash : t'.hashes.lookup userId = t.hashes.lookup userId
  tokens : (t'.tokens.values.filter fun token => token.userId = userId) =
    t.tokens.values.filter fun token => token.userId = userId

variable {t t' t'' : Tables} {now : Instant} {c : StoreCall} {ok : Bool}

theorem SameButSettled.refl (t : Tables) : SameButSettled t t := ⟨rfl, rfl, rfl, rfl⟩

theorem SameButSettled.trans (h : SameButSettled t t') (h' : SameButSettled t' t'') : SameButSettled t t'' :=
  ⟨h'.users.trans h.users, h'.hashes.trans h.hashes, h'.tokens.trans h.tokens, h'.outbox.trans h.outbox⟩

theorem Agree.refl (t : Tables) (userId : Int) : Agree t t userId := ⟨rfl, rfl, rfl⟩

/-! ### Calls about events -/

theorem map_adjust_same {α β : Type} (t : Table α) {f : α → β} {g : α → α} (key : Int) (same : ∀ a, f (g a) = f a) :
    (t.adjust key g).map f = t.map f := by
  simp only [Table.map, Table.adjust, List.map_map, Table.mk.injEq, true_and]
  apply List.map_congr_left
  intro row mem
  by_cases at_ : row.1 = key <;> simp [at_, same]

theorem Change.sameButSettled {id : Int} {status : OutboxStatus}
    (step : Change now t (.updateStatus id status) ok t') : SameButSettled t t' := by
  cases step with
  | refused | read | settled => exact .refl t
  | updateStatus found can => exact { SameButSettled.refl t with outbox := map_adjust_same _ id fun _ => rfl }

/-! ### All other calls -/

theorem SameButSettled.pushEvent (same : SameButSettled t t') (userId : Int) (e : NewEvent) (now : Instant) :
    SameButSettled (t.pushEvent userId e now) (t'.pushEvent userId e now) := by
  refine ⟨same.users, same.hashes, same.tokens, ?_⟩
  rw [Tables.pushEvent, Tables.pushEvent, Table.map_push, Table.map_push, same.outbox]

theorem SameButSettled.userByName? (same : SameButSettled t t') (username : String) :
    t'.userByName? username = t.userByName? username := by
  rw [Tables.userByName?, Tables.userByName?, same.users]

theorem SameButSettled.emailTaken (same : SameButSettled t t') (email : String) (exempt : Option Int) :
    t'.emailTaken email exempt = t.emailTaken email exempt := by
  rw [Tables.emailTaken, Tables.emailTaken, same.users]

theorem answer_sameButSettled (now : Instant) (same : SameButSettled t t') (apart : ¬c.AsksOfEvents) :
    (answer now c t').1 = (answer now c t).1 ∧ SameButSettled (answer now c t).2 (answer now c t').2 := by
  have ⟨users, hashes, tokens, outbox⟩ := same
  cases c with
  | findEvent | updateStatus => exact absurd trivial apart
  | updateProfile username p =>
    simp only [answer, updateProfile, same.userByName?, same.emailTaken, users]
    split
    · exact ⟨rfl, same⟩
    · split
      · exact ⟨rfl, same⟩
      · split
        · exact ⟨rfl, same⟩
        · exact ⟨rfl, rfl, hashes, tokens, outbox⟩
  | updatePassword userId hash =>
    simp only [answer, updatePassword, setHash, hashes]
    split
    · exact ⟨rfl, users, rfl, tokens, outbox⟩
    · exact ⟨rfl, same⟩
  | deleteUser username =>
    simp only [answer, deleteUser, same.userByName?, users, hashes, tokens]
    split
    · exact ⟨rfl, same⟩
    · exact ⟨rfl, rfl, rfl, rfl, outbox⟩
  | create n hash token event =>
    simp only [answer, create, same.userByName?, same.emailTaken, users, hashes, tokens]
    split
    · exact ⟨rfl, same⟩
    · refine ⟨rfl, SameButSettled.pushEvent ?_ _ _ _⟩
      exact ⟨rfl, rfl, rfl, outbox⟩
  | rotate userId token event =>
    simp only [answer, rotate, users, tokens]
    split
    · refine ⟨rfl, SameButSettled.pushEvent ?_ _ _ _⟩
      exact ⟨rfl, hashes, rfl, outbox⟩
    · exact ⟨rfl, same⟩
  | verifyWithToken tokenId userId at_ =>
    simp only [answer, verifyWithToken, users, tokens]
    split
    · exact ⟨rfl, same⟩
    · split
      · exact ⟨rfl, same⟩
      · split
        · exact ⟨rfl, same⟩
        · exact ⟨rfl, rfl, hashes, rfl, outbox⟩
  | findToken text =>
    simp only [answer_findToken, users, tokens]
    exact ⟨trivial, same⟩
  | getUser username => exact ⟨congrArg Except.ok (same.userByName? username), same⟩
  | _ => simpa only [answer, listUsers, latestToken, users, hashes, tokens, true_and] using same

/-! ### Users that a call is not about -/

theorem get?_push_of_ne {α : Type} (t : Table α) (make : Int → α) {key : Int} (ne : key ≠ t.next) :
    (t.push make).get? key = t.get? key := by
  have apart : (key == t.next) = false := by simpa using ne
  rw [Table.get?, Table.push, List.lookup_append, List.lookup_cons, apart]
  exact Option.or_none

/-- A user's tokens are as they were if only other tokens are changed, in what is not their user. -/
theorem tokensOf_map {tokens : List VerificationToken} {f : VerificationToken → VerificationToken} {userId : Int}
    (owner : ∀ token, (f token).userId = token.userId)
    (other : ∀ token ∈ tokens, token.userId = userId → f token = token) :
    ((tokens.map f).filter fun token => token.userId = userId) =
      tokens.filter fun token => token.userId = userId := by
  induction tokens with
  | nil => rfl
  | cons token tokens ih =>
    have rest := ih fun row mem => other row (List.mem_cons_of_mem _ mem)
    rw [List.map_cons, List.filter_cons, List.filter_cons, owner, rest]
    by_cases mine : token.userId = userId
    · rw [other token List.mem_cons_self mine]
    · simp only [mine, decide_false, Bool.false_eq_true, if_false]

theorem tokensOf_pushToken (t : Tables) {id userId : Int} (n : NewToken) (ne : id ≠ userId) :
    ((t.pushToken id n).tokens.values.filter fun token => token.userId = userId) =
      t.tokens.values.filter fun token => token.userId = userId := by
  rw [pushToken, Table.values_push, List.filter_append]
  simp [ne]

/-- What is stored of a user that the call does not concern stays. -/
theorem Change.agree (step : Change now t c ok t') (h : t.Consistent) {userId : Int}
    (other : ¬c.Concerns t userId) : Agree t t' userId := by
  have same := Agree.refl t userId
  cases step with
  | refused | read | settled => exact same
  | @updateProfile username p u v named free stored =>
    have own := (h.users.get?_eq_some_iff.1 stored).2
    exact { same with row := Table.get?_adjust_of_ne _ _ fun at_ => other ⟨u, named, (at_.trans own).symm⟩ }
  | updatePassword known => exact { same with hash := lookup_setHash_of_ne t _ fun at_ => other at_.symm }
  | @deleteUser username u named =>
    have apart : userId ≠ u.id := fun at_ => other ⟨u, named, at_.symm⟩
    refine ⟨Table.get?_erase_of_ne _ apart, Table.lookup_filter_ne _ apart, ?_⟩
    rw [Table.values_keep, List.filter_filter]
    refine List.filter_congr fun token _ => ?_
    by_cases mine : token.userId = userId <;> simp [mine, apart]
  | @create n hash token event unnamed free =>
    have apart : userId ≠ t.users.next := fun at_ => other at_.symm
    exact ⟨get?_push_of_ne _ _ apart, lookup_setHash_of_ne _ hash apart, tokensOf_pushToken _ token fun at_ => other at_⟩
  | @rotate id token event known =>
    refine { same with tokens := (tokensOf_pushToken _ token other).trans ?_ }
    rw [Table.values_map]
    refine tokensOf_map (fun old => ?_) fun old _ mine => ?_
    · rw [VerificationToken.supersede]
      split <;> rfl
    · refine if_neg fun active => ?_
      have own : old.userId = id := of_decide_eq_true (Bool.and_eq_true_iff.1 active).1
      exact other (own.symm.trans mine)
  | @verifyWithToken tokenId id at_ u token stored found live =>
    obtain ⟨-, own⟩ := h.tokens.get?_eq_some_iff.1 found
    refine ⟨Table.get?_adjust_of_ne _ _ fun at_ => other (.inl at_.symm), rfl, ?_⟩
    rw [h.tokens.values_adjust]
    refine tokensOf_map (fun old => ?_) fun old mem mine => ?_
    · split <;> rfl
    · refine if_neg fun at_ => other (.inr ⟨old, ?_, mine⟩)
      exact h.tokens.get?_eq_some_iff.2 ⟨mem, at_⟩
  | @updateStatus id status event found can => exact ⟨rfl, rfl, rfl⟩

/-- A call that is not about events at most adds one. -/
theorem Change.outbox_prefix (step : Change now t c ok t') (apart : ¬c.AsksOfEvents) :
    t.outbox.rows <+: t'.outbox.rows := by
  cases step with
  | updateStatus => exact absurd trivial apart
  | create | rotate => exact List.prefix_append _ _
  | _ => exact List.prefix_rfl

end Tables
end Accounts
