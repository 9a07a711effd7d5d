import Accounts.Proofs.Store.Change
import Accounts.Proofs.Store.Table
import Mathlib.Data.List.Nodup
/-! The invariant of the store in memory: whatever it is asked, names and addresses are unique, rows belong together,
and no id is handed out twice. -/
namespace Accounts
open Time

/-- What is never changed of a user. -/
def User.origin (u : User) : String × Instant := (u.username, u.createdAt)

/-- What is never changed of a token: its user, and what it was made from. -/
def VerificationToken.origin (t : VerificationToken) : Int × NewToken :=
  (t.userId, ⟨t.token, t.purpose, t.createdAt, t.expiresAt⟩)

/-- What is never changed of an event. -/
def OutboxEvent.origin (e : OutboxEvent) : Int × NewEvent × Instant :=
  (e.aggregateId, ⟨e.aggregateType, e.eventType, e.payload⟩, e.createdAt)

namespace Tables

structure Consistent (t : Tables) : Prop where
  users : t.users.Sound User.id
  tokens : t.tokens.Sound VerificationToken.id
  outbox : t.outbox.Sound OutboxEvent.id
  usernames : (t.users.values.map User.username).Nodup
  emails : (t.users.values.map User.email).Nodup
  hashes_nodup : (t.hashes.map (·.1)).Nodup
  hashes : ∀ id, id ∈ t.hashes.map (·.1) ↔ id ∈ t.users.keys
  owners : ∀ token ∈ t.tokens.values, token.userId ∈ t.users.keys
  verified : ∀ u ∈ t.users.values, u.verified = true ↔ u.verifiedAt.isSome = true
  processed : ∀ e ∈ t.outbox.values, e.processedAt.isSome = true ↔ e.status = .processed

theorem consistent_empty : empty.Consistent where
  users := Table.sound_empty
  tokens := Table.sound_empty
  outbox := Table.sound_empty
  usernames := List.nodup_nil
  emails := List.nodup_nil
  hashes_nodup := List.nodup_nil
  hashes := by simp [empty, Table.empty, Table.keys]
  owners := by simp [empty, Table.empty, Table.values]
  verified := by simp [empty, Table.empty, Table.values]
  processed := by simp [empty, Table.empty, Table.values]

/-! ### Looking up -/

variable {t : Tables}

theorem username_ne_of_userByName?_eq_none {username : String} (h : t.userByName? username = none) :
    ∀ u ∈ t.users.values, u.username ≠ username := by
  intro u mem
  simpa using List.find?_eq_none.1 h u mem

theorem id_of_emailTaken_eq_false {email : String} {exempt : Option Int} (h : t.emailTaken email exempt = false) :
    ∀ u ∈ t.users.values, u.email = email → some u.id = exempt := by
  intro u mem same
  have free := List.any_eq_false.1 h u mem
  simpa [same] using free

theorem mem_keys_of_lookup {hashes : List (Int × String)} {id : Int} (h : (hashes.lookup id).isSome = true) :
    id ∈ hashes.map (·.1) := by
  obtain ⟨row, mem, same⟩ := List.lookup_isSome_iff.1 h
  exact List.mem_map.2 ⟨row, mem, by simpa using (beq_iff_eq.1 same).symm⟩

theorem mem_keys_filter_ne {hashes : List (Int × String)} {id other : Int} :
    other ∈ (hashes.filter fun (k, _) => k ≠ id).map (·.1) ↔ other ≠ id ∧ other ∈ hashes.map (·.1) := by
  simp only [List.mem_map, List.mem_filter]
  constructor
  · rintro ⟨row, ⟨mem, ne⟩, rfl⟩
    exact ⟨by simpa using ne, row, mem, rfl⟩
  · rintro ⟨ne, row, mem, rfl⟩
    exact ⟨row, ⟨mem, by simpa using ne⟩, rfl⟩

theorem mem_setHash_keys {userId : Int} {hash : String} {id : Int} :
    id ∈ (t.setHash userId hash).hashes.map (·.1) ↔ id = userId ∨ id ∈ t.hashes.map (·.1) := by
  rw [setHash, List.map_append, List.mem_append, mem_keys_filter_ne]
  by_cases same : id = userId <;> simp [same]

theorem setHash_keys_nodup {userId : Int} {hash : String} (h : (t.hashes.map (·.1)).Nodup) :
    ((t.setHash userId hash).hashes.map (·.1)).Nodup := by
  rw [setHash, List.map_append, List.nodup_append]
  refine ⟨h.sublist (List.filter_sublist.map _), List.nodup_singleton _, ?_⟩
  intro a kept b new same
  obtain ⟨row, mem, rfl⟩ := List.mem_map.1 kept
  have other : row.1 ≠ userId := by simpa using (List.mem_filter.1 mem).2
  exact other (same.trans (by simpa using new))

/-! ### Each change keeps the invariant -/

/-- Values stay distinct when one row gets a value that no other row has. -/
theorem nodup_map_update {α β : Type} {key : α → Int} {f : α → β} {l : List α} {k : Int} {b : β}
    (keys : (l.map key).Nodup) (h : (l.map f).Nodup) (free : ∀ a ∈ l, f a = b → key a = k) :
    (l.map fun a => if key a = k then b else f a).Nodup := by
  refine List.Nodup.map_on ?_ (keys.of_map key)
  intro a ha c hc same
  by_cases hak : key a = k <;> by_cases hck : key c = k
  · exact List.inj_on_of_nodup_map keys ha hc (hak.trans hck.symm)
  · simp only [hak, hck, if_true, if_false] at same
    exact absurd (free c hc same.symm) hck
  · simp only [hak, hck, if_true, if_false] at same
    exact absurd (free a ha same) hak
  · simp only [hak, hck, if_false] at same
    exact List.inj_on_of_nodup_map h ha hc same

namespace Consistent

theorem adjustUser (h : t.Consistent) (id : Int) (f : User → User)
    (same : ∀ u, (f u).id = u.id ∧ (f u).username = u.username)
    (emails : ((t.users.adjust id f).values.map User.email).Nodup)
    (verified : ∀ u ∈ t.users.values, u.id = id → ((f u).verified = true ↔ (f u).verifiedAt.isSome = true)) :
    ({ t with users := t.users.adjust id f } : Tables).Consistent :=
  { h with
    users := h.users.adjust id f fun u => (same u).1
    usernames := by
      rw [t.users.map_values_adjust id fun u => (same u).2]
      exact h.usernames
    emails
    hashes := by
      intro other
      rw [Table.keys_adjust]
      exact h.hashes other
    owners := by
      intro token mem
      rw [Table.keys_adjust]
      exact h.owners token mem
    verified := h.users.forall_adjust h.verified verified }

theorem updateProfile (h : t.Consistent) {now : Instant} {p : Profile} {id : Int}
    (free : t.emailTaken p.email (some id) = false) :
    ({ t with users := t.users.adjust id (User.withProfile p now) } : Tables).Consistent := by
  refine h.adjustUser id _ (fun _ => ⟨rfl, rfl⟩) ?_ fun u mem _ => h.verified u mem
  have split : (t.users.adjust id (User.withProfile p now)).values.map User.email =
      t.users.values.map fun a => if a.id = id then p.email else a.email := by
    rw [h.users.values_adjust, List.map_map]
    apply List.map_congr_left
    intro u mem
    by_cases at_ : u.id = id <;> simp [at_, User.withProfile, User.email]
  rw [split]
  have keys := h.users.nodup
  rw [h.users.keys_eq] at keys
  refine nodup_map_update keys h.emails fun u mem same => ?_
  simpa using id_of_emailTaken_eq_false free u mem same

theorem updatePassword (h : t.Consistent) {userId : Int} {hash : String}
    (known : (t.hashes.lookup userId).isSome = true) : (t.setHash userId hash).Consistent :=
  { h with
    hashes_nodup := setHash_keys_nodup h.hashes_nodup
    hashes := by
      intro id
      rw [mem_setHash_keys, or_iff_right_of_imp]
      · exact h.hashes id
      · rintro rfl
        exact mem_keys_of_lookup known }

theorem deleteUser (h : t.Consistent) (id : Int) :
    ({ t with
      users := t.users.erase id
      hashes := t.hashes.filter fun (other, _) => other ≠ id
      tokens := t.tokens.keep fun token => token.userId ≠ id } : Tables).Consistent where
  users := h.users.erase id
  tokens := h.tokens.keep fun token => token.userId ≠ id
  outbox := h.outbox
  usernames := by
    rw [h.users.values_erase]
    exact h.usernames.sublist (List.filter_sublist.map _)
  emails := by
    rw [h.users.values_erase]
    exact h.emails.sublist (List.filter_sublist.map _)
  hashes_nodup := h.hashes_nodup.sublist (List.filter_sublist.map _)
  hashes other := by
    rw [mem_keys_filter_ne, h.hashes, Table.mem_keys_erase]
  owners token mem := by
    rw [Table.values_keep] at mem
    obtain ⟨stored, ne⟩ := List.mem_filter.1 mem
    exact Table.mem_keys_erase.2 ⟨by simpa using ne, h.owners token stored⟩
  verified u mem := by
    rw [h.users.values_erase] at mem
    exact h.verified u (List.mem_filter.1 mem).1
  processed := h.processed

theorem pushToken (h : t.Consistent) {userId : Int} (known : userId ∈ t.users.keys) (n : NewToken) :
    (t.pushToken userId n).Consistent :=
  { h with
    tokens := by
      dsimp only [Tables.pushToken]
      exact h.tokens.push _ fun _ => rfl
    owners := by
      intro token mem
      rw [Tables.pushToken, Table.values_push, List.mem_append, List.mem_singleton] at mem
      rcases mem with stored | rfl
      · exact h.owners token stored
      · exact known }

theorem pushEvent (h : t.Consistent) (userId : Int) (e : NewEvent) (now : Instant) :
    (t.pushEvent userId e now).Consistent :=
  { h with
    outbox := by
      dsimp only [Tables.pushEvent]
      exact h.outbox.push _ fun _ => rfl
    processed := by
      intro event mem
      rw [Tables.pushEvent, Table.values_push, List.mem_append, List.mem_singleton] at mem
      rcases mem with stored | rfl
      · exact h.processed event stored
      · simp }

/-- A user with a hash, under a new name and address. -/
theorem pushUser (h : t.Consistent) {n : NewUser} (hash : String) (now : Instant)
    (unnamed : t.userByName? n.username = none) (free : t.emailTaken n.profile.email none = false) :
    (({ t with users := t.users.push (User.fresh n now) } : Tables).setHash t.users.next hash).Consistent where
  users := h.users.push _ fun _ => rfl
  tokens := h.tokens
  outbox := h.outbox
  usernames := by
    simp only [setHash, Table.values_push, List.map_append, List.map_cons, List.map_nil]
    refine List.nodup_append.2 ⟨h.usernames, List.nodup_singleton _, ?_⟩
    intro a mem b new same
    obtain ⟨u, user, rfl⟩ := List.mem_map.1 mem
    exact username_ne_of_userByName?_eq_none unnamed u user (same.trans (by simpa [User.fresh] using new))
  emails := by
    simp only [setHash, Table.values_push, List.map_append, List.map_cons, List.map_nil]
    refine List.nodup_append.2 ⟨h.emails, List.nodup_singleton _, ?_⟩
    intro a mem b new same
    obtain ⟨u, user, rfl⟩ := List.mem_map.1 mem
    have taken := id_of_emailTaken_eq_false free u user (same.trans (by simpa [User.fresh, User.email] using new))
    simp at taken
  hashes_nodup := setHash_keys_nodup h.hashes_nodup
  hashes id := by
    rw [mem_setHash_keys, h.hashes, setHash, Table.keys_push, List.mem_append, List.mem_singleton]
    exact or_comm
  owners token mem := by
    rw [setHash, Table.keys_push]
    exact List.mem_append_left _ (h.owners token mem)
  verified u mem := by
    simp only [setHash, Table.values_push, List.mem_append, List.mem_singleton] at mem
    rcases mem with stored | rfl
    · exact h.verified u stored
    · simp [User.fresh]
  processed := h.processed

theorem create (h : t.Consistent) {n : NewUser} (hash : String) (token : NewToken) (event : NewEvent)
    (unnamed : t.userByName? n.username = none) (free : t.emailTaken n.profile.email none = false) :
    (((({ t with users := t.users.push (User.fresh n token.issuedAt) } : Tables).setHash t.users.next
      hash).pushToken t.users.next token).pushEvent t.users.next event token.issuedAt).Consistent := by
  refine ((h.pushUser hash token.issuedAt unnamed free).pushToken ?_ token).pushEvent _ event _
  rw [setHash, Table.keys_push]
  exact List.mem_append_right _ (List.mem_singleton_self _)

/-- Tokens changed in what is neither their id nor their user. -/
theorem mapTokens (h : t.Consistent) (f : VerificationToken → VerificationToken)
    (same : ∀ token, (f token).id = token.id ∧ (f token).userId = token.userId) :
    ({ t with tokens := t.tokens.map f } : Tables).Consistent :=
  { h with
    tokens := h.tokens.map f fun token => (same token).1
    owners := by
      intro token mem
      rw [Table.values_map] at mem
      obtain ⟨old, stored, rfl⟩ := List.mem_map.1 mem
      rw [(same old).2]
      exact h.owners old stored }

theorem rotate (h : t.Consistent) {userId : Int} (token : NewToken) (event : NewEvent)
    (known : t.users.has userId = true) :
    ((({ t with tokens := t.tokens.map (VerificationToken.supersede userId token.issuedAt) } :
      Tables).pushToken userId token).pushEvent userId event token.issuedAt).Consistent := by
  refine ((h.mapTokens _ fun old => ?_).pushToken (Table.has_iff_mem_keys.1 known) token).pushEvent _ event _
  simp only [VerificationToken.supersede]
  split <;> exact ⟨rfl, rfl⟩

theorem verifyWithToken (h : t.Consistent) (tokenId userId : Int) (now : Instant) :
    ({ t with
      tokens := t.tokens.adjust tokenId (VerificationToken.spend now)
      users := t.users.adjust userId (User.markVerified now) } : Tables).Consistent := by
  have spent : ({ t with tokens := t.tokens.adjust tokenId (VerificationToken.spend now) } : Tables).Consistent :=
    { h with
      tokens := h.tokens.adjust tokenId _ fun _ => rfl
      owners := h.tokens.forall_adjust h.owners fun token mem _ => h.owners token mem }
  refine spent.adjustUser userId _ (fun _ => ⟨rfl, rfl⟩) ?_ fun u mem _ => by simp [User.markVerified]
  rw [t.users.map_values_adjust (f := User.markVerified now) userId fun _ => rfl]
  exact h.emails

theorem updateStatus (h : t.Consistent) {id : Int} {status : OutboxStatus} {event : OutboxEvent} (now : Instant)
    (found : t.outbox.get? id = some event) (can : event.status.canBecome status = true) :
    ({ t with outbox := t.outbox.adjust id (OutboxEvent.settle status now) } : Tables).Consistent :=
  { h with
    outbox := h.outbox.adjust id _ fun _ => rfl
    processed := by
      refine h.outbox.forall_adjust h.processed fun e mem at_ => ?_
      obtain ⟨stored, at_event⟩ := h.outbox.get?_eq_some_iff.1 found
      obtain rfl : e = event := h.outbox.eq_of_key_eq mem stored (at_.trans at_event.symm)
      have pending := (OutboxStatus.canBecome_iff.1 can).1
      have waiting : e.processedAt.isSome ≠ true := by
        rw [ne_eq, h.processed e mem, pending]
        decide
      by_cases done : status = .processed
      · simp [OutboxEvent.settle, done]
      · simpa [OutboxEvent.settle, done] using waiting }

theorem change (h : t.Consistent) {now : Instant} {c : StoreCall} {ok : Bool} {t' : Tables}
    (step : Change now t c ok t') : t'.Consistent := by
  cases step with
  | refused | read | settled => exact h
  | @updateProfile username p u v named free stored =>
    obtain ⟨-, same⟩ := h.users.get?_eq_some_iff.1 stored
    exact h.updateProfile (same ▸ free)
  | updatePassword known => exact h.updatePassword known
  | deleteUser named => exact h.deleteUser _
  | create unnamed free => exact h.create _ _ _ unnamed free
  | rotate known => exact h.rotate _ _ known
  | verifyWithToken stored found live => exact h.verifyWithToken _ _ _
  | updateStatus found can => exact h.updateStatus _ found can

end Consistent

theorem consistent_after (calls : List (Instant × StoreCall)) : (after calls empty).Consistent :=
  after_induction (fun step h => h.change step) calls consistent_empty

end Tables
end Accounts
