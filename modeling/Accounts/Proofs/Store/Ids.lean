import Accounts.Proofs.Store.Consistency
/-! Ids of the store in memory: each is handed out once, whatever was deleted in between, and events stay. Main
statement: the invariant of all states that calls can reach. -/
namespace Accounts.Tables
open Time

/-- What no call undoes: rows keep their origins, new rows get new ids, and events are not removed. -/
structure Continues (before later : Tables) : Prop where
  users : Table.Continues User.origin before.users later.users
  tokens : Table.Continues VerificationToken.origin before.tokens later.tokens
  outbox : Table.Continues OutboxEvent.origin before.outbox later.outbox
  events : ∀ id ∈ before.outbox.keys, id ∈ later.outbox.keys

theorem Continues.refl (t : Tables) : Continues t t :=
  ⟨.refl _, .refl _, .refl _, fun _ mem => mem⟩

theorem Continues.trans {t₁ t₂ t₃ : Tables} (h : Continues t₁ t₂) (h' : Continues t₂ t₃) : Continues t₁ t₃ :=
  ⟨h.users.trans h'.users, h.tokens.trans h'.tokens, h.outbox.trans h'.outbox,
    fun id mem => h'.events id (h.events id mem)⟩

theorem Continues.pushToken (t : Tables) (userId : Int) (n : NewToken) : Continues t (t.pushToken userId n) := by
  refine { Continues.refl t with tokens := ?_ }
  dsimp only [Tables.pushToken]
  exact .push _ _

theorem Continues.pushEvent (t : Tables) (userId : Int) (e : NewEvent) (now : Instant) :
    Continues t (t.pushEvent userId e now) := by
  refine { Continues.refl t with outbox := ?_, events := fun id mem => ?_ }
  · dsimp only [Tables.pushEvent]
    exact .push _ _
  · simp only [Tables.pushEvent, Table.keys_push]
    exact List.mem_append_left _ mem

theorem Change.continues {now : Instant} {t t' : Tables} {c : StoreCall} {ok : Bool} (step : Change now t c ok t') :
    Continues t t' := by
  have same := Continues.refl t
  cases step with
  | refused | read | settled => exact same
  | updateProfile named free stored => exact { same with users := .adjust _ _ (User.withProfile _ _) fun _ => rfl }
  | updatePassword known => exact ⟨same.users, same.tokens, same.outbox, same.events⟩
  | deleteUser named => exact { same with users := .filter _ _, tokens := .filter _ _ }
  | @create n hash token event unnamed free =>
    have user : Continues t (({ t with users := t.users.push (User.fresh n token.issuedAt) } : Tables).setHash
        t.users.next hash) := ⟨.push _ _, same.tokens, same.outbox, same.events⟩
    exact (user.trans (.pushToken _ _ _)).trans (.pushEvent _ _ _ _)
  | @rotate userId token event known =>
    have spent : Continues t { t with
        tokens := t.tokens.map (VerificationToken.supersede userId token.issuedAt) } := by
      refine { same with tokens := .map _ _ fun old => ?_ }
      simp only [VerificationToken.supersede]
      split <;> rfl
    exact (spent.trans (.pushToken _ _ _)).trans (.pushEvent _ _ _ _)
  | verifyWithToken stored found live =>
    exact { same with
      users := .adjust _ _ (User.markVerified _) fun _ => rfl
      tokens := .adjust _ _ (VerificationToken.spend _) fun _ => rfl }
  | updateStatus found can =>
    refine { same with outbox := ?_, events := fun id mem => ?_ }
    · exact .adjust _ _ (OutboxEvent.settle _ _) fun _ => rfl
    · simpa only [Table.keys_adjust] using mem

theorem continues_after (calls : List (Instant × StoreCall)) (t : Tables) : Continues t (after calls t) :=
  after_induction (fun step h => h.trans step.continues) calls (.refl t)

/-! ### Handing out -/

/-- The ids that calls hand out in one of the tables, one call after the other. -/
def handedOut {α β : Type} [DecidableEq β] (table : Tables → Table α) (origin : α → β) :
    List (Instant × StoreCall) → Tables → List Int
  | [], _ => []
  | (now, c) :: calls, t =>
    let next := (answer now c t).2
    Table.issued origin (table t) (table next) ++ handedOut table origin calls next

/-- No id is handed out twice, and rows have no other ids. -/
def OnceEach {α : Type} (ids : List Int) (t : Table α) : Prop := ids.Nodup ∧ ∀ id ∈ t.keys, id ∈ ids

section
variable {α β : Type} [DecidableEq β] {table : Tables → Table α} {origin : α → β} {key : α → Int}

theorem mem_keys_or_mem_issued (origin : α → β) {before later : Table α} {id : Int} (mem : id ∈ later.keys) :
    id ∈ before.keys ∨ id ∈ Table.issued origin before later := by
  by_cases old : id ∈ before.keys
  · exact .inl old
  · refine .inr (List.mem_filter.2 ⟨mem, ?_⟩)
    have absent : before.get? id = none := by
      simpa [Table.has] using mt Table.has_iff_mem_keys.1 old
    obtain ⟨a, present⟩ := Option.isSome_iff_exists.1 (Table.has_iff_mem_keys.2 mem)
    simp [absent, present]

theorem handedOut_spec (sound : ∀ {t : Tables}, t.Consistent → (table t).Sound key)
    (continues : ∀ {t t' : Tables}, Continues t t' → Table.Continues origin (table t) (table t'))
    (calls : List (Instant × StoreCall)) {t : Tables} (h : t.Consistent) :
    (handedOut table origin calls t).Nodup ∧ (∀ id ∈ handedOut table origin calls t, (table t).last < id) ∧
      ∀ id ∈ (table (after calls t)).keys, id ∈ (table t).keys ∨ id ∈ handedOut table origin calls t := by
  induction calls generalizing t with
  | nil => exact ⟨List.nodup_nil, fun id mem => absurd mem List.not_mem_nil, fun id mem => .inl mem⟩
  | cons call calls ih =>
    obtain ⟨now, c⟩ := call
    have step := answer_change now c t
    have consistent := h.change step
    have grows := continues step.continues
    obtain ⟨nodup, above, covered⟩ := ih consistent
    have first : ∀ id ∈ Table.issued origin (table t) (table (answer now c t).2),
        (table t).last < id ∧ id ≤ (table (answer now c t).2).last := fun id mem =>
      grows.of_mem_issued (sound h) (sound consistent) mem
    refine ⟨?_, fun id mem => ?_, fun id mem => ?_⟩
    · refine List.nodup_append.2 ⟨Table.issued_nodup (sound consistent), nodup, ?_⟩
      intro id early other late same
      have := (first id early).2
      have := above other late
      omega
    · rcases List.mem_append.1 mem with early | late
      · exact (first id early).1
      · exact Int.lt_of_le_of_lt grows.last_le (above id late)
    · rcases covered id mem with now_ | late
      · rcases mem_keys_or_mem_issued origin now_ with old | early
        · exact .inl old
        · exact .inr (List.mem_append_left _ early)
      · exact .inr (List.mem_append_right _ late)

theorem onceEach_handedOut (sound : ∀ {t : Tables}, t.Consistent → (table t).Sound key)
    (continues : ∀ {t t' : Tables}, Continues t t' → Table.Continues origin (table t) (table t'))
    (none : (table empty).keys = []) (calls : List (Instant × StoreCall)) :
    OnceEach (handedOut table origin calls empty) (table (after calls empty)) := by
  obtain ⟨nodup, -, covered⟩ := handedOut_spec sound continues calls consistent_empty
  refine ⟨nodup, fun id mem => ?_⟩
  rcases covered id mem with old | new
  · rw [none] at old
    exact absurd old List.not_mem_nil
  · exact new

end

/-- All that calls can make of empty tables is consistent. Ids of users, tokens and events are handed out once
each, and an event that is stored stays stored. -/
theorem reachable_consistent (calls : List (Instant × StoreCall)) :
    (after calls empty).Consistent ∧
    OnceEach (handedOut users User.origin calls empty) (after calls empty).users ∧
    OnceEach (handedOut tokens VerificationToken.origin calls empty) (after calls empty).tokens ∧
    OnceEach (handedOut outbox OutboxEvent.origin calls empty) (after calls empty).outbox ∧
    ∀ more, ∀ id ∈ (after calls empty).outbox.keys, id ∈ (after (calls ++ more) empty).outbox.keys := by
  refine ⟨consistent_after calls, ?_, ?_, ?_, fun more id mem => ?_⟩
  · exact onceEach_handedOut Consistent.users Continues.users rfl calls
  · exact onceEach_handedOut Consistent.tokens Continues.tokens rfl calls
  · exact onceEach_handedOut Consistent.outbox Continues.outbox rfl calls
  · rw [after_append]
    exact (continues_after more _).events id mem

end Accounts.Tables
