import Accounts.Store.Table
import Mathlib.Data.List.Nodup
/-! Tables in which each row names the key it is stored under. Lookup is then membership, every change of a table
is a change of its list of rows, and a key that was handed out once never comes back. -/
namespace Accounts.Table
variable {α β : Type} {key : α → Int} {origin : α → β}

def keys (t : Table α) : List Int := t.rows.map (·.1)

theorem has_iff_mem_keys {t : Table α} {k : Int} : t.has k = true ↔ k ∈ t.keys := by
  simp only [has, get?, keys, List.lookup_isSome_iff, List.mem_map, beq_iff_eq]
  constructor
  · rintro ⟨row, mem, rfl⟩
    exact ⟨row, mem, rfl⟩
  · rintro ⟨row, mem, rfl⟩
    exact ⟨row, mem, rfl⟩

theorem keys_push (t : Table α) (make : Int → α) : (t.push make).keys = t.keys ++ [t.next] := by
  simp [keys, push]

theorem has_push_next (t : Table α) (make : Int → α) : (t.push make).has t.next = true := by
  rw [has_iff_mem_keys, keys_push]
  exact List.mem_append_right _ (List.mem_singleton_self _)

theorem keys_map (t : Table α) (f : α → β) : (t.map f).keys = t.keys := by
  simp [keys, map, Function.comp_def]

theorem keys_adjust (t : Table α) (k : Int) (f : α → α) : (t.adjust k f).keys = t.keys := by
  simp only [keys, adjust, List.map_map]
  apply List.map_congr_left
  intro row mem
  by_cases at_ : row.1 = k <;> simp [at_]

theorem mem_keys_erase {t : Table α} {k other : Int} : other ∈ (t.erase k).keys ↔ other ≠ k ∧ other ∈ t.keys := by
  simp only [keys, erase, List.mem_map, List.mem_filter]
  constructor
  · rintro ⟨row, ⟨mem, ne⟩, rfl⟩
    exact ⟨by simpa using ne, row, mem, rfl⟩
  · rintro ⟨ne, row, mem, rfl⟩
    exact ⟨row, ⟨mem, by simpa using ne⟩, rfl⟩

theorem lookup_filter_ne (rows : List (Int × α)) {k other : Int} (ne : other ≠ k) :
    (rows.filter fun (k', _) => k' ≠ k).lookup other = rows.lookup other := by
  induction rows with
  | nil => rfl
  | cons row rest ih =>
    obtain ⟨k', a⟩ := row
    by_cases at_ : k' = k
    · have apart : (other == k') = false := by simpa [at_] using ne
      rw [List.filter_cons_of_neg (by simpa using at_), ih, List.lookup_cons, apart]
    · rw [List.filter_cons_of_pos (by simpa using at_), List.lookup_cons, List.lookup_cons, ih]

theorem lookup_filter_self (rows : List (Int × α)) (k : Int) : (rows.filter fun (k', _) => k' ≠ k).lookup k = none := by
  rw [List.lookup_eq_none_iff]
  intro row mem
  have ne : row.1 ≠ k := by simpa using (List.mem_filter.1 mem).2
  simpa using Ne.symm ne

theorem filter_ne_of_notMem {rows : List (Int × α)} {k : Int} (absent : k ∉ rows.map (·.1)) :
    (rows.filter fun (k', _) => k' ≠ k) = rows := by
  refine List.filter_eq_self.2 fun row mem => ?_
  have other : row.1 ≠ k := fun same => absent (List.mem_map.2 ⟨row, mem, same⟩)
  simpa using other

theorem get?_erase_of_ne (t : Table α) {k other : Int} (ne : other ≠ k) : (t.erase k).get? other = t.get? other :=
  lookup_filter_ne t.rows ne

theorem get?_map (t : Table α) (f : α → β) (k : Int) : (t.map f).get? k = (t.get? k).map f := by
  simp only [get?, map]
  induction t.rows with
  | nil => rfl
  | cons row rows ih =>
    obtain ⟨other, a⟩ := row
    by_cases at_ : k = other
    · simp [at_]
    · have ne : (k == other) = false := by simpa using at_
      simpa only [List.map_cons, List.lookup_cons, ne] using ih

/-- The only row with a value that all rows differ in. -/
theorem filter_eq_singleton [DecidableEq β] {f : α → β} {l : List α} {a : α} (nodup : (l.map f).Nodup) (mem : a ∈ l) :
    (l.filter fun b => f b = f a) = [a] := by
  induction l with
  | nil => cases mem
  | cons b l ih =>
    obtain ⟨fresh, rest⟩ := List.nodup_cons.1 nodup
    rcases List.mem_cons.1 mem with rfl | later
    · have others : (l.filter fun c => f c = f a) = [] := by
        refine List.filter_eq_nil_iff.2 fun c stored same => fresh ?_
        exact List.mem_map.2 ⟨c, stored, of_decide_eq_true same⟩
      rw [List.filter_cons_of_pos (by simp), others]
    · have differs : f b ≠ f a := fun same => fresh (List.mem_map.2 ⟨a, later, same.symm⟩)
      rw [List.filter_cons_of_neg (by simpa using differs), ih rest later]

theorem keep_eq_self {t : Table α} {p : α → Bool} (all : ∀ a ∈ t.values, p a = true) : t.keep p = t := by
  have rows : (t.rows.filter fun (_, a) => p a) = t.rows :=
    List.filter_eq_self.2 fun row mem => all row.2 (List.mem_map_of_mem mem)
  rw [keep, rows]

theorem get?_push {t : Table α} {k : Int} {a : α} (make : Int → α) (found : t.get? k = some a) :
    (t.push make).get? k = some a := by
  simp only [get?, push] at found ⊢
  simp [List.lookup_append, found]

theorem get?_of_push {t : Table α} {k : Int} {a : α} {make : Int → α} (found : (t.push make).get? k = some a) :
    t.get? k = some a ∨ k = t.next ∧ a = make t.next := by
  simp only [get?, push, List.lookup_append] at found ⊢
  rcases old : t.rows.lookup k with _ | b
  · rw [old, Option.none_or] at found
    by_cases new : k = t.next
    · subst new
      simp only [List.lookup_cons_self, Option.some.injEq] at found
      exact .inr ⟨rfl, found.symm⟩
    · have ne : (k == t.next) = false := by simpa using new
      simp [List.lookup_cons, ne] at found
  · rw [old, Option.some_or] at found
    exact .inl found

/-! ### Rows in another form

Every edit commutes with a change of the form of all rows. -/

theorem find?_map (t : Table α) (f : α → β) (p : β → Bool) :
    (t.map f).find? p = (t.find? fun a => p (f a)).map f := by
  rw [find?, values_map, List.find?_map]
  rfl

theorem any_map (t : Table α) (f : α → β) (p : β → Bool) : (t.map f).any p = t.any fun a => p (f a) := by
  rw [any, values_map, List.any_map]
  rfl

theorem map_push (t : Table α) (f : α → β) (make : Int → α) :
    (t.push make).map f = (t.map f).push fun k => f (make k) := by
  simp [map, push, next]

theorem map_map (t : Table α) {f : α → β} {g : α → α} {g' : β → β} (same : ∀ a, f (g a) = g' (f a)) :
    (t.map g).map f = (t.map f).map g' := by
  simp [map, same]

theorem map_adjust (t : Table α) {f : α → β} {g : α → α} {g' : β → β} (k : Int) (same : ∀ a, f (g a) = g' (f a)) :
    (t.adjust k g).map f = (t.map f).adjust k g' := by
  simp only [map, adjust, List.map_map, Table.mk.injEq, true_and]
  apply List.map_congr_left
  intro row mem
  by_cases at_ : row.1 = k <;> simp [at_, same]

/-- A column that the change leaves alone. -/
theorem map_values_adjust (t : Table α) (k : Int) {f : α → α} {g : α → β} (same : ∀ a, g (f a) = g a) :
    (t.adjust k f).values.map g = t.values.map g := by
  simp only [values, adjust, List.map_map]
  refine List.map_congr_left fun row _ => ?_
  simp only [Function.comp]
  split
  · exact same row.2
  · rfl

theorem map_keep (t : Table α) {f : α → β} {p : α → Bool} {q : β → Bool} (same : ∀ a, p a = q (f a)) :
    (t.keep p).map f = (t.map f).keep q := by
  simp only [map, keep, List.filter_map, Table.mk.injEq, true_and]
  congr 1
  exact List.filter_congr fun row _ => same row.2

/-! ### Rows that name their keys -/

/-- Keys are distinct, lie between 1 and the last one handed out, and are those that the rows name. -/
structure Sound (key : α → Int) (t : Table α) : Prop where
  last_nonneg : 0 ≤ t.last
  nodup : t.keys.Nodup
  within : ∀ k ∈ t.keys, 1 ≤ k ∧ k ≤ t.last
  named : ∀ row ∈ t.rows, key row.2 = row.1

theorem sound_empty : (empty : Table α).Sound key where
  last_nonneg := Int.le_refl 0
  nodup := List.nodup_nil
  within _ mem := absurd mem List.not_mem_nil
  named _ mem := absurd mem List.not_mem_nil

namespace Sound
variable {t : Table α} {k : Int} {a : α}

theorem keys_eq (h : t.Sound key) : t.keys = t.values.map key := by
  simp only [keys, values, List.map_map]
  apply List.map_congr_left
  intro row mem
  exact (h.named row mem).symm

theorem mem_keys_iff (h : t.Sound key) : k ∈ t.keys ↔ ∃ a ∈ t.values, key a = k := by
  rw [h.keys_eq, List.mem_map]

theorem get?_eq_some_iff (h : t.Sound key) : t.get? k = some a ↔ a ∈ t.values ∧ key a = k := by
  constructor
  · intro found
    obtain ⟨before, after, rows, -⟩ := List.lookup_eq_some_iff.1 found
    have mem : (k, a) ∈ t.rows := by simp [rows]
    exact ⟨List.mem_map_of_mem mem, h.named _ mem⟩
  · rintro ⟨mem, rfl⟩
    obtain ⟨⟨k, b⟩, row, rfl⟩ := List.mem_map.1 mem
    obtain rfl : key b = k := h.named _ row
    obtain ⟨before, after, rows⟩ := List.append_of_mem row
    have nodup := h.nodup
    rw [keys, rows, List.map_append, List.map_cons] at nodup
    have first := (List.nodup_middle.1 nodup).notMem
    refine List.lookup_eq_some_iff.2 ⟨before, after, rows, fun row earlier => ?_⟩
    have ne : key b ≠ row.1 := by
      intro same
      rw [same] at first
      exact first (List.mem_append_left _ (List.mem_map.2 ⟨row, earlier, rfl⟩))
    simpa using ne

theorem eq_of_key_eq (h : t.Sound key) {b : α} (ha : a ∈ t.values) (hb : b ∈ t.values)
    (same : key a = key b) : a = b := by
  have nodup := h.nodup
  rw [h.keys_eq] at nodup
  exact List.inj_on_of_nodup_map nodup ha hb same

theorem le_last (h : t.Sound key) (ha : a ∈ t.values) : key a ≤ t.last := by
  have mem : key a ∈ t.keys := h.keys_eq ▸ List.mem_map_of_mem ha
  exact (h.within _ mem).2

/-- A key that has not been handed out is in no row. -/
theorem key_ne_next (h : t.Sound key) (ha : a ∈ t.values) : key a ≠ t.next := by
  have := h.le_last ha
  simp only [next]
  omega

theorem get?_next (h : t.Sound key) : t.get? t.next = none := by
  refine Option.eq_none_iff_forall_not_mem.2 fun a found => ?_
  obtain ⟨mem, named⟩ := h.get?_eq_some_iff.1 found
  exact h.key_ne_next mem named

theorem push (h : t.Sound key) (make : Int → α) (named : ∀ k, key (make k) = k) : (t.push make).Sound key where
  last_nonneg := by
    have := h.last_nonneg
    simp only [Table.push, next]
    omega
  nodup := by
    rw [keys_push]
    refine List.nodup_append.2 ⟨h.nodup, List.nodup_singleton _, ?_⟩
    intro old mem new fresh same
    have := (h.within old mem).2
    simp only [List.mem_singleton, next] at fresh
    omega
  within k mem := by
    have := h.last_nonneg
    rw [keys_push, List.mem_append, List.mem_singleton] at mem
    simp only [Table.push, next] at mem ⊢
    rcases mem with mem | rfl
    · have := h.within k mem
      omega
    · omega
  named row mem := by
    simp only [Table.push, List.mem_append, List.mem_singleton] at mem
    rcases mem with mem | rfl
    · exact h.named row mem
    · exact named _

/-- Fewer rows, or other ones under the same keys. -/
theorem of_sublist (h : t.Sound key) {t' : Table α} (last : t'.last = t.last) (sub : t'.keys.Sublist t.keys)
    (named : ∀ row ∈ t'.rows, key row.2 = row.1) : t'.Sound key where
  last_nonneg := last ▸ h.last_nonneg
  nodup := h.nodup.sublist sub
  within k mem := last ▸ h.within k (sub.subset mem)
  named := named

theorem map (h : t.Sound key) (f : α → α) (same : ∀ a, key (f a) = key a) : (t.map f).Sound key := by
  refine h.of_sublist rfl (by rw [keys_map]) fun row mem => ?_
  obtain ⟨old, stored, rfl⟩ := List.mem_map.1 mem
  exact (same old.2).trans (h.named old stored)

theorem adjust (h : t.Sound key) (k : Int) (f : α → α) (same : ∀ a, key (f a) = key a) :
    (t.adjust k f).Sound key := by
  refine h.of_sublist rfl (by rw [keys_adjust]) fun row mem => ?_
  obtain ⟨old, stored, rfl⟩ := List.mem_map.1 mem
  by_cases at_ : old.1 = k
  · simpa [at_, same] using h.named old stored
  · simpa [at_] using h.named old stored

theorem filter (h : t.Sound key) (p : Int × α → Bool) : ({ t with rows := t.rows.filter p } : Table α).Sound key :=
  h.of_sublist rfl (List.filter_sublist.map _) fun row mem => h.named row (List.mem_filter.1 mem).1

theorem keep (h : t.Sound key) (p : α → Bool) : (t.keep p).Sound key := h.filter _

theorem erase (h : t.Sound key) (k : Int) : (t.erase k).Sound key := h.filter _

theorem values_adjust (h : t.Sound key) (k : Int) (f : α → α) :
    (t.adjust k f).values = t.values.map fun a => if key a = k then f a else a := by
  simp only [values, Table.adjust, List.map_map]
  apply List.map_congr_left
  intro row mem
  by_cases at_ : row.1 = k <;> simp [h.named row mem, at_]

/-- Only what the change makes of the row under that key matters. -/
theorem adjust_congr (h : t.Sound key) (found : t.get? k = some a) {f g : α → α} (same : f a = g a) :
    t.adjust k f = t.adjust k g := by
  obtain ⟨mem, named⟩ := h.get?_eq_some_iff.1 found
  simp only [Table.adjust, Table.mk.injEq, true_and]
  refine List.map_congr_left fun row stored => ?_
  by_cases at_ : row.1 = k
  · have own : row.2 = a := by
      refine h.eq_of_key_eq (List.mem_map_of_mem stored) mem ?_
      rw [named, ← at_]
      exact h.named row stored
    simp [at_, own, same]
  · simp [at_]

/-- What holds of all rows before, and of the changed one, holds of all rows after. -/
theorem forall_adjust (h : t.Sound key) {k : Int} {f : α → α} {P : α → Prop} (old : ∀ a ∈ t.values, P a)
    (new : ∀ a ∈ t.values, key a = k → P (f a)) : ∀ a ∈ (t.adjust k f).values, P a := by
  rw [h.values_adjust]
  intro a mem
  obtain ⟨b, stored, rfl⟩ := List.mem_map.1 mem
  by_cases at_ : key b = k
  · simpa [at_] using new b stored at_
  · simpa [at_] using old b stored

theorem values_erase (h : t.Sound key) (k : Int) : (t.erase k).values = t.values.filter fun a => key a ≠ k := by
  simp only [values, Table.erase, List.filter_map]
  congr 1
  apply List.filter_congr
  intro row mem
  simp [h.named row mem]

end Sound

/-! ### What a table becomes -/

/-- Every later row is an earlier one, changed only in what is not its origin, or has a key that was handed out
in between. -/
structure Continues (origin : α → β) (before after : Table α) : Prop where
  last_le : before.last ≤ after.last
  rows : ∀ row ∈ after.rows, (∃ old ∈ before.rows, old.1 = row.1 ∧ origin old.2 = origin row.2) ∨
    (before.last < row.1 ∧ row.1 ≤ after.last)

namespace Continues
variable {t : Table α}

theorem refl (t : Table α) : Continues origin t t where
  last_le := Int.le_refl _
  rows row mem := .inl ⟨row, mem, rfl, rfl⟩

theorem push (t : Table α) (make : Int → α) : Continues origin t (t.push make) where
  last_le := by
    simp only [Table.push, next]
    omega
  rows row mem := by
    simp only [Table.push, List.mem_append, List.mem_singleton] at mem
    rcases mem with mem | rfl
    · exact .inl ⟨row, mem, rfl, rfl⟩
    · right
      simp only [Table.push, next]
      omega

theorem map (t : Table α) (f : α → α) (same : ∀ a, origin (f a) = origin a) : Continues origin t (t.map f) where
  last_le := Int.le_refl _
  rows row mem := by
    obtain ⟨old, stored, rfl⟩ := List.mem_map.1 mem
    exact .inl ⟨old, stored, rfl, (same old.2).symm⟩

theorem adjust (t : Table α) (k : Int) (f : α → α) (same : ∀ a, origin (f a) = origin a) :
    Continues origin t (t.adjust k f) where
  last_le := Int.le_refl _
  rows row mem := by
    obtain ⟨old, stored, rfl⟩ := List.mem_map.1 mem
    refine .inl ⟨old, stored, ?_⟩
    by_cases at_ : old.1 = k <;> simp [at_, same]

theorem filter (t : Table α) (p : Int × α → Bool) :
    Continues origin t { t with rows := t.rows.filter p } where
  last_le := Int.le_refl _
  rows row mem := .inl ⟨row, (List.mem_filter.1 mem).1, rfl, rfl⟩

theorem trans {t₁ t₂ t₃ : Table α} (h : Continues origin t₁ t₂) (h' : Continues origin t₂ t₃) :
    Continues origin t₁ t₃ where
  last_le := Int.le_trans h.last_le h'.last_le
  rows row mem := by
    rcases h'.rows row mem with ⟨mid, mem, key_eq, origin_eq⟩ | new
    · rcases h.rows mid mem with ⟨old, mem, key_eq', origin_eq'⟩ | new
      · exact .inl ⟨old, mem, key_eq'.trans key_eq, origin_eq'.trans origin_eq⟩
      · exact .inr ⟨key_eq ▸ new.1, key_eq ▸ Int.le_trans new.2 h'.last_le⟩
    · exact .inr ⟨Int.lt_of_le_of_lt h.last_le new.1, new.2⟩

theorem mem_values {t' : Table α} (h : Continues origin t t') (sound : t.Sound key) (later : t'.Sound key) {a : α}
    (mem : a ∈ t'.values) :
    (∃ old ∈ t.values, key old = key a ∧ origin old = origin a) ∨ t.last < key a ∧ key a ≤ t'.last := by
  obtain ⟨row, there, rfl⟩ := List.mem_map.1 mem
  have named := later.named row there
  rcases h.rows row there with ⟨old, stored, same, kept⟩ | new
  · exact .inl ⟨old.2, List.mem_map_of_mem stored, (sound.named old stored).trans (same.trans named.symm), kept⟩
  · exact .inr (named.symm ▸ new)

/-- A row that was there before is the same as before, but for what may change. -/
theorem origin_eq {t' : Table α} (h : Continues origin t t') (sound : t.Sound key) (later : t'.Sound key) {old a : α}
    (there : old ∈ t.values) (mem : a ∈ t'.values) (same : key old = key a) : origin old = origin a := by
  rcases h.mem_values sound later mem with ⟨first, stored, named, kept⟩ | ⟨late, -⟩
  · obtain rfl := sound.eq_of_key_eq stored there (named.trans same.symm)
    exact kept
  · have := sound.le_last there
    omega

/-- A key that was handed out before is in a row only if it was in one then. -/
theorem mem_keys {t' : Table α} (h : Continues origin t t') {k : Int} (early : k ≤ t.last) (mem : k ∈ t'.keys) :
    k ∈ t.keys := by
  obtain ⟨row, there, rfl⟩ := List.mem_map.1 mem
  rcases h.rows row there with ⟨old, stored, same, -⟩ | ⟨late, -⟩
  · exact List.mem_map.2 ⟨old, stored, same⟩
  · omega

end Continues

/-- The keys under which a row stands that did not stand there before. -/
def issued [DecidableEq β] (origin : α → β) (before after : Table α) : List Int :=
  after.keys.filter fun k => (after.get? k).map origin ≠ (before.get? k).map origin

theorem issued_nodup [DecidableEq β] {before after : Table α} (h : after.Sound key) :
    (issued origin before after).Nodup :=
  h.nodup.filter _

/-- Such a key was handed out in between. -/
theorem Continues.of_mem_issued [DecidableEq β] {before after : Table α} (c : Continues origin before after)
    (hb : before.Sound key) (ha : after.Sound key) {k : Int} (mem : k ∈ issued origin before after) :
    before.last < k ∧ k ≤ after.last := by
  obtain ⟨mem, differ⟩ := List.mem_filter.1 mem
  obtain ⟨⟨k, a⟩, row, rfl⟩ := List.mem_map.1 mem
  rcases c.rows _ row with ⟨⟨k', b⟩, old, rfl, same⟩ | new
  · have now : after.get? k' = some a :=
      ha.get?_eq_some_iff.2 ⟨List.mem_map_of_mem row, ha.named _ row⟩
    have then_ : before.get? k' = some b :=
      hb.get?_eq_some_iff.2 ⟨List.mem_map_of_mem old, hb.named _ old⟩
    simp only [now, then_, Option.map_some, ne_eq, Option.some.injEq, decide_eq_true_eq] at differ
    exact absurd same.symm differ
  · exact new

end Accounts.Table
