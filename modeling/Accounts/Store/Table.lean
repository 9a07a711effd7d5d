/-! Tables: rows under keys that are handed out in order and never again. -/
namespace Accounts

structure Table (α : Type) where
  /-- The last key handed out. -/
  last : Int
  rows : List (Int × α)
  deriving Repr

namespace Table
variable {α β : Type}

def empty : Table α := ⟨0, []⟩

def values (t : Table α) : List α := t.rows.map (·.2)

def get? (t : Table α) (key : Int) : Option α := t.rows.lookup key

def has (t : Table α) (key : Int) : Bool := (t.get? key).isSome

def find? (t : Table α) (p : α → Bool) : Option α := t.values.find? p

def any (t : Table α) (p : α → Bool) : Bool := t.values.any p

def next (t : Table α) : Int := t.last + 1

def push (t : Table α) (make : Int → α) : Table α := ⟨t.next, t.rows ++ [(t.next, make t.next)]⟩

theorem values_push (t : Table α) (make : Int → α) : (t.push make).values = t.values ++ [make t.next] := by
  simp [push, values]

def map (t : Table α) (f : α → β) : Table β := ⟨t.last, t.rows.map fun (k, a) => (k, f a)⟩

theorem values_map (t : Table α) (f : α → β) : (t.map f).values = t.values.map f := by
  simp [map, values]

def adjust (t : Table α) (key : Int) (f : α → α) : Table α :=
  { t with rows := t.rows.map fun (k, a) => if k = key then (k, f a) else (k, a) }

def keep (t : Table α) (p : α → Bool) : Table α := { t with rows := t.rows.filter fun (_, a) => p a }

theorem values_keep (t : Table α) (p : α → Bool) : (t.keep p).values = t.values.filter p := by
  cases t with
  | mk last rows =>
    induction rows with
    | nil => rfl
    | cons row rest ih =>
      simp only [keep, values, List.filter_cons, List.map_cons] at ih ⊢
      by_cases h : p row.2 = true <;> simp_all

def erase (t : Table α) (key : Int) : Table α := { t with rows := t.rows.filter fun (k, _) => k ≠ key }

theorem get?_adjust_self (t : Table α) (key : Int) (f : α → α) :
    (t.adjust key f).get? key = (t.get? key).map f := by
  cases t with
  | mk last rows =>
    induction rows with
    | nil => rfl
    | cons row rest ih =>
      cases row with
      | mk k a =>
        simp only [adjust, get?, List.map_cons] at ih ⊢
        by_cases h : k = key
        · simp [h]
        · have hk : (key == k) = false := by simpa using Ne.symm h
          simp only [h, if_false, List.lookup_cons, hk]
          exact ih

theorem get?_adjust_of_ne (t : Table α) {key other : Int} (f : α → α) (h : other ≠ key) :
    (t.adjust key f).get? other = t.get? other := by
  cases t with
  | mk last rows =>
    induction rows with
    | nil => rfl
    | cons row rest ih =>
      cases row with
      | mk k a =>
        simp only [adjust, get?, List.map_cons] at ih ⊢
        by_cases hk : k = key
        · subst hk
          have ho : (other == k) = false := by simpa using h
          simp only [if_true, List.lookup_cons, ho]
          exact ih
        · by_cases ho : other = k
          · simp [hk, ho]
          · have ho' : (other == k) = false := by simpa using ho
            simp only [hk, if_false, List.lookup_cons, ho']
            exact ih

theorem get?_erase_self (t : Table α) (key : Int) : (t.erase key).get? key = none := by
  cases t with
  | mk last rows =>
    induction rows with
    | nil => rfl
    | cons row rest ih =>
      cases row with
      | mk k a =>
        simp only [erase, get?, List.filter_cons] at ih ⊢
        by_cases h : k = key
        · simpa [h] using ih
        · have hk : (key == k) = false := by simpa using Ne.symm h
          simpa [h, List.lookup_cons, hk] using ih

end Table
end Accounts
