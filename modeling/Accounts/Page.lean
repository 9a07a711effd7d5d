import Accounts.Json.Record
/-! Which part of a list is asked for. -/
namespace Accounts
open Json

structure Page where
  number : Nat
  size : Nat
  deriving DecidableEq, Repr

namespace Page

def default : Page := ⟨1, 20⟩

def maxSize : Nat := 100

/-- Page 0 is page 1; size 0 is the default size, and no page is larger than `maxSize`. -/
def clamped (p : Page) : Page :=
  ⟨max p.number 1, if p.size = 0 then default.size else min p.size maxSize⟩

theorem clamped_number_pos (p : Page) : 0 < p.clamped.number := Nat.le_max_right p.number 1

theorem clamped_size_pos (p : Page) : 0 < p.clamped.size := by
  simp only [clamped]
  by_cases h : p.size = 0
  · simp [h, default]
  · simp only [h, if_false, maxSize]
    omega

theorem clamped_size_le (p : Page) : p.clamped.size ≤ maxSize := by
  simp only [clamped]
  by_cases h : p.size = 0
  · simp [h, default, maxSize]
  · simp only [h, if_false]
    exact Nat.min_le_right p.size maxSize

def offset (p : Page) : Nat := (p.number - 1) * p.size

def slice {α : Type} (p : Page) (xs : List α) : List α := (xs.drop p.offset).take p.size

def natural32 : Reader Nat := (Reader.integer 0 4294967295).map Int.toNat

def fields :=
  Record.cons (.withDefault "page" natural32 default.number) <|
  .cons (.withDefault "page_size" natural32 default.size) .nil

def ofJson? (text : Bytes) : Option Page :=
  match fields.parse text with
  | .ok (number, size, _) => some ⟨number, size⟩
  | .error _ => none

end Page
end Accounts
