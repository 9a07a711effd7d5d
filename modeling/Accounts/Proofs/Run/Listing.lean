import Accounts.Proofs.Run.UseCase
import Accounts.Proofs.Store.Ids
/-! Lists of users, page by page. Main statement: one after the other the pages hold every user once, in the order of
the names, and nothing is lost when machine words reckon where a page starts. -/
namespace Accounts
open Time

/-! ### The order of texts -/

theorem textLe_trans (a b c : String) (ab : textLe a b = true) (bc : textLe b c = true) : textLe a c = true := by
  simp only [textLe, decide_eq_true_eq] at ab bc ⊢
  exact List.le_trans ab bc

theorem textLe_total (a b : String) : (textLe a b || textLe b a) = true := by
  simp only [textLe, Bool.or_eq_true, decide_eq_true_eq]
  exact List.le_total _ _

/-- Different texts are told apart by their bytes. -/
theorem lt_of_textLe {a b : String} (le : textLe a b = true) (ne : a ≠ b) : Bytes.ofText a < Bytes.ofText b := by
  simp only [textLe, decide_eq_true_eq] at le
  exact Std.lt_of_le_of_ne le fun same => ne (Bytes.ofText_inj same)

/-! ### Pages -/

namespace Page
variable {α : Type}

/-- How many pages of this size it takes. -/
def count (total size : Nat) : Nat := (total + size - 1) / size

theorem le_mul_of_count_le {total size number : Nat} (pos : 0 < size) (enough : count total size ≤ number) :
    total ≤ number * size := by
  have below : (total + size - 1) / size < number + 1 := Nat.lt_succ_of_le enough
  rw [Nat.div_lt_iff_lt_mul pos, Nat.succ_mul] at below
  omega

theorem slice_of_count_lt {xs : List α} {size number : Nat} (pos : 0 < size) (past : count xs.length size < number) :
    slice ⟨number, size⟩ xs = [] := by
  have beyond : xs.length ≤ (number - 1) * size := le_mul_of_count_le pos (by omega)
  rw [slice, offset, List.drop_eq_nil_of_le beyond, List.take_nil]

/-- The first pages hold the first rows. -/
theorem flatMap_slice (xs : List α) (size n : Nat) :
    ((List.range' 1 n).flatMap fun number => slice ⟨number, size⟩ xs) = xs.take (n * size) := by
  induction n with
  | zero => simp
  | succ n ih =>
    have last : slice ⟨1 + n, size⟩ xs = (xs.drop (n * size)).take size := by
      rw [slice, offset, Nat.add_sub_cancel_left]
    rw [List.range'_1_concat, List.flatMap_append, ih, List.flatMap_singleton, last, Nat.succ_mul, List.take_add]

theorem flatMap_slice_all (xs : List α) {size : Nat} (pos : 0 < size) :
    ((List.range' 1 (count xs.length size)).flatMap fun number => slice ⟨number, size⟩ xs) = xs := by
  rw [flatMap_slice, List.take_of_length_le (le_mul_of_count_le pos (Nat.le_refl _))]

/-- The same where page 0 is the first one. -/
theorem flatMap_slice_max (xs : List α) {size : Nat} (pos : 0 < size) :
    ((List.range' 1 (count xs.length size)).flatMap fun number => slice ⟨max number 1, size⟩ xs) = xs := by
  refine .trans (List.flatMap_congr fun number mem => ?_) (flatMap_slice_all xs pos)
  rw [Nat.max_eq_left (List.mem_range'_1.1 mem).1]

/-! ### In machine words -/

/-- A page as a request asks for it, in words of 32 bits. -/
def ofWords (number size : UInt32) : Page := ⟨number.toNat, size.toNat⟩

def clampedNumber (number : UInt32) : UInt32 := max number 1

def clampedSize (size : UInt32) : UInt32 := if size = 0 then 20 else min size 100

/-- The subtraction is one of 32 bits, the product one of 64. -/
def wordOffset (number size : UInt32) : UInt64 :=
  (clampedNumber number - 1).toUInt64 * (clampedSize size).toUInt64

variable (number size : UInt32)

theorem toNat_clampedNumber : (clampedNumber number).toNat = (ofWords number size).clamped.number := by
  change (if number ≤ 1 then 1 else number : UInt32).toNat = if number.toNat ≤ 1 then 1 else number.toNat
  exact apply_ite UInt32.toNat ..

theorem toNat_clampedSize : (clampedSize size).toNat = (ofWords number size).clamped.size := by
  have least : (min size 100 : UInt32).toNat = min size.toNat 100 := apply_ite UInt32.toNat ..
  rw [clampedSize, apply_ite UInt32.toNat, least]
  simp only [← UInt32.toNat_inj]
  rfl

theorem clamped_number_lt : (ofWords number size).clamped.number < UInt32.size := by
  rw [← toNat_clampedNumber number size]
  exact UInt32.toNat_lt_size _

/-- Where a page starts takes 39 bits at most. -/
theorem offset_clamped_lt {width : Nat} (wide : 39 ≤ width) :
    (ofWords number size).clamped.offset < Nat.pow 2 width := by
  have last : (ofWords number size).clamped.number - 1 ≤ UInt32.size :=
    Nat.le_trans (Nat.sub_le _ _) (Nat.le_of_lt (clamped_number_lt number size))
  calc (ofWords number size).clamped.offset
      ≤ UInt32.size * 100 := Nat.mul_le_mul last (clamped_size_le _)
    _ < Nat.pow 2 39 := by decide
    _ ≤ Nat.pow 2 width := Nat.pow_le_pow_right (by decide) wide

theorem toNat_wordOffset : (wordOffset number size).toNat = (ofWords number size).clamped.offset := by
  have first : (1 : UInt32) ≤ clampedNumber number := by
    rw [UInt32.le_iff_toNat_le, toNat_clampedNumber number size]
    exact clamped_number_pos _
  rw [wordOffset, UInt64.toNat_mul, UInt32.toNat_toUInt64, UInt32.toNat_toUInt64, UInt32.toNat_sub_of_le _ _ first,
    toNat_clampedNumber number size, toNat_clampedSize number size]
  exact Nat.mod_eq_of_lt (offset_clamped_lt number size (by decide))

/-- Nothing is lost when it is cast to a word that has room for it. -/
theorem toNat_cast_wordOffset {width : Nat} (wide : 39 ≤ width) :
    ((wordOffset number size).toBitVec.setWidth width).toNat = (ofWords number size).clamped.offset := by
  rw [BitVec.toNat_setWidth, UInt64.toNat_toBitVec, toNat_wordOffset]
  exact Nat.mod_eq_of_lt (offset_clamped_lt number size wide)

end Page

/-! ### Users -/

namespace Tables
variable {t : Tables}

/-- All users, by name. -/
def sortedUsers (t : Tables) : List User := t.users.values.mergeSort fun a b => textLe a.username b.username

theorem sortedUsers_perm (t : Tables) : t.sortedUsers.Perm t.users.values := List.mergeSort_perm _ _

theorem length_sortedUsers (t : Tables) : t.sortedUsers.length = t.users.values.length := t.sortedUsers_perm.length_eq

theorem Consistent.sortedUsers_strict (h : t.Consistent) :
    (t.sortedUsers.map fun u => Bytes.ofText u.username).Pairwise (· < ·) := by
  have sorted : t.sortedUsers.Pairwise fun a b => textLe a.username b.username = true :=
    List.pairwise_mergeSort (fun a b c => textLe_trans a.username b.username c.username)
      (fun a b => textLe_total a.username b.username) _
  have distinct : t.sortedUsers.Pairwise fun a b => a.username ≠ b.username :=
    List.pairwise_map.1 ((t.sortedUsers_perm.map User.username).nodup_iff.2 h.usernames)
  rw [List.pairwise_map]
  exact (sorted.and distinct).imp fun ⟨le, ne⟩ => lt_of_textLe le ne

end Tables

theorem UseCase.perform_listUsers {issuer : Issuer} {now : Instant} {mail : MailAction} {t : Tables}
    {denied : Issuer.DenyList} (page : Page) : perform issuer now mail (.listUsers page) ⟨.memory t, denied⟩ =
      (.ok ⟨page.clamped.slice t.sortedUsers, t.users.values.length, page.clamped⟩, ⟨.memory t, denied⟩) := by
  rw [← t.length_sortedUsers]
  rfl

/-- Whatever size is asked for, the pages from the first to the last that it takes hold all users one after the
other, each once, in strict order of the names; the pages after them are empty, page 0 is the first one, and each tells
the number of all users and which page it is. No word that the place of a page is reckoned in overflows. -/
theorem pages_partition_users (issuer : Issuer) (now : Instant) (mail : MailAction)
    (calls : List (Instant × StoreCall)) (denied : Issuer.DenyList) (size : Nat) :
    let t := Tables.after calls .empty
    let total := t.users.values.length
    let taken := (Page.clamped ⟨1, size⟩).size
    (∃ part : Nat → List User,
      (∀ number, UseCase.perform issuer now mail (.listUsers ⟨number, size⟩) ⟨.memory t, denied⟩ =
        (.ok ⟨part number, total, Page.clamped ⟨number, size⟩⟩, ⟨.memory t, denied⟩)) ∧
      ((List.range' 1 (Page.count total taken)).flatMap part).Perm t.users.values ∧
      (((List.range' 1 (Page.count total taken)).flatMap part).map fun u => Bytes.ofText u.username).Pairwise (· < ·) ∧
      (∀ number, Page.count total taken < number → part number = []) ∧ part 0 = part 1) ∧
    ∀ number size : UInt32, let page := (Page.ofWords number size).clamped
      1 ≤ page.number ∧ page.number < UInt32.size ∧ (Page.wordOffset number size).toNat = page.offset ∧
      ∀ width, 39 ≤ width → ((Page.wordOffset number size).toBitVec.setWidth width).toNat = page.offset := by
  intro t total taken
  have consistent : t.Consistent := Tables.consistent_after calls
  have pos : 0 < taken := Page.clamped_size_pos ⟨1, size⟩
  have whole : (List.range' 1 (Page.count total taken)).flatMap
      (fun number => Page.slice ⟨max number 1, taken⟩ t.sortedUsers) = t.sortedUsers := by
    have given := Page.flatMap_slice_max t.sortedUsers pos
    rwa [t.length_sortedUsers] at given
  refine ⟨⟨fun number => Page.slice ⟨max number 1, taken⟩ t.sortedUsers, fun number => UseCase.perform_listUsers _,
    ?_, ?_, fun number past => ?_, rfl⟩, fun number size => ?_⟩
  · rw [whole]
    exact t.sortedUsers_perm
  · rw [whole]
    exact consistent.sortedUsers_strict
  · dsimp only
    rw [Nat.max_eq_left (Nat.one_le_of_lt past)]
    exact Page.slice_of_count_lt pos (t.length_sortedUsers ▸ past)
  · exact ⟨Page.clamped_number_pos _, Page.clamped_number_lt number size, Page.toNat_wordOffset number size,
      fun width wide => Page.toNat_cast_wordOffset number size wide⟩

end Accounts
