import Accounts.Proofs.Text.Decimal
import Accounts.Proofs.Time.Calendar
import Accounts.Time.Lenient
/-! Timestamps that are read again. Main statement: from its text a timestamp is read with whole milliseconds, whatever
its year and also inside a leap second. -/
namespace Accounts
open Decimal

theorem isBlank_of_isDigit {c : Char} (digit : c.isDigit = true) : isBlank c = false := by
  have range : 48 ≤ c.toNat ∧ c.toNat ≤ 57 := by simpa [Char.isDigit, UInt32.le_iff_toNat_le] using digit
  rw [Bool.eq_false_iff]
  intro blank
  simp only [isBlank, Bool.or_eq_true, Bool.and_eq_true, decide_eq_true_eq] at blank
  omega

theorem dropBlanks_cons {c : Char} (cs : List Char) (visible : isBlank c = false) : dropBlanks (c :: cs) = c :: cs :=
  List.dropWhile_cons_of_neg (by simp [visible])

theorem dropBlanks_padded (width n : Nat) (rest : List Char) :
    dropBlanks ((padded width n).toList ++ rest) = (padded width n).toList ++ rest := by
  obtain ⟨c, cs, digits, first⟩ := exists_padded_cons width n
  rw [digits]
  exact dropBlanks_cons _ (isBlank_of_isDigit first)

namespace Time

/-! ### Timestamps -/

namespace Timestamp

theorem isValid_iff {t : Timestamp} : t.isValid = true ↔ (least ≤ t.seconds ∧ t.seconds ≤ greatest) ∧
    (t.nanos < 1000000000 ∨ t.nanos < 2000000000 ∧ t.seconds % 60 = 59) := by
  simp [isValid]

theorem isValid_truncated {t : Timestamp} (valid : t.isValid = true) : t.truncated.isValid = true := by
  rw [isValid_iff] at valid ⊢
  simp only [truncated]
  omega

theorem truncated_truncated (t : Timestamp) : t.truncated.truncated = t.truncated := by
  have whole : t.nanos / 1000000 * 1000000 / 1000000 * 1000000 = t.nanos / 1000000 * 1000000 := by omega
  simp only [truncated, whole]

theorem isValid_of_of? {seconds : Int} {nanos : Nat} {t : Timestamp} (h : of? seconds nanos = some t) :
    t.isValid = true := by
  unfold of? at h
  split at h
  · next valid =>
    cases h
    exact valid
  · cases h

end Timestamp

namespace Lenient

theorem isValid_of_parse? {s : String} {t : Timestamp} (h : parse? s = some t) : t.isValid = true := by
  simp only [parse?, Option.bind_eq_bind, Option.bind_eq_some_iff] at h
  obtain ⟨⟨date, cs⟩, -, h⟩ := h
  cases cs with
  | nil => cases h
  | cons c cs =>
    dsimp only at h
    split at h
    · cases h
    · obtain ⟨⟨second, nanos, cs⟩, -, h⟩ := Option.bind_eq_some_iff.1 h
      obtain ⟨⟨offset, cs⟩, -, h⟩ := Option.bind_eq_some_iff.1 h
      dsimp only at h
      split at h
      · cases h
      · split at h
        · exact Timestamp.isValid_of_of? h
        · cases h

/-! ### Numbers -/

section
variable {width n : Nat} {rest : List Char}

theorem digits?_of_taken {limit : Option Nat} {cs ds : List Char} (taken : (match limit with
      | some most => (cs.takeWhile Char.isDigit).take most
      | none => cs.takeWhile Char.isDigit) = ds) (some_ : ds.isEmpty = false) :
    digits? limit cs = some (Nat.ofDigitChars 10 ds 0, ds.length, cs.drop ds.length) := by
  have value : ds.foldl (fun n c => n * 10 + (c.toNat - '0'.toNat)) 0 = Nat.ofDigitChars 10 ds 0 := by
    simp only [Nat.ofDigitChars, Nat.mul_comm 10]
  rw [← value]
  cases limit <;>
    · simp only at taken
      simp [digits?, taken, some_]

/-- A padded number is read if as many digits as it has are taken, or if no digit follows it. -/
theorem digits?_padded {limit : Option Nat} (ends : limit = some (padded width n).toList.length ∨
      (∀ most ∈ limit, (padded width n).toList.length ≤ most) ∧ ∀ c ∈ rest.head?, c.isDigit = false) :
    digits? limit ((padded width n).toList ++ rest) = some (n, (padded width n).toList.length, rest) := by
  have some_ : (padded width n).toList.isEmpty = false := by
    obtain ⟨c, cs, spelled, -⟩ := exists_padded_cons width n
    rw [spelled]
    rfl
  have run : ((padded width n).toList ++ rest).takeWhile Char.isDigit =
      (padded width n).toList ++ rest.takeWhile Char.isDigit :=
    List.takeWhile_append_of_pos fun c mem => isDigit_of_mem_padded mem
  rw [digits?_of_taken ?_ some_, ofDigitChars_padded, List.drop_left]
  rw [run]
  rcases ends with rfl | ⟨fits, stops⟩
  · exact List.take_left
  · have none_ : rest.takeWhile Char.isDigit = [] := by
      cases rest with
      | nil => rfl
      | cons c rest => simp [stops c rfl]
    rw [none_, List.append_nil]
    cases limit with
    | none => rfl
    | some most => exact List.take_of_length_le (fits most rfl)

theorem digits?_exactly (some_ : 0 < width) (small : n < 10 ^ width) :
    digits? (some width) ((padded width n).toList ++ rest) = some (n, width, rest) := by
  have long := length_padded some_ small
  have read : digits? _ ((padded width n).toList ++ rest) = _ := digits?_padded (.inl rfl)
  rwa [long] at read

theorem pair?_padded {low high : Nat} (least : low ≤ n) (most : n ≤ high) (small : n < 100) :
    pair? low high ((padded 2 n).toList ++ rest) = some (n, rest) := by
  have read : digits? (some 2) ((padded 2 n).toList ++ rest) = some (n, 2, rest) := digits?_exactly (by decide) small
  simp [pair?, dropBlanks_padded, read, least, most]

theorem literal?_cons {c : Char} (visible : isBlank c = false) (rest : List Char) :
    literal? c (c :: rest) = some rest := by
  simp [literal?, dropBlanks_cons rest visible]

end

/-! ### Date and time -/

theorem year?_yearText (year : Int) (rest : List Char) :
    year? ((Timestamp.yearText year).toList ++ '-' :: rest) = some (year, '-' :: rest) := by
  have signed : digits? none ((padded 4 year.natAbs).toList ++ '-' :: rest) =
      some (year.natAbs, (padded 4 year.natAbs).toList.length, '-' :: rest) :=
    digits?_padded (.inr ⟨nofun, by simp⟩)
  unfold Timestamp.yearText
  split
  · next plain =>
    simp only [Bool.and_eq_true, decide_eq_true_eq] at plain
    have read : digits? (some 4) ((padded 4 year.toNat).toList ++ '-' :: rest) = some (year.toNat, 4, '-' :: rest) :=
      digits?_exactly (by decide) (by omega)
    obtain ⟨c, cs, digits, digit⟩ := exists_padded_cons 4 year.toNat
    rw [year?, dropBlanks_padded]
    rw [digits] at read ⊢
    simp only [List.cons_append] at read ⊢
    split
    · next same =>
      cases same
      exact absurd digit (by decide)
    · next same =>
      cases same
      exact absurd digit (by decide)
    · rw [read]
      simp [Int.toNat_of_nonneg plain.1]
  · next beyond =>
    split
    · next negative =>
      have same : -(year.natAbs : Int) = year := by omega
      have spelled : ("-" ++ padded 4 year.natAbs).toList = '-' :: (padded 4 year.natAbs).toList := by simp
      rw [spelled, List.cons_append, year?, dropBlanks_cons _ (by decide)]
      simp only [signed, Option.map_some, same]
    · next positive =>
      have same : (year.natAbs : Int) = year := by omega
      have spelled : ("+" ++ padded 4 year.natAbs).toList = '+' :: (padded 4 year.natAbs).toList := by simp
      rw [spelled, List.cons_append, year?, dropBlanks_cons _ (by decide)]
      simp only [signed, Option.map_some, same]

theorem date?_dateText {d : Date} (valid : d.isValid = true) {rest : List Char} :
    date? ((Timestamp.dateText d).toList ++ rest) = some (d, rest) := by
  have bounds : (1 ≤ d.month ∧ d.month ≤ 12) ∧ 1 ≤ d.day ∧ d.day ≤ 31 := by
    have longest : Date.daysInMonth d.year d.month ≤ 31 := by
      unfold Date.daysInMonth
      split
      · split <;> decide
      · split <;> decide
    simp only [Date.isValid, Bool.and_eq_true, decide_eq_true_eq] at valid
    omega
  have spelled : (Timestamp.dateText d).toList ++ rest = (Timestamp.yearText d.year).toList ++
      '-' :: ((padded 2 d.month).toList ++ '-' :: ((padded 2 d.day).toList ++ rest)) := by
    simp [Timestamp.dateText]
  rw [spelled, date?, year?_yearText]
  simp only [Option.bind_eq_bind, Option.bind_some, literal?_cons (by decide : isBlank '-' = false),
    pair?_padded bounds.1.1 bounds.1.2 (by omega), pair?_padded bounds.2.1 bounds.2.2 (by omega), valid, if_true]

theorem fraction?_padded {ms : Nat} (small : ms < 1000) :
    fraction? ('.' :: ((padded 3 ms).toList ++ ['Z'])) = some (ms * 1000000, ['Z']) := by
  have long : (padded 3 ms).toList.length = 3 := length_padded (by decide) small
  have read : digits? (some 9) ((padded 3 ms).toList ++ ['Z']) = some (ms, 3, ['Z']) := by
    rw [digits?_padded (.inr ⟨by simp [long], by simp⟩), long]
  simp [fraction?, read, Char.isDigit]

theorem time?_clockText {second nanos ms : Nat} (day : second < 86400) (small : ms < 1000)
    (leap : nanos < 1000000000 ∨ nanos < 2000000000 ∧ second % 60 = 59) :
    time? ((Timestamp.clockText second nanos).toList ++ '.' :: ((padded 3 ms).toList ++ ['Z'])) =
      some (second, nanos / 1000000000 * 1000000000 + ms * 1000000, ['Z']) := by
  have spelled : (Timestamp.clockText second nanos).toList ++ '.' :: ((padded 3 ms).toList ++ ['Z']) =
      (padded 2 (second / 3600)).toList ++ ':' :: ((padded 2 (second / 60 % 60)).toList ++ ':' ::
        ((padded 2 (second % 60 + nanos / 1000000000)).toList ++ '.' :: ((padded 3 ms).toList ++ ['Z']))) := by
    simp [Timestamp.clockText]
  have hour (rest) : pair? 0 23 ((padded 2 (second / 3600)).toList ++ rest) = some (second / 3600, rest) :=
    pair?_padded (Nat.zero_le _) (by omega) (by omega)
  have minute (rest) : pair? 0 59 ((padded 2 (second / 60 % 60)).toList ++ rest) = some (second / 60 % 60, rest) :=
    pair?_padded (Nat.zero_le _) (by omega) (by omega)
  have last (rest) : pair? 0 60 ((padded 2 (second % 60 + nanos / 1000000000)).toList ++ rest) =
      some (second % 60 + nanos / 1000000000, rest) :=
    pair?_padded (Nat.zero_le _) (by omega) (by omega)
  rw [spelled, time?]
  simp only [Option.bind_eq_bind, Option.bind_some, literal?_cons (by decide : isBlank ':' = false), hour, minute, last,
    fraction?_padded small, Option.pure_def, Option.some.injEq, Prod.mk.injEq, and_true]
  split <;> omega

end Lenient

/-- From its text a timestamp is read without what its fraction has beyond milliseconds. -/
theorem Lenient.parse?_text {t : Timestamp} (valid : t.isValid = true) : parse? t.text = some t.truncated := by
  obtain ⟨range, leap⟩ := Timestamp.isValid_iff.1 valid
  have spelled : t.text.toList = (Timestamp.dateText (Date.ofDays (t.seconds / 86400))).toList ++
      'T' :: ((Timestamp.clockText (t.seconds % 86400).toNat t.nanos).toList ++
        '.' :: ((padded 3 (t.nanos % 1000000000 / 1000000)).toList ++ ['Z'])) := by
    simp [Timestamp.text, Timestamp.wholeText]
  have last : t.nanos < 1000000000 ∨ t.nanos < 2000000000 ∧ (t.seconds % 86400).toNat % 60 = 59 := by omega
  have clock := time?_clockText (by omega) (by omega : t.nanos % 1000000000 / 1000000 < 1000) last
  have separated : isSeparator 'T' = true := rfl
  have zulu : offset? (dropBlanks ['Z']) = some (0, []) := by decide +kernel
  have whole : t.seconds / 86400 * 86400 + ((t.seconds % 86400).toNat : Int) = t.seconds := by omega
  have kept : t.nanos / 1000000000 * 1000000000 + t.nanos % 1000000000 / 1000000 * 1000000 =
      t.nanos / 1000000 * 1000000 := by omega
  have known : Timestamp.of? t.seconds (t.nanos / 1000000 * 1000000) = some t.truncated :=
    if_pos (Timestamp.isValid_truncated valid)
  simp only [parse?, spelled, date?_dateText (Date.isValid_ofDays _), Option.bind_eq_bind, Option.bind_some, clock,
    zulu, Date.toDays_ofDays, whole, kept, range, Int.sub_zero, known, separated, Bool.not_true]
  rfl

end Time
end Accounts
