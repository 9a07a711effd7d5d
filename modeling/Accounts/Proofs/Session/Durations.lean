import Accounts.Proofs.Json.Number
import Accounts.Settings
/-! Lengths of time in the settings. All that is reckoned for them fits into words of 64 bits. Main statements: which
settings are refused, and of what length those are that are taken. -/
namespace Accounts.Settings
open Json Time

instance (n : Int) : Decidable (IsInt64 n) := inferInstanceAs (Decidable (_ ∧ _))

/-! ### What is read -/

/-- What is read as an integer is one of 64 bits. -/
def Fits (values : Values) : Prop := ∀ name v, values.lookup name = some v → known.lookup name = some .integer →
  ∃ n, v = .number n ∧ IsInt64 n

theorem read_integer {key value : String} {v : SettingValue} (read : SettingKind.integer.read key value = .ok v) :
    ∃ n, v = .number n ∧ IsInt64 n := by
  cases parsed : Decimal.int64 value with
  | error fault =>
    simp only [SettingKind.read, parsed, SettingKind.number] at read
    cases read
  | ok n =>
    simp only [SettingKind.read, parsed, SettingKind.number] at read
    exact ⟨n, (Except.ok.inj read).symm, Decimal.integer_bounds parsed⟩

theorem Fits.readPair {values values' : Values} {pair : String × String} (fits : Fits values)
    (read : readPair values pair = .ok values') : Fits values' := by
  obtain ⟨key, value⟩ := pair
  simp only [Settings.readPair] at read
  split at read
  · obtain rfl := Except.ok.inj read
    exact fits
  · next kind knows =>
    split at read
    · cases read
    · cases here : kind.read key value with
      | error fault =>
        rw [here] at read
        cases read
      | ok v =>
        rw [here] at read
        obtain rfl := Except.ok.inj read
        intro name w found integer
        rw [List.lookup_append] at found
        rcases Option.or_eq_some_iff.1 found with old | ⟨-, new⟩
        · exact fits name w old integer
        · rw [List.lookup_cons] at new
          split at new
          · next same =>
            obtain rfl := Option.some.inj new
            rw [beq_iff_eq.1 same, knows] at integer
            obtain rfl := Option.some.inj integer
            exact read_integer here
          · cases new

theorem Fits.foldlM {pairs : List (String × String)} {values values' : Values} (fits : Fits values)
    (read : pairs.foldlM Settings.readPair values = .ok values') : Fits values' := by
  induction pairs generalizing values with
  | nil =>
    obtain rfl := Except.ok.inj read
    exact fits
  | cons pair pairs ih =>
    rw [List.foldlM_cons] at read
    cases first : Settings.readPair values pair with
    | error fault =>
      rw [first] at read
      cases read
    | ok mid =>
      rw [first] at read
      exact ih (fits.readPair first) read

theorem Fits.number {values : Values} (fits : Fits values) {name : String} {default : Int}
    (integer : known.lookup name = some .integer) (small : IsInt64 default) :
    IsInt64 (Settings.number values name default) := by
  rw [Settings.number]
  split
  · next n found =>
    obtain ⟨m, same, bounds⟩ := fits name _ found integer
    cases same
    exact bounds
  · exact small

/-- The lengths of time in loaded settings are words. -/
structure Words (s : Settings) : Prop where
  tokenTtl : IsInt64 s.tokenTtlSeconds
  cooldown : IsInt64 s.cooldownSeconds
  accessTtl : IsInt64 s.accessTtlMinutes
  refreshTtl : IsInt64 s.refreshTtlMinutes

theorem words_of_load {pairs : List (String × String)} {s : Settings} (loaded : load pairs = .ok s) : s.Words := by
  rw [load] at loaded
  cases read : pairs.foldlM readPair [] with
  | error fault =>
    rw [read] at loaded
    cases loaded
  | ok values =>
    have fits : Fits values := Fits.foldlM (fun _ _ none => by cases none) read
    rw [read] at loaded
    change ofValues values = .ok s at loaded
    rw [ofValues] at loaded
    cases access : required values "access_token_secret" with
    | error fault =>
      rw [access] at loaded
      cases loaded
    | ok accessSecret =>
      cases refresh : required values "refresh_token_secret" with
      | error fault =>
        rw [access, refresh] at loaded
        cases loaded
      | ok refreshSecret =>
        rw [access, refresh] at loaded
        obtain rfl := Except.ok.inj loaded
        exact ⟨fits.number rfl (by decide), fits.number rfl (by decide), fits.number rfl (by decide),
          fits.number rfl (by decide)⟩

/-! ### Reckoning with words

A length of time is kept in milliseconds, so that only so many seconds can be told. -/

/-- An integer as a word, if it is one. -/
def word? (n : Int) : Option Int64 := if IsInt64 n then some (Int64.ofInt n) else none

/-- So many whole seconds, if they can be told. -/
def wordSeconds? (n : Int64) : Option Int64 := if -9223372036854775 ≤ n ∧ n ≤ 9223372036854775 then some n else none

/-- So many minutes in seconds; the product is checked. -/
def wordMinutes? (n : Int64) : Option Int64 := (word? (n.toInt * (60 : Int64).toInt)).bind wordSeconds?

def wordBounded (key : String) (length : Option Int64) : Except SettingsFault Int64 :=
  match length.filter fun n => n ≤ 315360000 with
  | some n => .ok n
  | none => .error (.outOfRange key)

def wordTokenTtl (n : Int64) : Except SettingsFault Int64 :=
  if n ≤ 0 then .ok 86400 else wordBounded "VERIFICATION_TOKEN_TTL_SECS" (wordSeconds? n)

def wordCooldown (n : Int64) : Except SettingsFault Int64 :=
  wordBounded "RESEND_COOLDOWN_SECS" (wordSeconds? (max n 0))

def wordSession (access refresh : Int64) : Except SettingsFault (Int64 × Int64) := do
  let access ← wordBounded "ACCESS_TOKEN_TTL_MINUTES" (wordMinutes? access)
  let refresh ← wordBounded "REFRESH_TOKEN_TTL_MINUTES" (wordMinutes? refresh)
  return (access, refresh)

theorem toInt_word {n : Int} (small : IsInt64 n) : (Int64.ofInt n).toInt = n :=
  Int64.toInt_ofInt_of_le small.1 (Int.lt_add_one_of_le small.2)

theorem bounded_ok {key : String} {n : Int} (short : -longest ≤ n) (years : n ≤ maxSeconds) :
    bounded key n = .ok (seconds n) := by
  rw [bounded, if_pos (by simp [short, years])]

theorem bounded_error {key : String} {n : Int} (out : ¬(-longest ≤ n ∧ n ≤ maxSeconds)) :
    bounded key n = .error (.outOfRange key) := by
  rw [bounded, if_neg (by simpa using out)]

theorem bounded_toInt (key : String) (n : Int64) :
    bounded key n.toInt = (wordBounded key (wordSeconds? n)).map fun n => seconds n.toInt := by
  have least : -9223372036854775 ≤ n ↔ -longest ≤ n.toInt := Int64.le_iff_toInt_le
  have most : n ≤ 9223372036854775 ↔ n.toInt ≤ longest := Int64.le_iff_toInt_le
  have years : n ≤ 315360000 ↔ n.toInt ≤ maxSeconds := Int64.le_iff_toInt_le
  have order : maxSeconds ≤ longest := by decide
  by_cases short : -longest ≤ n.toInt
  · by_cases few : n.toInt ≤ maxSeconds
    · have told : wordSeconds? n = some n := if_pos ⟨least.2 short, most.2 (Int.le_trans few order)⟩
      rw [bounded_ok short few, wordBounded, told, Option.filter_some_pos (by simpa using years.2 few)]
      rfl
    · have none : (wordSeconds? n).filter (fun n => n ≤ 315360000) = none := by
        rw [wordSeconds?]
        split
        · exact Option.filter_some_neg (by simpa using mt years.1 few)
        · rfl
      rw [bounded_error fun taken => few taken.2, wordBounded, none]
      rfl
  · have untold : wordSeconds? n = none := if_neg fun told => short (least.1 told.1)
    rw [bounded_error fun taken => short taken.1, wordBounded, untold]
    rfl

theorem bounded_minutes (key : String) (n : Int64) :
    bounded key (n.toInt * 60) = (wordBounded key (wordMinutes? n)).map fun n => seconds n.toInt := by
  have sixty : (60 : Int64).toInt = 60 := rfl
  by_cases small : IsInt64 (n.toInt * 60)
  · have product : word? (n.toInt * (60 : Int64).toInt) = some (Int64.ofInt (n.toInt * 60)) := if_pos small
    rw [wordMinutes?, product, Option.bind_some, ← bounded_toInt, toInt_word small]
  · have product : word? (n.toInt * (60 : Int64).toInt) = none := if_neg small
    have out : ¬(-longest ≤ n.toInt * 60 ∧ n.toInt * 60 ≤ maxSeconds) := fun ⟨short, few⟩ =>
      small ⟨Int.le_trans (by decide) short, Int.le_trans few (by decide)⟩
    rw [bounded_error out, wordMinutes?, product]
    rfl

theorem tokenTtl_word {s : Settings} {n : Int64} (same : n.toInt = s.tokenTtlSeconds) :
    s.tokenTtl = (wordTokenTtl n).map fun n => seconds n.toInt := by
  have absent : n ≤ 0 ↔ n.toInt ≤ 0 := Int64.le_iff_toInt_le
  rw [tokenTtl, usesDefaultTtl, wordTokenTtl, ← same]
  by_cases default : n.toInt ≤ 0
  · rw [if_pos (absent.2 default), if_pos (decide_eq_true default)]
    rfl
  · rw [if_neg (mt absent.1 default), if_neg (by simpa using default)]
    exact bounded_toInt _ n

theorem cooldown_word {s : Settings} {n : Int64} (same : n.toInt = s.cooldownSeconds) :
    s.cooldown = (wordCooldown n).map fun n => seconds n.toInt := by
  have order : n ≤ 0 ↔ n.toInt ≤ 0 := Int64.le_iff_toInt_le
  have larger : (max n 0).toInt = max n.toInt 0 := by
    change (if n ≤ 0 then 0 else n : Int64).toInt = _
    split_ifs with negative
    · exact (Int.max_eq_right (order.1 negative)).symm
    · exact (Int.max_eq_left (Int.le_of_lt (Int.not_le.1 (mt order.2 negative)))).symm
  rw [cooldown, wordCooldown, ← same, ← larger]
  exact bounded_toInt _ _

theorem session_word {s : Settings} {access refresh : Int64} (sameAccess : access.toInt = s.accessTtlMinutes)
    (sameRefresh : refresh.toInt = s.refreshTtlMinutes) : s.session = (wordSession access refresh).map fun ttls =>
      ⟨s.accessSecret, s.refreshSecret, s.issuer, s.audience, seconds ttls.1.toInt, seconds ttls.2.toInt⟩ := by
  rw [session, wordSession, ← sameAccess, ← sameRefresh, bounded_minutes, bounded_minutes]
  cases wordBounded "ACCESS_TOKEN_TTL_MINUTES" (wordMinutes? access) with
  | error fault => rfl
  | ok a => cases wordBounded "REFRESH_TOKEN_TTL_MINUTES" (wordMinutes? refresh) <;> rfl

/-- The lengths of time are words, and all that is reckoned for them is. -/
def InWords (s : Settings) : Prop := ∃ ttl cooldown access refresh : Int64,
  (ttl.toInt = s.tokenTtlSeconds ∧ cooldown.toInt = s.cooldownSeconds ∧
    access.toInt = s.accessTtlMinutes ∧ refresh.toInt = s.refreshTtlMinutes) ∧
  s.tokenTtl = (wordTokenTtl ttl).map (fun n => seconds n.toInt) ∧
  s.cooldown = (wordCooldown cooldown).map (fun n => seconds n.toInt) ∧
  s.session = (wordSession access refresh).map fun ttls =>
    ⟨s.accessSecret, s.refreshSecret, s.issuer, s.audience, seconds ttls.1.toInt, seconds ttls.2.toInt⟩

theorem Words.inWords {s : Settings} (h : s.Words) : s.InWords := by
  have ttl := toInt_word h.tokenTtl
  have cooldown := toInt_word h.cooldown
  have access := toInt_word h.accessTtl
  have refresh := toInt_word h.refreshTtl
  exact ⟨_, _, _, _, ⟨ttl, cooldown, access, refresh⟩, tokenTtl_word ttl, cooldown_word cooldown,
    session_word access refresh⟩

/-! ### What is refused, and what is taken -/

/-- So many seconds are more than ten years, or cannot be told. -/
def Outside (n : Int) : Prop := maxSeconds < n ∨ ¬(-longest ≤ n ∧ n ≤ longest)

instance (n : Int) : Decidable (Outside n) := inferInstanceAs (Decidable (_ ∨ _))

theorem outside_iff {n : Int} : Outside n ↔ ¬(-longest ≤ n ∧ n ≤ maxSeconds) := by
  have order : maxSeconds ≤ longest := by decide
  rw [Outside]
  omega

theorem bounded_eq (key : String) (n : Int) :
    bounded key n = if Outside n then .error (.outOfRange key) else .ok (seconds n) := by
  split_ifs with outside
  · exact bounded_error (outside_iff.1 outside)
  · obtain ⟨short, few⟩ := not_not.1 (mt outside_iff.2 outside)
    exact bounded_ok short few

theorem outside_of_nonneg {n : Int} (nonneg : 0 ≤ n) : Outside n ↔ maxSeconds < n := by
  have least : -longest ≤ 0 := by decide
  rw [outside_iff]
  omega

variable (s : Settings)

theorem tokenTtl_eq : s.tokenTtl =
    if maxSeconds < s.tokenTtlSeconds then .error (.outOfRange "VERIFICATION_TOKEN_TTL_SECS")
    else .ok (seconds (if s.tokenTtlSeconds ≤ 0 then 86400 else s.tokenTtlSeconds)) := by
  have least : (0 : Int) ≤ maxSeconds := by decide
  have default : s.usesDefaultTtl = true ↔ s.tokenTtlSeconds ≤ 0 := decide_eq_true_iff
  simp only [tokenTtl, default, bounded_eq]
  by_cases absent : s.tokenTtlSeconds ≤ 0
  · rw [if_pos absent, if_neg (by omega), if_pos absent]
    rfl
  · simp only [absent, if_false, outside_of_nonneg (by omega : 0 ≤ s.tokenTtlSeconds)]

theorem cooldown_eq : s.cooldown =
    if maxSeconds < s.cooldownSeconds then .error (.outOfRange "RESEND_COOLDOWN_SECS")
    else .ok (seconds (max s.cooldownSeconds 0)) := by
  have least : (0 : Int) ≤ maxSeconds := by decide
  have same : maxSeconds < max s.cooldownSeconds 0 ↔ maxSeconds < s.cooldownSeconds := by omega
  rw [cooldown, bounded_eq]
  simp only [outside_of_nonneg (Int.le_max_right s.cooldownSeconds 0), same]

theorem session_eq : s.session =
    if Outside (s.accessTtlMinutes * 60) then .error (.outOfRange "ACCESS_TOKEN_TTL_MINUTES")
    else if Outside (s.refreshTtlMinutes * 60) then .error (.outOfRange "REFRESH_TOKEN_TTL_MINUTES")
    else .ok ⟨s.accessSecret, s.refreshSecret, s.issuer, s.audience, seconds (s.accessTtlMinutes * 60),
      seconds (s.refreshTtlMinutes * 60)⟩ := by
  rw [session, bounded_eq, bounded_eq]
  split_ifs <;> rfl

theorem seconds_le {m n : Int} : seconds m ≤ seconds n ↔ m ≤ n := by
  change (m * 1000000 : Int) ≤ n * 1000000 ↔ m ≤ n
  omega

theorem seconds_pos {n : Int} : 0 < seconds n ↔ 1 ≤ n := by
  change (0 : Int) < n * 1000000 ↔ 1 ≤ n
  omega

variable {s}

theorem tokenTtl_bounds {ttl : Span} (taken : s.tokenTtl = .ok ttl) :
    seconds 1 ≤ ttl ∧ ttl ≤ seconds maxSeconds := by
  have day : (86400 : Int) ≤ maxSeconds := by decide
  rw [tokenTtl_eq] at taken
  split at taken
  · cases taken
  · obtain rfl := Except.ok.inj taken
    rw [seconds_le, seconds_le]
    split <;> omega

theorem cooldown_bounds {cooldown : Span} (taken : s.cooldown = .ok cooldown) :
    0 ≤ cooldown ∧ cooldown ≤ seconds maxSeconds := by
  have least : (0 : Int) ≤ maxSeconds := by decide
  have zero : (0 : Int) = seconds 0 := rfl
  rw [cooldown_eq] at taken
  split at taken
  · cases taken
  · obtain rfl := Except.ok.inj taken
    rw [zero, seconds_le, seconds_le]
    omega

theorem session_bounds {settings : SessionSettings} {issuer : Issuer} (taken : s.session = .ok settings)
    (made : Issuer.ofSettings settings = .ok issuer) :
    (seconds 60 ≤ issuer.settings.accessTtl ∧ issuer.settings.accessTtl ≤ seconds maxSeconds) ∧
      seconds 60 ≤ issuer.settings.refreshTtl ∧ issuer.settings.refreshTtl ≤ seconds maxSeconds := by
  obtain rfl : issuer.settings = settings := by
    rw [Issuer.ofSettings] at made
    split at made
    · cases made
    · split at made
      · cases made
      · split at made
        · cases made
        · rw [← Except.ok.inj made]
  have access := issuer.accessTtl_pos
  have refresh := issuer.refreshTtl_pos
  rw [session_eq] at taken
  split_ifs at taken with accessOut refreshOut
  have same := Except.ok.inj taken
  rw [outside_iff, not_not] at accessOut refreshOut
  rw [← same] at access refresh ⊢
  rw [seconds_pos] at access refresh
  simp only [seconds_le]
  omega

end Accounts.Settings
