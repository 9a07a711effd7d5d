import Accounts.Proofs.Session.DenyList
import Accounts.Proofs.Session.Kinds
/-! Tokens that one issuer makes and another one checks, with the same secrets. Main statement: they are good for the
issuers with the same name and clients, up to the last second of the leeway, and for nobody else. -/
namespace Accounts.Issuer
open Json Time Session

/-- What the issuer `a` makes to end at this instant is meant for the issuer `b` and, with the leeway, not over. -/
abbrev Admits (b a : Issuer) (now expiresAt : Instant) : Prop :=
  a.settings.issuer = b.settings.issuer ∧ a.settings.audience = b.settings.audience ∧
    wholeSeconds now ≤ wholeSeconds expiresAt + leeway

/-- An instant that a timestamp can tell. -/
def Representable (t : Instant) : Prop := (Timestamp.ofInstant t).isValid = true

instance (t : Instant) : Decidable (Representable t) := inferInstanceAs (Decidable (_ = true))

theorem Representable.le_greatest {t : Instant} (h : Representable t) : wholeSeconds t ≤ Timestamp.greatest := by
  simp only [Representable, Timestamp.isValid, Bool.and_eq_true, decide_eq_true_eq] at h
  exact h.1.2

/-- An instant from which the leeway can be taken, and a later one that can be told. -/
structure Lasts (issued expiresAt : Instant) : Prop where
  early : leeway ≤ wholeSeconds issued
  later : issued ≤ expiresAt
  told : Representable expiresAt

variable {a b : Issuer} {now issued expiresAt : Instant} {user : User} {tokenId : Option String}

theorem claims_fits (early : leeway ≤ wholeSeconds issued) (later : issued ≤ expiresAt) (id : IsInt64 user.id)
    (told : IsInt64 (wholeSeconds expiresAt)) : (a.claims user issued expiresAt tokenId).Fits := by
  have least : -9223372036854775808 ≤ leeway := by decide
  have start : IsInt64 (wholeSeconds issued) := ⟨least.trans early, (wholeSeconds_mono later).trans told.2⟩
  exact ⟨id, start, told⟩

theorem Lasts.fits (h : Lasts issued expiresAt) (id : IsInt64 user.id) :
    (a.claims user issued expiresAt tokenId).Fits := by
  have least : -9223372036854775808 ≤ leeway := by decide
  have greatest : Timestamp.greatest ≤ 9223372036854775807 := by decide
  have order := wholeSeconds_mono h.later
  exact claims_fits h.early h.later id ⟨least.trans (h.early.trans order), h.told.le_greatest.trans greatest⟩

theorem Lasts.accepts_iff (h : Lasts issued expiresAt) (late : leeway ≤ wholeSeconds now) :
    b.accepts now (a.claims user issued expiresAt tokenId) = true ↔ b.Admits a now expiresAt := by
  have ends : 0 ≤ wholeSeconds expiresAt :=
    Int.le_trans (by decide) (Int.le_trans h.early (wholeSeconds_mono h.later))
  rw [accepts_foreign]
  constructor
  · rintro ⟨⟨-, -, inTime⟩, issuer, audience⟩
    exact ⟨issuer, audience, inTime⟩
  · rintro ⟨issuer, audience, inTime⟩
    exact ⟨⟨late, ends, inTime⟩, issuer, audience⟩

/-- A token under the key that it was signed with. -/
theorem Lasts.verify_eq (h : Lasts issued expiresAt) (late : leeway ≤ wholeSeconds now) (id : IsInt64 user.id)
    (key : Bytes) (tokenId : Option String) :
    b.verify key now (Token.sign key (a.claims user issued expiresAt tokenId)) =
      if b.Admits a now expiresAt then .ok (a.claims user issued expiresAt tokenId) else .error .invalidToken := by
  split_ifs with admitted
  · exact verify_sign.2 ⟨rfl, h.fits id, (h.accepts_iff late).2 admitted, rfl⟩
  · refine verify_error fun c verified => admitted ?_
    exact (h.accepts_iff late).1 (verify_sign.1 verified).2.2.1

/-- Between issuers with the same secrets: what one has issued to a user, the other one takes for just that user's if
both have the same name and clients and the last second of the token and its leeway is not over, and refuses else. For
refresh tokens this holds as long as they are not on the deny-list. -/
theorem window_of_issued (a b : Issuer) (accessSecret : b.settings.accessSecret = a.settings.accessSecret)
    (refreshSecret : b.settings.refreshSecret = a.settings.refreshSecret) (user : User) (id : IsInt64 user.id)
    (tokenId : String) {issued now : Instant} (early : leeway ≤ wholeSeconds issued) (late : leeway ≤ wholeSeconds now)
    (accessEnd : Representable (issued + a.settings.accessTtl))
    (refreshEnd : Representable (issued + a.settings.refreshTtl)) :
    b.checkAccess now (a.issue issued user tokenId).access =
      (if b.Admits a now (issued + a.settings.accessTtl) then .ok ⟨user.id, user.username⟩ else .error .invalidToken) ∧
    ∀ denied : DenyList, denied.lookup tokenId = none →
      b.checkRefresh now denied (a.issue issued user tokenId).refresh =
        if b.Admits a now (issued + a.settings.refreshTtl) then .ok ⟨user.id, user.username⟩
        else .error .invalidToken := by
  have accessKey : b.accessKey = a.accessKey := congrArg Bytes.ofText accessSecret
  have refreshKey : b.refreshKey = a.refreshKey := congrArg Bytes.ofText refreshSecret
  have accessLasts : Lasts issued (issued + a.settings.accessTtl) :=
    ⟨early, Int.le_add_of_nonneg_right (Int.le_of_lt a.accessTtl_pos), accessEnd⟩
  have refreshLasts : Lasts issued (issued + a.settings.refreshTtl) :=
    ⟨early, Int.le_add_of_nonneg_right (Int.le_of_lt a.refreshTtl_pos), refreshEnd⟩
  refine ⟨?_, fun denied unlisted => ?_⟩
  · have verified := accessLasts.verify_eq (a := a) (b := b) late id a.accessKey none
    rw [checkAccess, accessKey, issue, verified]
    split_ifs <;> rfl
  · have verified := refreshLasts.verify_eq (a := a) (b := b) late id a.refreshKey (some tokenId)
    rw [checkRefresh, verifyRefresh, refreshKey, issue, verified]
    split_ifs
    · exact if_neg (by simp [unlisted])
    · rfl

def dayShift : Issuer where
  settings := ⟨"an access secret of forty characters, say", "a refresh secret of forty characters, ok", "issuer",
    "clients", 900000000, 259200000000⟩
  accessSecret_size := by decide
  refreshSecret_size := by decide
  accessTtl_pos := by decide
  refreshTtl_pos := by decide

/-- An issuer with the same secrets, whose own tokens are good for another time. -/
def nightShift : Issuer where
  settings := { dayShift.settings with accessTtl := 1, refreshTtl := 1 }
  accessSecret_size := by decide
  refreshSecret_size := by decide
  accessTtl_pos := by decide
  refreshTtl_pos := by decide

def owl : User := { ann with id := 9223372036854775807, username := "\"\\ \x01 ǔhu 🦉" }

theorem window_of_issued_last_second :
    nightShift.checkAccess 1905999999 (dayShift.issue 1000000000 owl "id").access = .ok ⟨owl.id, owl.username⟩ ∧
    nightShift.checkAccess 1906000000 (dayShift.issue 1000000000 owl "id").access = .error .invalidToken ∧
    nightShift.checkRefresh 260205999999 [("other", 0)] (dayShift.issue 1000000000 owl "id").refresh =
      .ok ⟨owl.id, owl.username⟩ ∧
    nightShift.checkRefresh 260206000000 [("other", 0)] (dayShift.issue 1000000000 owl "id").refresh =
      .error .invalidToken := by
  have window (now : Instant) (late : leeway ≤ wholeSeconds now) :=
    window_of_issued dayShift nightShift rfl rfl owl ⟨by decide, by decide⟩ "id"
      (by decide : leeway ≤ wholeSeconds 1000000000) late (by decide) (by decide)
  refine ⟨?_, ?_, ?_, ?_⟩
  · exact (window 1905999999 (by decide)).1.trans (if_pos ⟨rfl, rfl, by decide⟩)
  · exact (window 1906000000 (by decide)).1.trans (if_neg fun admitted => absurd admitted.2.2 (by decide))
  · exact ((window 260205999999 (by decide)).2 _ rfl).trans (if_pos ⟨rfl, rfl, by decide⟩)
  · exact ((window 260206000000 (by decide)).2 _ rfl).trans (if_neg fun admitted => absurd admitted.2.2 (by decide))

end Accounts.Issuer
