import Accounts.Proofs.Session.Signed
import Accounts.Session.Issuer
/-! The two kinds of session tokens, each presented as the other. An access token lacks the identifier that every
refresh token has to have. A refresh token lacks nothing that an access token has: only the secrets tell it apart.
Main statement: which tokens of an issued pair are good for what. -/
namespace Accounts.Issuer
open Time Session Hash.Sha256

/-- What the access token of a pair says that is issued at an instant. -/
def accessClaims (i : Issuer) (issued : Instant) (user : User) : Claims :=
  i.claims user issued (issued + i.settings.accessTtl) none

def refreshClaims (i : Issuer) (issued : Instant) (user : User) (tokenId : String) : Claims :=
  i.claims user issued (issued + i.settings.refreshTtl) (some tokenId)

theorem access_issue (i : Issuer) (issued : Instant) (user : User) (tokenId : String) :
    (i.issue issued user tokenId).access = Token.sign i.accessKey (i.accessClaims issued user) := rfl

/-- Both secrets give the body of a token the same tag. -/
def Confused (i : Issuer) (c : Claims) : Prop := hmac i.accessKey (Token.body c) = hmac i.refreshKey (Token.body c)

theorem confused_of_eq {i : Issuer} (same : i.settings.accessSecret = i.settings.refreshSecret) (c : Claims) :
    i.Confused c := by
  rw [Confused, accessKey, refreshKey, same]

/-- Claims that end at this second are good at the instant `now`. -/
def Live (now : Instant) (expiresAt : Int) : Prop :=
  leeway ≤ wholeSeconds now ∧ 0 ≤ expiresAt ∧ wholeSeconds now ≤ expiresAt + leeway

variable (i : Issuer) (now issued : Instant) (user : User) (tokenId : String) (denied : DenyList)

/-- Claims of another issuer have to be meant for this one. -/
theorem accepts_foreign (maker : Issuer) (expiresAt : Instant) (tokenId : Option String) :
    i.accepts now (maker.claims user issued expiresAt tokenId) = true ↔ Live now (wholeSeconds expiresAt) ∧
      maker.settings.issuer = i.settings.issuer ∧ maker.settings.audience = i.settings.audience := by
  simp only [accepts, Bool.and_eq_true, decide_eq_true_eq, Live, and_assoc]
  rfl

theorem accepts_claims (expiresAt : Instant) (tokenId : Option String) :
    i.accepts now (i.claims user issued expiresAt tokenId) = true ↔ Live now (wholeSeconds expiresAt) :=
  (accepts_foreign i now issued user i expiresAt tokenId).trans (and_iff_left ⟨rfl, rfl⟩)

variable {i now issued user tokenId denied}

/-! ### Under one key -/

theorem verify_eq_ok {key : Bytes} {token : String} {c : Claims} : i.verify key now token = .ok c ↔
    Token.open? key token = some c ∧ i.accepts now c = true := by
  rw [verify]
  rcases opened : Token.open? key token with _ | d
  · exact ⟨nofun, nofun⟩
  dsimp only
  split
  · next accepted =>
    constructor
    · intro h
      obtain rfl := Except.ok.inj h
      exact ⟨rfl, accepted⟩
    · rintro ⟨⟨⟩, -⟩
      rfl
  · next refused =>
    refine ⟨nofun, ?_⟩
    rintro ⟨⟨⟩, accepted⟩
    exact absurd accepted refused

theorem verify_sign {key secret : Bytes} {c d : Claims} : i.verify key now (Token.sign secret c) = .ok d ↔
    hmac key (Token.body c) = hmac secret (Token.body c) ∧ c.Fits ∧ i.accepts now c = true ∧ c = d := by
  rw [verify_eq_ok, Token.open?_sign]
  constructor
  · rintro ⟨⟨tag, fits, rfl⟩, accepted⟩
    exact ⟨tag, fits, accepted, rfl⟩
  · rintro ⟨tag, fits, accepted, rfl⟩
    exact ⟨⟨tag, fits, rfl⟩, accepted⟩

theorem verify_error {key : Bytes} {token : String} (bad : ∀ c, i.verify key now token ≠ .ok c) :
    i.verify key now token = .error .invalidToken := by
  rw [verify]
  split
  · rfl
  · next c opened => exact if_neg fun accepted => bad c (verify_eq_ok.2 ⟨opened, accepted⟩)

/-! ### Presented for access -/

theorem checkAccess_eq_ok {token : String} {who : Identity} : i.checkAccess now token = .ok who ↔
    ∃ c, i.verify i.accessKey now token = .ok c ∧ who = ⟨c.userId, c.subject⟩ := by
  unfold checkAccess
  rcases i.verify i.accessKey now token with e | c
  · exact ⟨nofun, fun ⟨_, verified, _⟩ => nomatch verified⟩
  · constructor
    · intro checked
      exact ⟨c, rfl, (Except.ok.inj checked).symm⟩
    · rintro ⟨_, ⟨⟩, rfl⟩
      rfl

theorem checkAccess_error {token : String} (bad : ∀ who, i.checkAccess now token ≠ .ok who) :
    i.checkAccess now token = .error .invalidToken := by
  have unverified : ∀ c, i.verify i.accessKey now token ≠ .ok c := fun c verified =>
    bad _ (checkAccess_eq_ok.2 ⟨c, verified, rfl⟩)
  rw [checkAccess, verify_error unverified]
  rfl

theorem checkAccess_access {who : Identity} : i.checkAccess now (i.issue issued user tokenId).access = .ok who ↔
    (i.accessClaims issued user).Fits ∧ Live now (wholeSeconds (issued + i.settings.accessTtl)) ∧
      who = ⟨user.id, user.username⟩ := by
  rw [checkAccess_eq_ok]
  constructor
  · rintro ⟨c, verified, rfl⟩
    obtain ⟨-, fits, accepted, rfl⟩ := verify_sign.1 verified
    exact ⟨fits, (accepts_claims ..).1 accepted, rfl⟩
  · rintro ⟨fits, live, rfl⟩
    exact ⟨_, verify_sign.2 ⟨rfl, fits, (accepts_claims ..).2 live, rfl⟩, rfl⟩

theorem checkAccess_refresh {who : Identity} : i.checkAccess now (i.issue issued user tokenId).refresh = .ok who ↔
    i.Confused (i.refreshClaims issued user tokenId) ∧ (i.refreshClaims issued user tokenId).Fits ∧
      Live now (wholeSeconds (issued + i.settings.refreshTtl)) ∧ who = ⟨user.id, user.username⟩ := by
  rw [checkAccess_eq_ok]
  constructor
  · rintro ⟨c, verified, rfl⟩
    obtain ⟨tag, fits, accepted, rfl⟩ := verify_sign.1 verified
    exact ⟨tag, fits, (accepts_claims ..).1 accepted, rfl⟩
  · rintro ⟨tag, fits, live, rfl⟩
    exact ⟨_, verify_sign.2 ⟨tag, fits, (accepts_claims ..).2 live, rfl⟩, rfl⟩

/-! ### Presented for refreshing -/

/-- Whatever the secrets, an access token is not taken for a refresh token: it has no identifier. -/
theorem verifyRefresh_access :
    i.verifyRefresh now (i.issue issued user tokenId).access = .error .invalidToken := by
  rw [verifyRefresh]
  rcases verified : i.verify i.refreshKey now (i.issue issued user tokenId).access with e | c
  · have bad : ∀ c, i.verify i.refreshKey now (i.issue issued user tokenId).access ≠ .ok c := by
      rw [verified]
      nofun
    rw [verify_error bad] at verified
    obtain rfl := Except.error.inj verified
    rfl
  · obtain ⟨-, -, -, rfl⟩ := verify_sign.1 verified
    rfl

theorem verifyRefresh_refresh (fits : (i.refreshClaims issued user tokenId).Fits)
    (live : Live now (wholeSeconds (issued + i.settings.refreshTtl))) :
    i.verifyRefresh now (i.issue issued user tokenId).refresh = .ok (i.refreshClaims issued user tokenId, tokenId) := by
  have verified : i.verify i.refreshKey now (i.issue issued user tokenId).refresh =
      .ok (i.refreshClaims issued user tokenId) := verify_sign.2 ⟨rfl, fits, (accepts_claims ..).2 live, rfl⟩
  rw [verifyRefresh, verified]
  rfl

variable (i now issued user tokenId denied)

/-- A refresh token is good for access just while it is live and both secrets give it one tag, as equal secrets do;
an access token is never good for a refresh or a logout. -/
theorem kinds_interchanged_iff :
    (∀ who, i.checkAccess now (i.issue issued user tokenId).refresh = .ok who ↔
      i.Confused (i.refreshClaims issued user tokenId) ∧ (i.refreshClaims issued user tokenId).Fits ∧
        Live now (wholeSeconds (issued + i.settings.refreshTtl)) ∧ who = ⟨user.id, user.username⟩) ∧
    (¬ i.Confused (i.refreshClaims issued user tokenId) →
      i.checkAccess now (i.issue issued user tokenId).refresh = .error .invalidToken) ∧
    i.checkRefresh now denied (i.issue issued user tokenId).access = .error .invalidToken ∧
    ∀ later, i.revoke now later denied (i.issue issued user tokenId).access = (.error .invalidToken, denied) := by
  refine ⟨fun who => checkAccess_refresh, fun apart => ?_, ?_, fun later => ?_⟩
  · exact checkAccess_error fun who checked => apart (checkAccess_refresh.1 checked).1
  · rw [checkRefresh, verifyRefresh_access]
    rfl
  · rw [revoke, verifyRefresh_access]

/-- One secret for both kinds. -/
def oneSecret : SessionSettings where
  accessSecret := "0123456789abcdef0123456789abcdef"
  refreshSecret := "0123456789abcdef0123456789abcdef"
  issuer := "issuer"
  audience := "clients"
  accessTtl := 900000000
  refreshTtl := 259200000000

def ann : User where
  id := 1
  username := "ann"
  profile := ⟨"ann@x", "Ann", "", none, false, "", ""⟩
  verified := true
  verifiedAt := some 1000000000
  createdAt := 1000000000
  updatedAt := 1000000000

theorem refresh_token_good_for_access : ∃ i, ofSettings oneSecret = .ok i ∧
    i.checkAccess 1000000000 (i.issue 1000000000 ann "id").refresh = .ok ⟨1, "ann"⟩ := by
  refine ⟨⟨oneSecret, by decide, by decide, by decide, by decide⟩, rfl, checkAccess_refresh.2 ⟨?_, ?_, ?_, rfl⟩⟩
  · exact confused_of_eq rfl _
  · exact ⟨⟨by decide, by decide⟩, ⟨by decide, by decide⟩, ⟨by decide, by decide⟩⟩
  · exact ⟨by decide, by decide, by decide⟩

end Accounts.Issuer
