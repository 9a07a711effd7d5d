import Accounts.Proofs.Password.Hash
import Accounts.Proofs.Run.Errands
import Accounts.Proofs.Session.Window
/-! Who gets session tokens. A login asks whether its user is verified; a refresh does not, and goes by the token that
is presented. Main statement: where nobody forges refresh tokens, all session tokens are made for verified users, and
with a user's account they are gone for good. -/
namespace Accounts
open Time Session

namespace Issuer
variable {i : Issuer} {now : Instant} {denied : DenyList} {token : String} {who : Identity}

theorem verifyRefresh_eq_ok {c : Claims} {id : String} :
    i.verifyRefresh now token = .ok (c, id) ↔ i.verify i.refreshKey now token = .ok c ∧ c.tokenId = some id := by
  rw [verifyRefresh]
  constructor
  · intro h
    cases verified : i.verify i.refreshKey now token with
    | error e =>
      rw [verified] at h
      cases h
    | ok d =>
      rw [verified] at h
      dsimp only [bind, Except.bind] at h
      cases named : d.tokenId with
      | none =>
        rw [named] at h
        cases h
      | some tokenId =>
        rw [named] at h
        obtain ⟨rfl, rfl⟩ := Prod.mk.inj (Except.ok.inj h)
        exact ⟨rfl, named⟩
  · rintro ⟨verified, named⟩
    rw [verified]
    dsimp only [bind, Except.bind]
    rw [named]
    rfl

/-- A token is good for a refresh if its claims are, and name an identifier that is not on the deny-list. -/
theorem checkRefresh_iff : i.checkRefresh now denied token = .ok who ↔
    ∃ c id, i.verifyRefresh now token = .ok (c, id) ∧ id ∉ denied.map (·.1) ∧ who = ⟨c.userId, c.subject⟩ := by
  rw [checkRefresh]
  rcases i.verifyRefresh now token with e | ⟨c, id⟩
  · constructor
    · intro h
      cases h
    · rintro ⟨_, _, ⟨⟩, -⟩
  dsimp only [bind, Except.bind]
  split
  · next listed =>
    constructor
    · intro h
      cases h
    · rintro ⟨_, _, ⟨⟩, unlisted, -⟩
      exact absurd (lookup_isSome_iff.1 listed) unlisted
  · next free =>
    constructor
    · intro h
      exact ⟨c, id, rfl, fun listed => free (lookup_isSome_iff.2 listed), (Except.ok.inj h).symm⟩
    · rintro ⟨_, _, ⟨⟩, -, rfl⟩
      rfl

/-- A token that is good for a refresh has a sound signature and an identifier, and its claims are gone by. -/
theorem checkRefresh_eq_ok (h : i.checkRefresh now denied token = .ok who) : (i.mark? token).isSome = true ∧
    ∃ c, i.verify i.refreshKey now token = .ok c ∧ who = ⟨c.userId, c.subject⟩ := by
  obtain ⟨c, id, verified, -, rfl⟩ := checkRefresh_iff.1 h
  refine ⟨?_, c, (verifyRefresh_eq_ok.1 verified).1, rfl⟩
  rw [(mark?_of_verifyRefresh verified).1]
  rfl

theorem checkRefresh_error {e : ServiceError} (h : i.checkRefresh now denied token = .error e) : e = .invalidToken := by
  have verifies := verifyRefresh_verifies i now token
  rw [checkRefresh] at h
  generalize i.verifyRefresh now token = verified at h verifies
  cases verifies with
  | refused => exact (Except.error.inj h).symm
  | good marked live =>
    dsimp only [bind, Except.bind] at h
    split at h
    · exact (Except.error.inj h).symm
    · cases h

end Issuer

/-- Both tokens are signed here, and tell the id and the name of this user. -/
structure IssuedTokens.AreFor (issuer : Issuer) (tokens : IssuedTokens) (user : User) : Prop where
  access : ∃ c : Claims, tokens.access = Token.sign issuer.accessKey c ∧
    c.userId = user.id ∧ c.subject = user.username
  refresh : ∃ c : Claims, tokens.refresh = Token.sign issuer.refreshKey c ∧
    c.userId = user.id ∧ c.subject = user.username

theorem Issuer.issue_areFor (issuer : Issuer) (now : Instant) (user : User) (jti : String) :
    (issuer.issue now user jti).AreFor issuer user := ⟨⟨_, rfl, rfl, rfl⟩, ⟨_, rfl, rfl, rfl⟩⟩

theorem IssuedTokens.AreFor.whose {issuer : Issuer} {tokens : IssuedTokens} {user : User}
    (h : tokens.AreFor issuer user) {now : Instant} {denied : Issuer.DenyList} {who : Identity}
    (checked : issuer.checkRefresh now denied tokens.refresh = .ok who) : who = ⟨user.id, user.username⟩ := by
  obtain ⟨claims, signed, id, name⟩ := h.refresh
  obtain ⟨-, c, verified, rfl⟩ := Issuer.checkRefresh_eq_ok checked
  rw [signed] at verified
  obtain ⟨-, -, -, rfl⟩ := Issuer.verify_sign.1 verified
  rw [id, name]

/-- The session tokens that a use case has come to. -/
def UseCase.tokens? : (u : UseCase) → Except ServiceError u.Answer → Option IssuedTokens
  | login .., .ok (_, tokens) => some tokens
  | refresh .., .ok tokens => some tokens
  | _, _ => none

namespace Errand

/-- The session tokens that an errand comes to. -/
def tokens? (issuer : Issuer) (w : World) : Errand → Option IssuedTokens
  | ⟨.useCase u, clock, accepts⟩ => u.tokens? (run issuer ⟨.useCase u, clock, accepts⟩ w).1
  | ⟨.handle _, _, _⟩ => none

/-- A refresh token with a sound signature is one that an earlier login or refresh came to. -/
def Authentic (issuer : Issuer) (es : List Errand) : Prop :=
  ∀ before jti token clock accepts later, es = before ++ ⟨.useCase (.refresh jti token), clock, accepts⟩ :: later →
    (issuer.mark? token).isSome = true → ∃ early e between tokens, before = early ++ e :: between ∧
      e.tokens? issuer (after issuer early .start) = some tokens ∧ token = tokens.refresh

variable {issuer : Issuer} {es : List Errand} {e : Errand} {tokens : IssuedTokens}

theorem tokens?_login {jti username password : String} {clock : Nat → Instant} {accepts : Letter → Bool} {w : World}
    {user : User} (opened : (run issuer ⟨.useCase (.login jti username password), clock, accepts⟩ w).1 =
      .ok (user, tokens)) : tokens? issuer w ⟨.useCase (.login jti username password), clock, accepts⟩ = some tokens := by
  rw [tokens?, opened]
  rfl

theorem tokens?_refresh {jti token : String} {clock : Nat → Instant} {accepts : Letter → Bool} {w : World}
    (opened : (run issuer ⟨.useCase (.refresh jti token), clock, accepts⟩ w).1 = .ok tokens) :
    tokens? issuer w ⟨.useCase (.refresh jti token), clock, accepts⟩ = some tokens := by
  rw [tokens?, opened]
  rfl

/-- Tokens are made for a user who is stored, and verified where it is not a refresh token that tells the user. -/
theorem granted {t : Tables} {denied : Issuer.DenyList} (h : e.tokens? issuer ⟨.memory t, denied⟩ = some tokens) :
    ∃ user ∈ t.users.values, tokens.AreFor issuer user ∧ (user.verified = true ∨
      ∃ jti token clock accepts, e = ⟨.useCase (.refresh jti token), clock, accepts⟩ ∧
        issuer.checkRefresh (clock 0) denied token = .ok ⟨user.id, user.username⟩) := by
  obtain ⟨task, clock, accepts⟩ := e
  cases task with
  | handle body => cases h
  | useCase u =>
    rw [tokens?] at h
    cases ran : (run issuer ⟨.useCase u, clock, accepts⟩ ⟨.memory t, denied⟩).1 with
    | error e =>
      rw [ran] at h
      cases u <;> cases h
    | ok a =>
      rw [ran] at h
      cases u with
      | login jti username password =>
        obtain ⟨user, made⟩ := a
        obtain rfl : made = tokens := Option.some.inj h
        obtain ⟨named, verified, k, rfl⟩ := UseCase.granted_of_login ran
        exact ⟨user, (Tables.userByName?_eq_some named).1, issuer.issue_areFor _ _ _, .inl verified⟩
      | refresh jti token =>
        obtain rfl : a = tokens := Option.some.inj h
        obtain ⟨user, named, checked, k, rfl⟩ := UseCase.granted_of_refresh ran
        exact ⟨user, (Tables.userByName?_eq_some named).1, issuer.issue_areFor _ _ _,
          .inr ⟨jti, token, clock, accepts, rfl, checked⟩⟩
      | _ => cases h

theorem verified_of_tokens? (authentic : Authentic issuer es) {before later : List Errand}
    (split : es = before ++ e :: later) (opens : e.tokens? issuer (after issuer before .start) = some tokens) :
    ∃ user ∈ (tablesAfter issuer before).users.values, user.verified = true ∧ tokens.AreFor issuer user := by
  -- on the errands before: a refresh presents the token of an earlier errand
  induction size : before.length using Nat.strong_induction_on generalizing before e later tokens with
  | h n ih =>
    obtain ⟨denied, world⟩ := (leads_start issuer before).world
    rw [world] at opens
    obtain ⟨user, stored, made, verified | ⟨jti, token, clock, accepts, rfl, checked⟩⟩ := granted opens
    · exact ⟨user, stored, verified, made⟩
    · obtain ⟨early, e', between, earlier, rfl, opens', rfl⟩ :=
        authentic before jti token clock accepts later split (Issuer.checkRefresh_eq_ok checked).1
      have less : early.length < n := by
        rw [← size, List.length_append, List.length_cons]
        omega
      obtain ⟨owner, there, proved, made'⟩ := ih _ less (by rw [split, List.append_assoc]; rfl) opens' rfl
      have told := made'.whose checked
      have same : user.id = owner.id := congrArg Identity.userId told
      have consistent := (leads_start issuer (early ++ e' :: between)).consistent
      rcases user_stays there (e' :: between) with ⟨row, mem, id, -, stays⟩ | deleted
      · obtain rfl := consistent.users.eq_of_key_eq mem stored (id.trans same.symm)
        exact ⟨row, stored, stays proved, made⟩
      · have gone := gone_of_deletedIn there deleted
        rw [← same] at gone
        exact absurd (consistent.users.mem_keys_iff.2 ⟨user, stored, rfl⟩) gone

/-- A refresh token of a user who is not there is refused. -/
theorem refresh_refused {user : User} (made : tokens.AreFor issuer user) (gone : user.id ∉ (tablesAfter issuer es).users.keys)
    (jti : String) (clock : Nat → Instant) (accepts : Letter → Bool) :
    (run issuer ⟨.useCase (.refresh jti tokens.refresh), clock, accepts⟩ (after issuer es .start)).1 =
      .error .invalidToken := by
  obtain ⟨denied, world⟩ := (leads_start issuer es).world
  have consistent := (leads_start issuer es).consistent
  rw [world]
  refine UseCase.refused_of_refresh (fun who checked => made.whose checked) (fun other stored same => gone ?_)
    fun e => Issuer.checkRefresh_error
  exact consistent.users.mem_keys_iff.2 ⟨other, stored, same⟩

/-- Whatever is done, in whatever order and at whatever instants, where refresh tokens with a sound signature are those
that were issued: session tokens are made for users who are stored and verified, by a Verify of a token of theirs, and
tell their ids and names; once the account is deleted, such a refresh token is refused for ever, also when the name is
taken again. And a verified user stays verified until the account is deleted. -/
theorem sessions_of_verified_users (issuer : Issuer) (es : List Errand) (authentic : Authentic issuer es) :
    (∀ before e later tokens, es = before ++ e :: later →
      e.tokens? issuer (after issuer before .start) = some tokens →
      ∃ user ∈ (tablesAfter issuer before).users.values, user.verified = true ∧ VerifiedIn issuer before user.id ∧
        tokens.AreFor issuer user ∧
        ∀ between jti clock accepts, DeletedIn issuer before (e :: between) user.username →
          (run issuer ⟨.useCase (.refresh jti tokens.refresh), clock, accepts⟩
            (after issuer (before ++ e :: between) .start)).1 = .error .invalidToken) ∧
    ∀ before between, ∀ user ∈ (tablesAfter issuer before).users.values, user.verified = true →
      (∃ row ∈ (tablesAfter issuer (before ++ between)).users.values, row.id = user.id ∧ row.verified = true) ∨
        DeletedIn issuer before between user.username := by
  constructor
  · intro before e later tokens split opens
    obtain ⟨user, stored, verified, made⟩ := verified_of_tokens? authentic split opens
    refine ⟨user, stored, verified, verifiedIn_of_verified stored verified, made, ?_⟩
    intro between jti clock accepts deleted
    exact refresh_refused made (gone_of_deletedIn stored deleted) jti clock accepts
  · intro before between user stored verified
    rcases user_stays stored between with ⟨row, there, id, -, stays⟩ | deleted
    · exact .inl ⟨row, there, id, stays verified⟩
    · exact .inr deleted

end Errand

/-! ### A small history -/

namespace Sample
open Errand

/-- Carried out at the thousandth second. -/
def errand (u : UseCase) : Errand := ⟨.useCase u, fun _ => 1000000000, fun _ => true⟩

theorem run_errand (u : UseCase) (w : World) : (errand u).run issuer w =
    u.perform issuer 1000000000 (Relay.mailer fun _ => true) w := (UseCase.perform_eq_pursue u w).symm

def sixteen : Bytes := List.replicate 16 0

/-- Somebody registers as ann. -/
def signUp (token : DrawnToken) : Errand := errand (.register 1000000 sixteen token registration)

def prove : Errand := errand (.verify tokenA.text)

def logIn : Errand := errand (.login "1" "ann" "secret")

def proven : User := (User.fresh ⟨"ann", registration.profile⟩ 1000000000 1).markVerified 1000000000

def session (jti : String) : IssuedTokens := issuer.issue 1000000000 proven jti

def refresh (jti next : String) : Errand := errand (.refresh next (session jti).refresh)

def leave : Errand := errand (.deleteAccount "ann")

/-- Ann registers, logs in and refreshes; when she has left, somebody else takes her name and presents her token. -/
def visits : List Errand :=
  [signUp tokenA, prove, logIn, refresh "1" "2", leave, signUp tokenB, refresh "2" "3"]

def signedUp (hash : String) : Tables :=
  let (row, event) := Action.issueToken "ann@x" tokenA.text .register 1000000000 1000000
  (Tables.answer 1000000000 (.create ⟨"ann", registration.profile⟩ hash row event) .empty).2

def provenIn (hash : String) : Tables := (Tables.answer 1000000000 (.verifyWithToken 1 1 1000000000) (signedUp hash)).2

theorem verifyRefresh_session (jti : String) : issuer.verifyRefresh 1000000000 (session jti).refresh =
    .ok (issuer.refreshClaims 1000000000 proven jti, jti) := by
  have lasts : Issuer.Lasts 1000000000 (1000000000 + issuer.settings.refreshTtl) := ⟨by decide, by decide, by decide⟩
  exact Issuer.verifyRefresh_refresh (lasts.fits ⟨by decide, by decide⟩) ⟨by decide, by decide, by decide⟩

section
variable {hash : String} (made : Password.hash sixteen registration.password = .ok hash)
include made

theorem after_prove : after issuer [signUp tokenA, prove] .start = ⟨.memory (provenIn hash), []⟩ := by
  have first : after issuer [signUp tokenA] .start = ⟨.memory (signedUp hash), []⟩ := by
    have ran := run_errand (.register 1000000 sixteen tokenA registration) .start
    exact congrArg Prod.snd (ran.trans (UseCase.perform_register (by decide) (by decide) (by decide) made))
  change after issuer ([signUp tokenA] ++ [prove]) .start = _
  rw [after_append, first]
  rfl

theorem run_logIn : logIn.run issuer ⟨.memory (provenIn hash), []⟩ =
    (.ok (proven, session "1"), ⟨.memory (provenIn hash), []⟩) := by
  have right : Password.verify "secret" hash = .ok true := Password.verify_hash (by decide) (by decide) made
  exact (run_errand _ _).trans (UseCase.perform_login (by decide) (by decide) rfl rfl right rfl)

theorem after_logIn : after issuer [signUp tokenA, prove, logIn] .start = ⟨.memory (provenIn hash), []⟩ := by
  change after issuer ([signUp tokenA, prove] ++ [logIn]) .start = _
  rw [after_append, after_prove made, after_singleton, run_logIn made]

end

theorem run_refresh (hash : String) : ∃ denied, (refresh "1" "2").run issuer ⟨.memory (provenIn hash), []⟩ =
    (.ok (session "2"), ⟨.memory (provenIn hash), denied⟩) := by
  have checked : issuer.checkRefresh 1000000000 [] (session "1").refresh = .ok ⟨proven.id, proven.username⟩ := by
    rw [Issuer.checkRefresh, verifyRefresh_session]
    rfl
  have spent : issuer.revoke 1000000000 1000000000 [] (session "1").refresh = (.ok (), _) :=
    Issuer.revoke_of_unlisted (verifyRefresh_session "1") List.not_mem_nil
  have found : (provenIn hash).userByName? proven.username = some proven := rfl
  exact ⟨_, (run_errand _ _).trans (UseCase.perform_refresh checked found spent)⟩

/-- The tokens of the login and of the first refresh. -/
theorem tokens_visits : logIn.tokens? issuer (after issuer [signUp tokenA, prove] .start) = some (session "1") ∧
    (refresh "1" "2").tokens? issuer (after issuer [signUp tokenA, prove, logIn] .start) = some (session "2") := by
  obtain ⟨hash, made⟩ := exists_hash sixteen
  obtain ⟨denied, refreshed⟩ := run_refresh hash
  constructor
  · rw [after_prove made]
    exact tokens?_login (congrArg Prod.fst (run_logIn made))
  · rw [after_logIn made]
    exact tokens?_refresh (congrArg Prod.fst refreshed)

theorem authentic_visits : Authentic issuer visits := by
  intro before jti token clock accepts later split _
  have there : visits[before.length]? = some ⟨.useCase (.refresh jti token), clock, accepts⟩ := by
    rw [split]
    simp
  have taken : before = visits.take before.length := by
    rw [split]
    simp
  generalize before.length = n at there taken
  subst taken
  match n with
  | 3 =>
    cases there
    exact ⟨[signUp tokenA, prove], logIn, [], session "1", rfl, tokens_visits.1, rfl⟩
  | 6 =>
    cases there
    exact ⟨[signUp tokenA, prove, logIn], refresh "1" "2", [leave, signUp tokenB], session "2", rfl, tokens_visits.2, rfl⟩
  | 0 | 1 | 2 | 4 | 5 | _ + 7 => cases there

theorem deletedIn_visits :
    DeletedIn issuer [signUp tokenA, prove, logIn] [refresh "1" "2", leave, signUp tokenB] "ann" := by
  obtain ⟨hash, made⟩ := exists_hash sixteen
  obtain ⟨denied, refreshed⟩ := run_refresh hash
  have there : after issuer ([signUp tokenA, prove, logIn] ++ [refresh "1" "2"]) .start =
      ⟨.memory (provenIn hash), denied⟩ := by
    rw [after_append, after_logIn made, after_singleton, refreshed]
  refine ⟨[refresh "1" "2"], _, _, [signUp tokenB], rfl, ?_⟩
  rw [there]
  have ran := run_errand (.deleteAccount "ann") ⟨.memory (provenIn hash), denied⟩
  exact congrArg Prod.fst (ran.trans (UseCase.perform_deleteAccount (by decide)))

end Sample

theorem Errand.sessions_of_verified_users_visits : Authentic Sample.issuer Sample.visits ∧
    (Sample.refresh "1" "2").tokens? Sample.issuer
      (after Sample.issuer [Sample.signUp Sample.tokenA, Sample.prove, Sample.logIn] .start) =
        some (Sample.session "2") ∧
    VerifiedIn Sample.issuer [Sample.signUp Sample.tokenA, Sample.prove, Sample.logIn] Sample.proven.id ∧
    ((Sample.refresh "2" "3").run Sample.issuer (after Sample.issuer ([Sample.signUp Sample.tokenA, Sample.prove,
      Sample.logIn] ++ Sample.refresh "1" "2" :: [Sample.leave, Sample.signUp Sample.tokenB]) .start)).1 =
        .error .invalidToken := by
  have opens := Sample.tokens_visits.2
  obtain ⟨user, stored, -, verified, -, refused⟩ :=
    (sessions_of_verified_users Sample.issuer Sample.visits Sample.authentic_visits).1
      [Sample.signUp Sample.tokenA, Sample.prove, Sample.logIn] _
      [Sample.leave, Sample.signUp Sample.tokenB, Sample.refresh "2" "3"] _ rfl opens
  have only : user = Sample.proven := by
    obtain ⟨hash, made⟩ := Sample.exists_hash Sample.sixteen
    rw [tablesAfter, Sample.after_logIn made] at stored
    exact List.mem_singleton.1 stored
  subst only
  exact ⟨Sample.authentic_visits, opens, verified, refused _ "3" _ _ Sample.deletedIn_visits⟩

end Accounts
