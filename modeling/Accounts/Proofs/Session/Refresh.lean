import Accounts.Proofs.Relay.Settlement
import Accounts.Proofs.Run.Passwords
import Accounts.Proofs.Run.Spent
/-! Refreshing a session at one instant: its token is looked at, the user is looked up, the token is spent, and new
tokens are issued. Main statement: either all of this is done or nothing, and what is done concerns no other token. -/
namespace Accounts
open Json Time Session

namespace Issuer
variable {i : Issuer} {now : Instant} {denied after : DenyList} {token id : String} {expiresAt : Int}

/-! ### The deny-list and other tokens -/

/-- What a refresh token is good for depends on its own identifier alone. -/
theorem checkRefresh_congr (same : ∀ c id, i.verifyRefresh now token = .ok (c, id) →
    (id ∈ after.map (·.1) ↔ id ∈ denied.map (·.1))) :
    i.checkRefresh now after token = i.checkRefresh now denied token := by
  rw [checkRefresh, checkRefresh]
  rcases verified : i.verifyRefresh now token with e | ⟨c, id⟩
  · rfl
  · exact if_congr (lookup_isSome_iff.trans ((same c id verified).trans lookup_isSome_iff.symm)) rfl rfl

/-- An entry with the identifier of the token is the token's own. -/
def Own (i : Issuer) (denied : DenyList) (token : String) : Prop :=
  ∀ f, i.mark? token = some f → ∀ e ∈ denied, e.1 = f.1 → e = f

/-- A token that is still good stays on the list: its entry ends when it does. -/
theorem checkRefresh_pruned (own : i.Own denied token) :
    i.checkRefresh now (pruned now denied) token = i.checkRefresh now denied token := by
  refine checkRefresh_congr fun c id verified => ?_
  obtain ⟨marked, live⟩ := mark?_of_verifyRefresh verified
  constructor
  · exact listed_of_pruned
  · intro listed
    obtain ⟨e, mem, same⟩ := List.mem_map.1 listed
    obtain rfl := own _ marked e mem same
    exact List.mem_map_of_mem (f := (·.1)) (mem_pruned.2 ⟨mem, live⟩)

theorem checkRefresh_append (apart : ∀ e, i.mark? token = some e → e.1 ≠ id) :
    i.checkRefresh now (denied ++ [(id, expiresAt)]) token = i.checkRefresh now denied token := by
  refine checkRefresh_congr fun c own verified => ?_
  have other : own ≠ id := apart _ (mark?_of_verifyRefresh verified).1
  simp [other]

theorem checkRefresh_of_listed (marked : i.mark? token = some (id, expiresAt)) (listed : id ∈ denied.map (·.1)) :
    i.checkRefresh now denied token = .error .invalidToken := by
  rcases checked : i.checkRefresh now denied token with e | who
  · rw [checkRefresh_error checked]
  · obtain ⟨c, _, verified, unlisted, -⟩ := checkRefresh_iff.1 checked
    cases marked.symm.trans (mark?_of_verifyRefresh verified).1
    exact absurd listed unlisted

/-! ### New tokens -/

section
variable {user : User} {jti : String} (early : leeway ≤ wholeSeconds now) (known : IsInt64 user.id)
include early

theorem live_of_later {later : Instant} (le : now ≤ later) : Live now (wholeSeconds later) := by
  have order := wholeSeconds_mono le
  have positive : 0 ≤ leeway := by decide
  exact ⟨early, by omega, by omega⟩

include known

theorem checkAccess_issue (told : IsInt64 (wholeSeconds (now + i.settings.accessTtl))) :
    i.checkAccess now (i.issue now user jti).access = .ok ⟨user.id, user.username⟩ := by
  have later : now ≤ now + i.settings.accessTtl := Int.le_add_of_nonneg_right (Int.le_of_lt i.accessTtl_pos)
  exact checkAccess_access.2 ⟨claims_fits early later known told, live_of_later early later, rfl⟩

theorem checkRefresh_issue (told : IsInt64 (wholeSeconds (now + i.settings.refreshTtl)))
    (unlisted : jti ∉ denied.map (·.1)) :
    i.checkRefresh now denied (i.issue now user jti).refresh = .ok ⟨user.id, user.username⟩ := by
  have later : now ≤ now + i.settings.refreshTtl := Int.le_add_of_nonneg_right (Int.le_of_lt i.refreshTtl_pos)
  have verified : i.verifyRefresh now (i.issue now user jti).refresh = .ok (i.refreshClaims now user jti, jti) :=
    verifyRefresh_refresh (claims_fits early later known told) (live_of_later early later)
  exact checkRefresh_iff.2 ⟨_, _, verified, unlisted, rfl⟩

end

end Issuer

/-- What a text is good for at an instant, as an access token and as a refresh token. -/
def World.goodFor (issuer : Issuer) (now : Instant) (w : World) (token : String) :
    Except ServiceError Identity × Except ServiceError Identity :=
  (issuer.checkAccess now token, issuer.checkRefresh now w.denied token)

/-! ### One refresh -/

/-- The token is good at this instant, with an identifier that is not on the deny-list, and tells the name and the id
of a user who is stored. -/
structure Renews (issuer : Issuer) (now : Instant) (w : World) (token id : String) (user : User) : Prop where
  verified : ∃ c, issuer.verify issuer.refreshKey now token = .ok c ∧ c.tokenId = some id ∧
    c.subject = user.username ∧ c.userId = user.id
  unlisted : id ∉ w.denied.map (·.1)
  stored : user ∈ w.tables.users.values

section
variable {issuer : Issuer} {now : Instant} {mail : MailAction} {w : World} {jti token id : String} {user : User}

theorem Renews.checked (h : Renews issuer now w token id user) :
    issuer.checkRefresh now w.denied token = .ok ⟨user.id, user.username⟩ := by
  obtain ⟨c, verified, named, subject, userId⟩ := h.verified
  refine Issuer.checkRefresh_iff.2 ⟨c, id, Issuer.verifyRefresh_eq_ok.2 ⟨verified, named⟩, h.unlisted, ?_⟩
  rw [subject, userId]

theorem Renews.early (h : Renews issuer now w token id user) : Issuer.leeway ≤ wholeSeconds now := by
  obtain ⟨c, verified, -⟩ := h.verified
  obtain ⟨-, accepted⟩ := Issuer.verify_eq_ok.1 verified
  simp only [Issuer.accepts, Bool.and_eq_true, decide_eq_true_eq] at accepted
  exact accepted.1.1.1.1

theorem Renews.known (h : Renews issuer now w token id user) : IsInt64 user.id := by
  obtain ⟨c, verified, -, -, userId⟩ := h.verified
  exact userId ▸ Token.isInt64_of_open? (Issuer.verify_eq_ok.1 verified).1

theorem Renews.marked (h : Renews issuer now w token id user) :
    ∃ expiresAt, issuer.mark? token = some (id, expiresAt) := by
  obtain ⟨c, verified, named, -⟩ := h.verified
  exact ⟨_, (Issuer.mark?_of_verifyRefresh (Issuer.verifyRefresh_eq_ok.2 ⟨verified, named⟩)).1⟩

/-- What a refresh comes to: it is refused and leaves all as it was, or it spends its token for new ones. -/
inductive Refreshes (issuer : Issuer) (now : Instant) (w : World) (jti token : String) :
    Except ServiceError IssuedTokens × World → Prop
  | refused (bad : ∀ id user, ¬Renews issuer now w token id user) :
      Refreshes issuer now w jti token (.error .invalidToken, w)
  | renewed {id : String} {user : User} {expiresAt : Int} (renews : Renews issuer now w token id user)
      (marked : issuer.mark? token = some (id, expiresAt)) : Refreshes issuer now w jti token
        (.ok (issuer.issue now user jti), ⟨w.store, Issuer.pruned now w.denied ++ [(id, expiresAt)]⟩)

variable {t : Tables} {denied : Issuer.DenyList}

theorem UseCase.perform_refresh_refused (bad : ∀ id user, ¬Renews issuer now ⟨.memory t, denied⟩ token id user) :
    perform issuer now mail (.refresh jti token) ⟨.memory t, denied⟩ = (.error .invalidToken, ⟨.memory t, denied⟩) := by
  let P (out : Except ServiceError IssuedTokens × World) : Prop := out = (.error .invalidToken, ⟨.memory t, denied⟩)
  refine Program.after_bind (P := P) (fun e s ran => ?_) fun who s ran => ?_
  all_goals obtain ⟨checked, rfl⟩ := Prod.ext_iff.1 ran
  · obtain rfl := Issuer.checkRefresh_error checked
    rfl
  obtain ⟨c, id, verified, unlisted, rfl⟩ := Issuer.checkRefresh_iff.1 checked
  refine Program.after_read (P := P) (.getUser c.subject) rfl ?_
  refine Program.after_require (P := P) (fun _ => rfl) fun user found => ?_
  obtain ⟨named, userId⟩ := Option.filter_eq_some_iff.1 found
  obtain ⟨stored, name⟩ := Tables.userByName?_eq_some named
  obtain ⟨verified, tokenId⟩ := Issuer.verifyRefresh_eq_ok.1 verified
  exact absurd ⟨⟨c, verified, tokenId, name.symm, (of_decide_eq_true userId).symm⟩, unlisted, stored⟩ (bad id user)

theorem UseCase.refresh_refreshes (consistent : t.Consistent) : Refreshes issuer now ⟨.memory t, denied⟩ jti token
    (perform issuer now mail (.refresh jti token) ⟨.memory t, denied⟩) := by
  by_cases possible : ∃ id user, Renews issuer now ⟨.memory t, denied⟩ token id user
  · obtain ⟨id, user, renews⟩ := possible
    obtain ⟨c, verified, tokenId, -⟩ := renews.verified
    have verified := Issuer.verifyRefresh_eq_ok.2 ⟨verified, tokenId⟩
    rw [perform_refresh renews.checked (consistent.userByName?_of_mem renews.stored)
      (Issuer.revoke_of_unlisted verified renews.unlisted)]
    exact .renewed renews (Issuer.mark?_of_verifyRefresh verified).1
  · have bad : ∀ id user, ¬Renews issuer now ⟨.memory t, denied⟩ token id user := fun id user renews =>
      possible ⟨id, user, renews⟩
    rw [perform_refresh_refused bad]
    exact .refused bad

end

namespace Pool
variable {issuer : Issuer} {turns : List Turn} {now : Instant} {token : String}

/-- No token that was presented has the identifier of this one and another end. So it is where each issued token has an
identifier of its own. -/
def OwnId (issuer : Issuer) (turns : List Turn) (token : String) : Prop :=
  ∀ other, Presented turns other → ∀ e e', issuer.mark? other = some e → issuer.mark? token = some e' →
    e.1 = e'.1 → e = e'

/-- Nobody has presented a token with this identifier, and the one that is presented now has another one. -/
def Fresh (issuer : Issuer) (turns : List Turn) (token jti : String) : Prop :=
  ∀ other, Presented turns other ∨ other = token → ∀ e, issuer.mark? other = some e → e.1 ≠ jti

/-- What is on the deny-list comes from tokens that were presented. -/
theorem presented_of_denied (issuer : Issuer) (turns : List Turn) {e : String × Int}
    (mem : e ∈ (run issuer .start turns).world.denied) :
    ∃ token, Presented turns token ∧ issuer.mark? token = some e := by
  induction turns using List.reverseRecOn with
  | nil => cases mem
  | append_singleton turns turn ih =>
    have earlier (old : e ∈ (run issuer .start turns).world.denied) :
        ∃ token, Presented (turns ++ [turn]) token ∧ issuer.mark? token = some e := by
      obtain ⟨token, presented, marked⟩ := ih old
      exact ⟨token, presented.append [turn], marked⟩
    have step := after_after issuer (run issuer .start turns) turn
    rw [run_append_singleton] at mem
    generalize (run issuer .start turns).after issuer turn = s' at step mem
    cases step with
    | start k => exact earlier mem
    | idle => exact earlier mem
    | @step place now accepts k effect next at_ reply world answered =>
      have puts := answer_puts answered
      obtain ⟨store, denied⟩ := world
      cases puts with
      | quiet unspent => exact earlier mem
      | deny enters =>
        obtain ⟨token, presented, marked⟩ := presented_of_deny at_
        rcases enters.mem mem with old | rfl
        · exact earlier old
        · exact ⟨token, presented.append _, marked⟩

theorem OwnId.own (h : OwnId issuer turns token) : issuer.Own (run issuer .start turns).world.denied token := by
  intro f marked e mem same
  obtain ⟨other, presented, marked'⟩ := presented_of_denied issuer turns mem
  exact h other presented e f marked' marked same

theorem Fresh.unlisted {jti : String} (h : Fresh issuer turns token jti) :
    jti ∉ (run issuer .start turns).world.denied.map (·.1) := by
  intro listed
  obtain ⟨e, mem, same⟩ := List.mem_map.1 listed
  obtain ⟨other, presented, marked⟩ := presented_of_denied issuer turns mem
  exact h other (.inl presented) e marked same

/-- The token, which has this identifier, was spent at this instant for new ones of this user. They are good at once if
their ends can be told and the new identifier was not used before. -/
structure Rotated (issuer : Issuer) (turns : List Turn) (now : Instant) (token id jti : String) (user : User)
    (tokens : IssuedTokens) (before after : World) : Prop where
  spent : issuer.checkRefresh now after.denied token = .error .invalidToken
  issued : tokens = issuer.issue now user jti
  access : IsInt64 (wholeSeconds tokens.accessExpiresAt) →
    issuer.checkAccess now tokens.access = .ok ⟨user.id, user.username⟩
  refresh : Fresh issuer turns token jti → IsInt64 (wholeSeconds tokens.refreshExpiresAt) →
    issuer.checkRefresh now after.denied tokens.refresh = .ok ⟨user.id, user.username⟩
  others : ∀ other, OwnId issuer turns other → (∀ e, issuer.mark? other = some e → e.1 ≠ id) →
    after.goodFor issuer now other = before.goodFor issuer now other

section
variable {jti id : String} {user : User} {expiresAt : Int}

theorem Rotated.of_renews (renews : Renews issuer now (run issuer .start turns).world token id user)
    (marked : issuer.mark? token = some (id, expiresAt)) :
    Rotated issuer turns now token id jti user (issuer.issue now user jti) (run issuer .start turns).world
      ⟨(run issuer .start turns).world.store,
        Issuer.pruned now (run issuer .start turns).world.denied ++ [(id, expiresAt)]⟩ where
  spent := Issuer.checkRefresh_of_listed marked (by simp)
  issued := rfl
  access := Issuer.checkAccess_issue renews.early renews.known
  refresh fresh told := by
    refine Issuer.checkRefresh_issue renews.early renews.known told ?_
    have apart : id ≠ jti := fresh token (.inr rfl) _ marked
    have unlisted : jti ∉ (Issuer.pruned now (run issuer .start turns).world.denied).map (·.1) := fun listed =>
      fresh.unlisted (Issuer.listed_of_pruned listed)
    simp [unlisted, apart.symm]
  others other own apart := by
    refine Prod.ext rfl ?_
    exact (Issuer.checkRefresh_append apart).trans (Issuer.checkRefresh_pruned own.own)

end

theorem refreshes_run (issuer : Issuer) (turns : List Turn) {mail : MailAction} {jti : String} :
    Refreshes issuer now (run issuer .start turns).world jti token
      ((UseCase.refresh jti token).perform issuer now mail (run issuer .start turns).world) := by
  rw [World.eq_of_memory (memory_run issuer turns)]
  exact UseCase.refresh_refreshes (consistent_run issuer turns)

/-- After whatever was done at the same time and in whatever order, at any instant: a refresh succeeds just if its token
is good, not on the deny-list, and tells the name and the id of a user who is stored. Then that token is spent, the new
ones are good for that user at once, and every token with an identifier of its own is good for what it was before. Else
the refresh is refused for an invalid token and all is as it was. The store is the same in any case. -/
theorem refresh_all_or_nothing (issuer : Issuer) (turns : List Turn) (now : Instant) (mail : MailAction)
    (jti token : String) :
    let before := (run issuer .start turns).world
    let out := (UseCase.refresh jti token).perform issuer now mail before
    ((∃ tokens, out.1 = .ok tokens) ↔ ∃ id user, Renews issuer now before token id user) ∧
    (∀ tokens, out.1 = .ok tokens → ∃ id user, Renews issuer now before token id user ∧
      Rotated issuer turns now token id jti user tokens before out.2) ∧
    (∀ e, out.1 = .error e → e = .invalidToken ∧ out.2 = before) ∧
    out.2.store = before.store := by
  intro before out
  have refreshes : Refreshes issuer now before jti token out := refreshes_run issuer turns
  clear_value out
  cases refreshes with
  | refused bad =>
    refine ⟨⟨nofun, fun ⟨id, user, renews⟩ => absurd renews (bad id user)⟩, nofun, fun e same => ?_, rfl⟩
    exact ⟨(Except.error.inj same).symm, rfl⟩
  | @renewed id user expiresAt renews marked =>
    refine ⟨⟨fun _ => ⟨id, user, renews⟩, fun _ => ⟨_, rfl⟩⟩, fun tokens same => ⟨id, user, renews, ?_⟩, nofun, rfl⟩
    obtain rfl := Except.ok.inj same
    exact .of_renews renews marked

end Pool

namespace Sample
open Pool

/-- A token is spent, and ann registers. -/
def company : List Turn :=
  [.start (.useCase (.logout (session "0").refresh)), .step 0 1000000000 fun _ => true,
    .step 0 1000000000 fun _ => true, .start (.useCase (.register 1000000 sixteen tokenA registration)),
    .step 1 1000000000 fun _ => true, .step 1 1000000000 fun _ => true]

theorem mark?_session (jti : String) : issuer.mark? (session jti).refresh = some (jti, 605800) :=
  (Issuer.mark?_of_verifyRefresh (verifyRefresh_session jti)).1

theorem world_company {hash : String} (made : Password.hash sixteen registration.password = .ok hash) :
    (run issuer .start company).world = ⟨.memory (signedUp hash), [("0", 605800)]⟩ := by
  have spent : (((fresh .start).after issuer (.start (.useCase (.logout (session "0").refresh)))).after issuer
      (.step 0 1000000000 fun _ => true)).after issuer (.step 0 1000000000 fun _ => true) = _ :=
    after_logout rfl (verifyRefresh_session "0") rfl _ _
  have register : Task.program (.useCase (.register 1000000 sixteen tokenA registration)) = _ :=
    UseCase.action_register (by decide) (by decide) (by decide) made
  rw [run, company, List.foldl_cons, List.foldl_cons, List.foldl_cons, spent]
  simp only [fresh, List.foldl, after, register, List.cons_append, List.nil_append, List.getElem?_cons_succ,
    List.getElem?_cons_zero, List.set_cons_succ, List.set_cons_zero]
  rfl

theorem presented_company {token : String} (h : Presented company token) : token = (session "0").refresh := by
  obtain ⟨u, mem, shown⟩ := h
  have among : Task.useCase u = .useCase (.logout (session "0").refresh) ∨
      Task.useCase u = .useCase (.register 1000000 sixteen tokenA registration) := by
    simpa [started, company] using mem
  rcases among with logout | register
  · cases logout
    exact (Option.some.inj shown).symm
  · cases register
    cases shown

theorem fresh_company : Fresh issuer company (session "1").refresh "2" := by
  rintro other (presented | same) e marked
  · rw [presented_company presented, mark?_session] at marked
    obtain rfl := Option.some.inj marked
    decide
  · rw [same, mark?_session] at marked
    obtain rfl := Option.some.inj marked
    decide

theorem ownId_company {jti : String} (apart : jti ≠ "0") : OwnId issuer company (session jti).refresh := by
  intro other presented e e' marked marked' same
  rw [presented_company presented, mark?_session] at marked
  rw [mark?_session] at marked'
  obtain rfl := Option.some.inj marked
  obtain rfl := Option.some.inj marked'
  exact absurd same.symm apart

def newcomer : User := User.fresh ⟨"ann", registration.profile⟩ 1000000000 1

theorem stored_company {user : User} :
    user ∈ (run issuer .start company).world.tables.users.values ↔ user = newcomer := by
  obtain ⟨hash, made⟩ := exists_hash sixteen
  rw [world_company made]
  exact List.mem_singleton

theorem renews_company :
    Renews issuer 1000000000 (run issuer .start company).world (session "1").refresh "1" newcomer := by
  obtain ⟨hash, made⟩ := exists_hash sixteen
  obtain ⟨verified, named⟩ := Issuer.verifyRefresh_eq_ok.1 (verifyRefresh_session "1")
  refine ⟨⟨_, verified, named, rfl, rfl⟩, ?_, stored_company.2 rfl⟩
  rw [world_company made]
  simp

end Sample

theorem Pool.refresh_all_or_nothing_company :
    let before := (run Sample.issuer .start Sample.company).world
    let out := (UseCase.refresh "2" (Sample.session "1").refresh).perform Sample.issuer 1000000000
      (Relay.mailer fun _ => true) before
    Fresh Sample.issuer Sample.company (Sample.session "1").refresh "2" ∧ ∃ tokens, out.1 = .ok tokens ∧
      Sample.issuer.checkRefresh 1000000000 out.2.denied (Sample.session "1").refresh = .error .invalidToken ∧
      Sample.issuer.checkAccess 1000000000 tokens.access = .ok ⟨1, "ann"⟩ ∧
      Sample.issuer.checkRefresh 1000000000 out.2.denied tokens.refresh = .ok ⟨1, "ann"⟩ ∧
      out.2.goodFor Sample.issuer 1000000000 (Sample.session "3").refresh =
        before.goodFor Sample.issuer 1000000000 (Sample.session "3").refresh := by
  have law := refresh_all_or_nothing Sample.issuer Sample.company 1000000000 (Relay.mailer fun _ => true) "2"
    (Sample.session "1").refresh
  dsimp only at law ⊢
  generalize UseCase.perform _ _ _ _ _ = out at law ⊢
  obtain ⟨succeeds, rotates, -, -⟩ := law
  obtain ⟨tokens, ok⟩ := succeeds.2 ⟨"1", _, Sample.renews_company⟩
  obtain ⟨id, user, renews, rotated⟩ := rotates tokens ok
  obtain rfl := Sample.stored_company.1 renews.stored
  have apart : ∀ e, Sample.issuer.mark? (Sample.session "3").refresh = some e → e.1 ≠ id := by
    intro e marked
    obtain ⟨expiresAt, own⟩ := renews.marked
    cases own.symm.trans (Sample.mark?_session "1")
    cases marked.symm.trans (Sample.mark?_session "3")
    decide
  have fits : IsInt64 (wholeSeconds tokens.accessExpiresAt) ∧ IsInt64 (wholeSeconds tokens.refreshExpiresAt) := by
    rw [rotated.issued]
    exact ⟨⟨by decide, by decide⟩, ⟨by decide, by decide⟩⟩
  exact ⟨Sample.fresh_company, tokens, ok, rotated.spent, rotated.access fits.1,
    rotated.refresh Sample.fresh_company fits.2, rotated.others _ (Sample.ownId_company (by decide)) apart⟩

end Accounts
