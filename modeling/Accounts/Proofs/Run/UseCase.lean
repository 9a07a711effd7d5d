import Accounts.Action.Account
import Accounts.Action.Session
import Accounts.Action.Verification
import Accounts.Proofs.Run.Basic
import Accounts.Proofs.Store.Accounts
import Accounts.Proofs.Store.Tokens
/-! The use cases of the service as data. Main statement: a use case that runs on tables in memory makes one call
that changes them, or none if it is refused. -/
namespace Accounts
open Time

/-- The text of a token as it is drawn at random. -/
structure DrawnToken where
  text : String
  size : text.length = Action.tokenSize
  letters : ∀ c ∈ text.toList, c ∈ Action.tokenAlphabet.toList

theorem DrawnToken.text_ne_empty (token : DrawnToken) : token.text ≠ "" := by
  intro empty
  have size := token.size
  rw [empty] at size
  exact absurd size (by decide)

/-- What a client may ask for, with what is drawn for it. -/
inductive UseCase
  | register (ttl : Span) (salt : Bytes) (token : DrawnToken) (r : Action.Registration)
  | resend (ttl cooldown : Span) (token : DrawnToken) (email : String)
  | verify (token : String)
  | getUser (username : String)
  | listUsers (page : Page)
  | updateProfile (username : String) (profile : Profile)
  | changePassword (salt : Bytes) (username current new : String)
  | deleteAccount (username : String)
  | login (jti username password : String)
  | refresh (jti token : String)
  | logout (token : String)

/-- The token that is stored if this succeeds. -/
def Effect.newToken? : Effect → Option NewToken
  | store c => c.newToken?
  | _ => none

def World.tables (w : World) : Tables :=
  match w.store with
  | .memory t => t
  | .database _ => .empty

namespace UseCase

@[reducible] def Answer : UseCase → Type
  | register .. => User
  | resend .. => Unit
  | verify _ => User
  | getUser _ => User
  | listUsers _ => Action.UserPage
  | updateProfile _ _ => User
  | changePassword .. => Unit
  | deleteAccount _ => Unit
  | login .. => User × IssuedTokens
  | refresh _ _ => IssuedTokens
  | logout _ => Unit

def action : (u : UseCase) → Action u.Answer
  | register ttl salt token r => Action.register ttl salt token.text r
  | resend ttl cooldown token email => Action.resend ttl cooldown token.text email
  | verify token => Action.verify token
  | getUser username => Action.getUser username
  | listUsers page => Action.listUsers page
  | updateProfile username profile => Action.updateProfile username profile
  | changePassword salt username current new => Action.changePassword salt username current new
  | deleteAccount username => Action.deleteAccount username
  | login jti username password => Action.login jti username password
  | refresh jti token => Action.refresh jti token
  | logout token => Action.logout token

def drawn? : UseCase → Option String
  | register _ _ token _ => some token.text
  | resend _ _ token _ => some token.text
  | _ => none

/-- The refresh token that is to be spent. -/
def presented? : UseCase → Option String
  | refresh _ token => some token
  | logout token => some token
  | _ => none

/-- Whether it changes the tables unless it is refused. -/
def writes : UseCase → Bool
  | getUser _ | listUsers _ | login .. | refresh _ _ | logout _ => false
  | _ => true

/-- The call by which a use case takes effect, with what was read before it. -/
inductive Commits (now : Instant) (t : Tables) : UseCase → StoreCall → Prop
  | register {ttl : Span} {salt : Bytes} {token : DrawnToken} {r : Action.Registration} {hash : String}
      (named : r.username ≠ "") (guarded : r.password ≠ "") (addressed : r.profile.email ≠ "")
      (hashed : Password.hash salt r.password = .ok hash) :
      Commits now t (.register ttl salt token r) (.create ⟨r.username, r.profile⟩ hash
        (Action.issueToken r.profile.email token.text .register now ttl).1
        (Action.issueToken r.profile.email token.text .register now ttl).2)
  | resend {ttl cooldown : Span} {token : DrawnToken} {email : String} {user : User} (addressed : email ≠ "")
      (found : (t.users.find? fun u => u.email = email) = some user) (unverified : user.verified = false)
      (waited : (Tables.latest? (t.tokens.values.filter fun row => row.userId = user.id)).any
        (Action.isTooSoon cooldown now) = false) :
      Commits now t (.resend ttl cooldown token email) (.rotate user.id
        (Action.issueToken user.email token.text .resend now ttl).1
        (Action.issueToken user.email token.text .resend now ttl).2)
  | verify {token : String} {found : VerificationToken} {user : User} (named : token ≠ "")
      (stored : (t.tokens.find? fun row => row.token = token) = some found)
      (owner : t.users.get? found.userId = some user) (live : found.isConsumed = false)
      (inTime : found.isExpired now = false) :
      Commits now t (.verify token) (.verifyWithToken found.id user.id now)
  | updateProfile {username : String} {profile : Profile} (named : username ≠ "") (addressed : profile.email ≠ "")
      (called : profile.name ≠ "") : Commits now t (.updateProfile username profile) (.updateProfile username profile)
  | changePassword {salt : Bytes} {username current new old hash : String} {user : User} (named : username ≠ "")
      (guarded : new ≠ "") (found : t.userByName? username = some user) (stored : t.hashes.lookup user.id = some old)
      (known : Password.verify current old = .ok true) (hashed : Password.hash salt new = .ok hash) :
      Commits now t (.changePassword salt username current new) (.updatePassword user.id hash)
  | deleteAccount {username : String} (named : username ≠ "") :
      Commits now t (.deleteAccount username) (.deleteUser username)

variable (issuer : Issuer) (now : Instant) (clock : Nat → Instant) (mail : MailAction)

def perform (u : UseCase) (w : World) : Except ServiceError u.Answer × World :=
  Program.run (World.answer issuer now mail) u.action.run w

/-- The same as the clock goes on, from its step `n`. -/
def pursue (u : UseCase) (w : World) (n : Nat) : Except ServiceError u.Answer × World × Nat :=
  Program.run (Program.ticking issuer clock mail) u.action.run (w, n)

/-- What a use case comes to on tables in memory: refused it leaves them alone, else it makes its call, which
succeeds. -/
inductive Outcome (t : Tables) (denied : Issuer.DenyList) (u : UseCase) : Except ServiceError u.Answer × World → Prop
  | refused (e : ServiceError) (after : Issuer.DenyList) : Outcome t denied u (.error e, ⟨.memory t, after⟩)
  | read (reads : u.writes = false) (a : u.Answer) (after : Issuer.DenyList) : Outcome t denied u (.ok a, ⟨.memory t, after⟩)
  | done {c : StoreCall} (commits : Commits now t u c) {r : c.Answer} (accepted : (Tables.answer now c t).1 = .ok r)
      (a : u.Answer) : Outcome t denied u (.ok a, ⟨.memory (Tables.answer now c t).2, denied⟩)

/-- As the clock goes on, the call is made of the reading at one step and answered at another. -/
inductive Pursued (t : Tables) (denied : Issuer.DenyList) (u : UseCase) :
    Except ServiceError u.Answer × World × Nat → Prop
  | refused (e : ServiceError) (after : Issuer.DenyList) (n : Nat) : Pursued t denied u (.error e, ⟨.memory t, after⟩, n)
  | read (reads : u.writes = false) (a : u.Answer) (after : Issuer.DenyList) (n : Nat) :
      Pursued t denied u (.ok a, ⟨.memory t, after⟩, n)
  | done {m k : Nat} {c : StoreCall} (commits : Commits (clock m) t u c) {r : c.Answer}
      (accepted : (Tables.answer (clock k) c t).1 = .ok r) (a : u.Answer) (n : Nat) :
      Pursued t denied u (.ok a, ⟨.memory (Tables.answer (clock k) c t).2, denied⟩, n)

variable {issuer now clock mail} {t : Tables} {denied : Issuer.DenyList} {n : Nat}

theorem findToken_answer (token : String) :
    World.answer issuer now mail (.store (.findToken token)) ⟨.memory t, denied⟩ =
      (.ok ((t.tokens.find? fun row => row.token = token).bind fun found =>
        (t.users.get? found.userId).map fun u => (found, u)), ⟨.memory t, denied⟩) := by
  simp only [World.answer, Store.answer, Tables.answer_findToken]

theorem ticking_findToken (token : String) :
    Program.ticking issuer clock mail (.store (.findToken token)) (⟨.memory t, denied⟩, n) =
      (.ok ((t.tokens.find? fun row => row.token = token).bind fun found =>
        (t.users.get? found.userId).map fun u => (found, u)), ⟨.memory t, denied⟩, n + 1) := by
  rw [Program.ticking, findToken_answer]

theorem after_write (c : StoreCall) {P : Except ServiceError c.Answer × World × Nat → Prop}
    (refused : ∀ e, P (.error e, ⟨.memory t, denied⟩, n + 1))
    (done : ∀ a, (Tables.answer (clock n) c t).1 = .ok a →
      P (.ok a, ⟨.memory (Tables.answer (clock n) c t).2, denied⟩, n + 1)) :
    P (Program.run (Program.ticking issuer clock mail) (Action.store c).run (⟨.memory t, denied⟩, n)) := by
  change P ((Tables.answer (clock n) c t).1, ⟨.memory (Tables.answer (clock n) c t).2, denied⟩, n + 1)
  rcases reply : (Tables.answer (clock n) c t).1 with e | a
  · rw [Tables.answer_refused reply]
    exact refused e
  · exact done a reply

/-! ### Each use case -/

theorem register_pursued (ttl : Span) (salt : Bytes) (token : DrawnToken) (r : Action.Registration) :
    Pursued clock t denied (.register ttl salt token r)
      (pursue issuer clock mail (.register ttl salt token r) ⟨.memory t, denied⟩ n) := by
  refine Program.after_nonempty (fun _ => .refused _ _ _) fun named => ?_
  refine Program.after_nonempty (fun _ => .refused _ _ _) fun guarded => ?_
  refine Program.after_nonempty (fun _ => .refused _ _ _) fun addressed => ?_
  refine Program.after_lift (fun e _ => .refused e _ _) fun hash hashed => ?_
  refine Program.after_now ?_
  refine after_write _ (fun e => .refused e _ _) fun a accepted => ?_
  exact .done (.register named guarded addressed hashed) accepted a _

theorem resend_pursued (ttl cooldown : Span) (token : DrawnToken) (email : String) :
    Pursued clock t denied (.resend ttl cooldown token email)
      (pursue issuer clock mail (.resend ttl cooldown token email) ⟨.memory t, denied⟩ n) := by
  refine Program.after_nonempty (fun _ => .refused _ _ _) fun addressed => ?_
  refine Program.after_read (.getUserByEmail email) rfl ?_
  refine Program.after_require (fun _ => .refused _ _ _) fun user found => ?_
  refine Program.after_guard (fun _ => .refused _ _ _) fun unverified => ?_
  refine Program.after_now ?_
  refine Program.after_read (.latestToken user.id) rfl ?_
  refine Program.after_guard (fun _ => .refused _ _ _) fun waited => ?_
  refine after_write _ (fun e => .refused e _ _) fun a accepted => ?_
  exact .done (.resend addressed found (Bool.not_eq_true _ ▸ unverified) (Bool.not_eq_true _ ▸ waited)) accepted a _

theorem verify_pursued (token : String) :
    Pursued clock t denied (.verify token) (pursue issuer clock mail (.verify token) ⟨.memory t, denied⟩ n) := by
  refine Program.after_nonempty (fun _ => .refused _ _ _) fun named => ?_
  refine Program.after_read (.findToken token) (ticking_findToken token) ?_
  refine Program.after_require (fun _ => .refused _ _ _) fun ⟨found, user⟩ stored => ?_
  refine Program.after_guard (fun _ => .refused _ _ _) fun live => ?_
  refine Program.after_now ?_
  refine Program.after_guard (fun _ => .refused _ _ _) fun inTime => ?_
  obtain ⟨row, at_, same⟩ := Option.bind_eq_some_iff.1 stored
  obtain ⟨owner, known, pair⟩ := Option.map_eq_some_iff.1 same
  obtain ⟨rfl, rfl⟩ := Prod.ext_iff.1 pair
  have commits := Commits.verify named at_ known (Bool.not_eq_true _ ▸ live) (Bool.not_eq_true _ ▸ inTime)
  exact after_write _ (fun e => .refused e _ _) fun a accepted => .done commits accepted a _

theorem updateProfile_pursued (username : String) (profile : Profile) :
    Pursued clock t denied (.updateProfile username profile)
      (pursue issuer clock mail (.updateProfile username profile) ⟨.memory t, denied⟩ n) := by
  refine Program.after_nonempty (fun _ => .refused _ _ _) fun named => ?_
  refine Program.after_nonempty (fun _ => .refused _ _ _) fun addressed => ?_
  refine Program.after_nonempty (fun _ => .refused _ _ _) fun called => ?_
  have commits : Commits (clock n) t _ _ := .updateProfile named addressed called
  exact after_write _ (fun e => .refused e _ _) fun a accepted => .done commits accepted a _

theorem changePassword_pursued (salt : Bytes) (username current new : String) :
    Pursued clock t denied (.changePassword salt username current new)
      (pursue issuer clock mail (.changePassword salt username current new) ⟨.memory t, denied⟩ n) := by
  refine Program.after_nonempty (fun _ => .refused _ _ _) fun named => ?_
  refine Program.after_nonempty (fun _ => .refused _ _ _) fun guarded => ?_
  refine Program.after_read (.getUser username) rfl ?_
  refine Program.after_require (fun _ => .refused _ _ _) fun user found => ?_
  refine Program.after_read (.getCredentials user.id) rfl ?_
  refine Program.after_require (fun _ => .refused _ _ _) fun credentials stored => ?_
  refine Program.after_lift (fun e _ => .refused e _ _) fun known verified => ?_
  refine Program.after_guard (fun _ => .refused _ _ _) fun right => ?_
  refine Program.after_lift (fun e _ => .refused e _ _) fun hash hashed => ?_
  obtain ⟨old, looked, rfl⟩ := Option.map_eq_some_iff.1 stored
  obtain rfl : known = true := by simpa using right
  have commits : Commits (clock n) t _ _ := .changePassword named guarded found looked verified hashed
  exact after_write _ (fun e => .refused e _ _) fun a accepted => .done commits accepted a _

theorem deleteAccount_pursued (username : String) :
    Pursued clock t denied (.deleteAccount username)
      (pursue issuer clock mail (.deleteAccount username) ⟨.memory t, denied⟩ n) := by
  refine Program.after_nonempty (fun _ => .refused _ _ _) fun named => ?_
  have commits : Commits (clock n) t _ _ := .deleteAccount named
  exact after_write _ (fun e => .refused e _ _) fun a accepted => .done commits accepted a _

theorem getUser_pursued (username : String) :
    Pursued clock t denied (.getUser username) (pursue issuer clock mail (.getUser username) ⟨.memory t, denied⟩ n) := by
  refine Program.after_read (.getUser username) rfl ?_
  cases t.userByName? username with
  | none => exact .refused _ _ _
  | some user => exact .read rfl _ _ _

theorem listUsers_pursued (page : Page) :
    Pursued clock t denied (.listUsers page) (pursue issuer clock mail (.listUsers page) ⟨.memory t, denied⟩ n) :=
  Program.after_read (.listUsers page.clamped) rfl (.read rfl _ _ _)

theorem login_pursued (jti username password : String) :
    Pursued clock t denied (.login jti username password)
      (pursue issuer clock mail (.login jti username password) ⟨.memory t, denied⟩ n) := by
  refine Program.after_guard (fun _ => .refused _ _ _) fun given => ?_
  refine Program.after_read (.getUser username) rfl ?_
  refine Program.after_require (fun _ => .refused _ _ _) fun user found => ?_
  refine Program.after_read (.getCredentials user.id) rfl ?_
  refine Program.after_require (fun _ => .refused _ _ _) fun credentials stored => ?_
  refine Program.after_lift (fun e _ => .refused e _ _) fun known verified => ?_
  refine Program.after_guard (fun _ => .refused _ _ _) fun right => ?_
  refine Program.after_guard (fun _ => .refused _ _ _) fun proved => ?_
  exact .read rfl _ _ _

theorem refresh_pursued (jti token : String) :
    Pursued clock t denied (.refresh jti token) (pursue issuer clock mail (.refresh jti token) ⟨.memory t, denied⟩ n) := by
  refine Program.after_bind (fun e w ran => ?_) fun identity w ran => ?_
  all_goals obtain ⟨-, rfl⟩ := Prod.ext_iff.1 ran
  · exact .refused e _ _
  refine Program.after_read (.getUser identity.username) rfl ?_
  refine Program.after_require (fun _ => .refused _ _ _) fun user found => ?_
  refine Program.after_bind (fun e w ran => ?_) fun _ w ran => ?_
  all_goals obtain ⟨m, revoked⟩ := Program.run_revoke issuer clock mail token ⟨.memory t, denied⟩ (n + 2)
  all_goals obtain ⟨-, rfl⟩ := Prod.ext_iff.1 (ran.symm.trans revoked)
  · exact .refused e _ _
  · exact .read rfl _ _ _

theorem logout_pursued (token : String) :
    Pursued clock t denied (.logout token) (pursue issuer clock mail (.logout token) ⟨.memory t, denied⟩ n) := by
  obtain ⟨m, revoked⟩ := Program.run_revoke issuer clock mail token ⟨.memory t, denied⟩ n
  rcases ran : pursue issuer clock mail (.logout token) ⟨.memory t, denied⟩ n with ⟨e | a, w⟩
  all_goals obtain ⟨-, rfl⟩ := Prod.ext_iff.1 (ran.symm.trans revoked)
  · exact .refused e _ _
  · exact .read rfl _ _ _

/-- A use case that runs on tables in memory makes one call that changes them, or none if it is refused. -/
theorem pursue_pursued (u : UseCase) : Pursued clock t denied u (pursue issuer clock mail u ⟨.memory t, denied⟩ n) := by
  cases u with
  | register ttl salt token r => exact register_pursued ttl salt token r
  | resend ttl cooldown token email => exact resend_pursued ttl cooldown token email
  | verify token => exact verify_pursued token
  | getUser username => exact getUser_pursued username
  | listUsers page => exact listUsers_pursued page
  | updateProfile username profile => exact updateProfile_pursued username profile
  | changePassword salt username current new => exact changePassword_pursued salt username current new
  | deleteAccount username => exact deleteAccount_pursued username
  | login jti username password => exact login_pursued jti username password
  | refresh jti token => exact refresh_pursued jti token
  | logout token => exact logout_pursued token

theorem perform_eq_pursue (u : UseCase) (w : World) : perform issuer now mail u w =
    ((pursue issuer (fun _ => now) mail u w n).1, (pursue issuer (fun _ => now) mail u w n).2.1) :=
  (Program.run_ticking_const issuer now mail u.action.run w n).symm

theorem perform_outcome (u : UseCase) : Outcome now t denied u (perform issuer now mail u ⟨.memory t, denied⟩) := by
  have pursued : Pursued (fun _ => now) t denied u (pursue issuer (fun _ => now) mail u ⟨.memory t, denied⟩ 0) :=
    u.pursue_pursued
  rw [perform_eq_pursue (n := 0)]
  generalize pursue issuer (fun _ => now) mail u ⟨.memory t, denied⟩ 0 = out at pursued ⊢
  cases pursued with
  | refused e after n => exact .refused e after
  | read reads a after n => exact .read reads a after
  | done commits accepted a n => exact .done commits accepted a

/-- What a use case that writes has done when it succeeds. -/
theorem Outcome.commits {u : UseCase} {out : Except ServiceError u.Answer × World} (h : u.Outcome now t denied out)
    (writes : u.writes = true) {a : u.Answer} (ok : out.1 = .ok a) :
    ∃ c, u.Commits now t c ∧ ∃ r, (Tables.answer now c t).1 = .ok r ∧
      out.2 = ⟨.memory (Tables.answer now c t).2, denied⟩ := by
  cases h with
  | refused => cases ok
  | read reads =>
    rw [writes] at reads
    cases reads
  | done commits accepted => exact ⟨_, commits, _, accepted, rfl⟩

/-! ### Session tokens -/

/-- A login finds the user verified. -/
theorem granted_of_login {jti username password : String} {user : User} {tokens : IssuedTokens}
    (answered : (pursue issuer clock mail (.login jti username password) ⟨.memory t, denied⟩ n).1 = .ok (user, tokens)) :
    t.userByName? user.username = some user ∧ user.verified = true ∧ ∃ k, tokens = issuer.issue (clock k) user jti := by
  let P (out : Except ServiceError (User × IssuedTokens) × World × Nat) : Prop := out.1 = .ok (user, tokens) →
    t.userByName? user.username = some user ∧ user.verified = true ∧ ∃ k, tokens = issuer.issue (clock k) user jti
  suffices P (pursue issuer clock mail (.login jti username password) ⟨.memory t, denied⟩ n) from this answered
  refine Program.after_guard (P := P) (fun _ => nofun) fun given => ?_
  refine Program.after_read (P := P) (.getUser username) rfl ?_
  refine Program.after_require (P := P) (fun _ => nofun) fun found named => ?_
  refine Program.after_read (P := P) (.getCredentials found.id) rfl ?_
  refine Program.after_require (P := P) (fun _ => nofun) fun credentials _ => ?_
  refine Program.after_lift (P := P) (fun _ _ => nofun) fun known _ => ?_
  refine Program.after_guard (P := P) (fun _ => nofun) fun right => ?_
  refine Program.after_guard (P := P) (fun _ => nofun) fun proved => ?_
  intro same
  obtain ⟨rfl, rfl⟩ := Prod.ext_iff.1 (Except.ok.inj same)
  obtain ⟨-, rfl⟩ := Tables.userByName?_eq_some named
  exact ⟨named, by simpa using proved, _, rfl⟩

/-- A refresh goes by the claims of the token that is presented. -/
theorem granted_of_refresh {jti token : String} {tokens : IssuedTokens}
    (answered : (pursue issuer clock mail (.refresh jti token) ⟨.memory t, denied⟩ n).1 = .ok tokens) :
    ∃ user, t.userByName? user.username = some user ∧
      issuer.checkRefresh (clock n) denied token = .ok ⟨user.id, user.username⟩ ∧
      ∃ k, tokens = issuer.issue (clock k) user jti := by
  let P (out : Except ServiceError IssuedTokens × World × Nat) : Prop := out.1 = .ok tokens →
    ∃ user, t.userByName? user.username = some user ∧
      issuer.checkRefresh (clock n) denied token = .ok ⟨user.id, user.username⟩ ∧
      ∃ k, tokens = issuer.issue (clock k) user jti
  suffices P (pursue issuer clock mail (.refresh jti token) ⟨.memory t, denied⟩ n) from this answered
  refine Program.after_bind (P := P) (fun e s _ => nofun) fun who s ran => ?_
  obtain ⟨checked, rfl⟩ := Prod.ext_iff.1 ran
  refine Program.after_read (P := P) (.getUser who.username) rfl ?_
  refine Program.after_require (P := P) (fun _ => nofun) fun user found => ?_
  refine Program.after_bind (P := P) (fun e s _ => nofun) fun _ s ran => ?_
  obtain ⟨m, revoked⟩ := Program.run_revoke issuer clock mail token ⟨.memory t, denied⟩ (n + 2)
  obtain ⟨-, rfl⟩ := Prod.ext_iff.1 (ran.symm.trans revoked)
  intro same
  obtain ⟨named, id⟩ := Option.filter_eq_some_iff.1 found
  obtain ⟨-, name⟩ := Tables.userByName?_eq_some named
  have whose : who = ⟨user.id, user.username⟩ := by
    rw [name, of_decide_eq_true id]
  rw [← name] at named
  exact ⟨user, named, whose ▸ checked, _, (Except.ok.inj same).symm⟩

/-- A refresh is refused for want of a user with the id that the token tells. -/
theorem refused_of_refresh {jti token : String} {id : Int} {username : String}
    (told : ∀ who, issuer.checkRefresh (clock n) denied token = .ok who → who = ⟨id, username⟩)
    (gone : ∀ user ∈ t.users.values, user.id ≠ id)
    (refused : ∀ e, issuer.checkRefresh (clock n) denied token = .error e → e = .invalidToken) :
    (pursue issuer clock mail (.refresh jti token) ⟨.memory t, denied⟩ n).1 = .error .invalidToken := by
  let P (out : Except ServiceError IssuedTokens × World × Nat) : Prop := out.1 = .error .invalidToken
  refine Program.after_bind (P := P) (fun e s ran => ?_) fun who s ran => ?_
  all_goals obtain ⟨checked, rfl⟩ := Prod.ext_iff.1 ran
  · exact congrArg Except.error (refused e checked)
  obtain rfl := told who checked
  refine Program.after_read (P := P) (.getUser username) rfl ?_
  refine Program.after_require (P := P) (fun _ => rfl) fun user found => ?_
  obtain ⟨named, same⟩ := Option.filter_eq_some_iff.1 found
  exact absurd (of_decide_eq_true same) (gone user (Tables.userByName?_eq_some named).1)

/-! ### What is known to succeed -/

/-- A registration that is not refused before it reads the clock. -/
theorem action_register {ttl : Span} {salt : Bytes} {token : DrawnToken} {r : Action.Registration} {hash : String}
    (named : r.username ≠ "") (guarded : r.password ≠ "") (addressed : r.profile.email ≠ "")
    (hashed : Password.hash salt r.password = .ok hash) :
    (action (.register ttl salt token r)).run = .ask .clock fun now =>
      let (row, event) := Action.issueToken r.profile.email token.text .register now ttl
      .ask (.store (.create ⟨r.username, r.profile⟩ hash row event)) .done := by
  refine Program.of_nonempty (P := fun p => p = _) (fun empty => absurd empty named) fun _ => ?_
  refine Program.of_nonempty (P := fun p => p = _) (fun empty => absurd empty guarded) fun _ => ?_
  refine Program.of_nonempty (P := fun p => p = _) (fun empty => absurd empty addressed) fun _ => ?_
  refine Program.of_lift (P := fun p => p = _) (fun e refused => ?_) fun h same => ?_
  · rw [hashed] at refused
    cases refused
  · obtain rfl := Except.ok.inj (hashed.symm.trans same)
    rfl

theorem perform_register {ttl : Span} {salt : Bytes} {token : DrawnToken} {r : Action.Registration} {hash : String}
    (named : r.username ≠ "") (guarded : r.password ≠ "") (addressed : r.profile.email ≠ "")
    (hashed : Password.hash salt r.password = .ok hash) :
    perform issuer now mail (.register ttl salt token r) ⟨.memory t, denied⟩ =
      let (row, event) := Action.issueToken r.profile.email token.text .register now ttl
      let (reply, after) := Tables.answer now (.create ⟨r.username, r.profile⟩ hash row event) t
      (reply, ⟨.memory after, denied⟩) := by
  rw [perform, action_register named guarded addressed hashed]
  rfl

theorem perform_getUser {user : User} {username : String} (found : t.userByName? username = some user) :
    perform issuer now mail (.getUser username) ⟨.memory t, denied⟩ = (.ok user, ⟨.memory t, denied⟩) := by
  refine (Program.run_read_ok (.getUser username) rfl _).trans ?_
  rw [found]
  rfl

theorem perform_updateProfile {username : String} {profile : Profile} (named : username ≠ "")
    (addressed : profile.email ≠ "") (called : profile.name ≠ "") :
    perform issuer now mail (.updateProfile username profile) ⟨.memory t, denied⟩ =
      ((Tables.answer now (.updateProfile username profile) t).1,
        ⟨.memory (Tables.answer now (.updateProfile username profile) t).2, denied⟩) :=
  (Program.run_nonempty_given named _).trans <|
    (Program.run_nonempty_given addressed _).trans (Program.run_nonempty_given called _)

theorem perform_deleteAccount {username : String} (named : username ≠ "") :
    perform issuer now mail (.deleteAccount username) ⟨.memory t, denied⟩ =
      ((Tables.answer now (.deleteUser username) t).1, ⟨.memory (Tables.answer now (.deleteUser username) t).2, denied⟩) :=
  Program.run_nonempty_given named _

theorem perform_login {jti username password hash : String} {user : User} (named : username ≠ "")
    (guarded : password ≠ "") (found : t.userByName? username = some user) (stored : t.hashes.lookup user.id = some hash)
    (right : Password.verify password hash = .ok true) (proved : user.verified = true) :
    perform issuer now mail (.login jti username password) ⟨.memory t, denied⟩ =
      (.ok (user, issuer.issue now user jti), ⟨.memory t, denied⟩) := by
  have given : ¬(username.isEmpty || password.isEmpty) = true := by simp [named, guarded]
  refine (Program.run_guard_free given _).trans ?_
  refine (Program.run_read_ok (.getUser username) rfl _).trans ?_
  refine (Program.run_require_some found _).trans ?_
  refine (Program.run_read_ok (.getCredentials user.id) rfl _).trans ?_
  refine (Program.run_require_some (congrArg (Option.map _) stored) _).trans ?_
  refine (Program.run_lift_ok right _).trans ?_
  refine (Program.run_guard_free (by decide) _).trans ?_
  exact Program.run_guard_free (by simp [proved]) _

theorem perform_refresh {jti token : String} {user : User} {after : Issuer.DenyList}
    (checked : issuer.checkRefresh now denied token = .ok ⟨user.id, user.username⟩)
    (found : t.userByName? user.username = some user) (spent : issuer.revoke now now denied token = (.ok (), after)) :
    perform issuer now mail (.refresh jti token) ⟨.memory t, denied⟩ =
      (.ok (issuer.issue now user jti), ⟨.memory t, after⟩) := by
  have held : Program.run (World.answer issuer now mail) (Action.checkRefresh token).run ⟨.memory t, denied⟩ =
      (.ok ⟨user.id, user.username⟩, ⟨.memory t, denied⟩) := congrArg (·, _) checked
  have revoked : Program.run (World.answer issuer now mail) (Action.revoke token).run ⟨.memory t, denied⟩ =
      (.ok (), ⟨.memory t, after⟩) := by
    obtain ⟨m, ran⟩ := Program.run_revoke issuer (fun _ => now) mail token ⟨.memory t, denied⟩ 0
    rw [← Program.run_ticking_const (n := 0), ran, spent]
  have same : (t.userByName? user.username).filter (fun u => u.id = user.id) = some user := by
    rw [found]
    exact if_pos (decide_eq_true rfl)
  refine (Program.run_except_bind _ _ _ _).trans ?_
  rw [held]
  refine (Program.run_read_ok (.getUser user.username) rfl _).trans ?_
  refine (Program.run_require_some same _).trans ?_
  refine (Program.run_except_bind _ _ _ _).trans ?_
  rw [revoked]
  rfl

/-! ### What a use case may ask for -/

/-- It sends no letters, looks for no events and settles none, and the tokens that it stores are issued at the instant
that it has read. -/
def MayAsk (seen : List Instant) : Effect → Prop
  | .store (.create _ _ token _) => token.issuedAt ∈ seen
  | .store (.rotate _ token _) => token.issuedAt ∈ seen
  | .store (.findEvent _) => False
  | .store (.updateStatus _ _) => False
  | .send _ => False
  | _ => True

/-- A token is spent by verification alone, and a session is ended only by a refresh token that is presented. -/
def Suits (u : UseCase) : Effect → Prop
  | .store (.verifyWithToken ..) => ∃ text, u = .verify text
  | .verifyRefresh token => u.presented? = some token
  | .deny .. => u.presented?.isSome
  | _ => True

/-- And only a use case that draws a token stores one. -/
def MayDraw (u : UseCase) (seen : List Instant) (e : Effect) : Prop :=
  MayAsk seen e ∧ (u.drawn? = none → e.newToken? = none) ∧ u.Suits e

theorem within_mayDraw (u : UseCase) : Program.Within u.MayDraw [] u.action.run := by
  have plain {seen : List Instant} {e : Effect} (free : MayAsk seen e) (quiet : e.newToken? = none)
      (suits : u.Suits e) : u.MayDraw seen e := ⟨free, fun _ => quiet, suits⟩
  cases u with
  | register ttl salt token r =>
    refine Program.within_nonempty (Program.within_nonempty (Program.within_nonempty ?_))
    refine Program.within_lift fun hash => Program.within_now (plain trivial rfl trivial) fun now => ?_
    exact Program.within_last ⟨List.mem_singleton_self now, nofun, trivial⟩
  | resend ttl cooldown token email =>
    refine Program.within_nonempty (Program.within_store (plain trivial rfl trivial) fun found => ?_)
    refine Program.within_require fun user => Program.within_guard ?_
    refine Program.within_now (plain trivial rfl trivial) fun now => ?_
    refine Program.within_store (plain trivial rfl trivial) fun latest => Program.within_guard ?_
    exact Program.within_last ⟨List.mem_singleton_self now, nofun, trivial⟩
  | verify token =>
    refine Program.within_nonempty (Program.within_store (plain trivial rfl trivial) fun stored => ?_)
    refine Program.within_require fun found => Program.within_guard ?_
    refine Program.within_now (plain trivial rfl trivial) fun now => ?_
    exact Program.within_guard (Program.within_last (plain trivial rfl ⟨token, rfl⟩))
  | getUser username => exact Program.within_store (plain trivial rfl trivial) fun found => by cases found <;> trivial
  | listUsers page => exact Program.within_store (plain trivial rfl trivial) fun found => trivial
  | updateProfile username profile =>
    refine Program.within_nonempty (Program.within_nonempty (Program.within_nonempty ?_))
    exact Program.within_last (plain trivial rfl trivial)
  | changePassword salt username current new =>
    refine Program.within_nonempty (Program.within_nonempty (Program.within_store (plain trivial rfl trivial) fun found => ?_))
    refine Program.within_require fun user => Program.within_store (plain trivial rfl trivial) fun stored => ?_
    refine Program.within_require fun credentials => Program.within_lift fun known => Program.within_guard ?_
    exact Program.within_lift fun hash => Program.within_last (plain trivial rfl trivial)
  | deleteAccount username => exact Program.within_nonempty (Program.within_last (plain trivial rfl trivial))
  | login jti username password =>
    refine Program.within_guard (Program.within_store (plain trivial rfl trivial) fun found => ?_)
    refine Program.within_require fun user => Program.within_store (plain trivial rfl trivial) fun stored => ?_
    refine Program.within_require fun credentials => Program.within_lift fun known => Program.within_guard ?_
    exact Program.within_guard ⟨plain trivial rfl trivial, fun tokens => by cases tokens <;> trivial⟩
  | refresh jti token =>
    refine ⟨plain trivial rfl trivial, fun checked => ?_⟩
    cases checked with
    | error e => trivial
    | ok identity =>
      refine Program.within_store (plain trivial rfl trivial) fun found => Program.within_require fun user => ?_
      refine Program.within_bind ?_ fun seen _ => ⟨plain trivial rfl trivial, fun tokens => trivial⟩
      exact Program.within_revoke (plain trivial rfl rfl) fun _ _ => plain trivial rfl rfl
  | logout token => exact Program.within_revoke (plain trivial rfl rfl) fun _ _ => plain trivial rfl rfl

theorem within_mayAsk (u : UseCase) : Program.Within MayAsk [] u.action.run :=
  Program.within_mono (fun _ _ free => free.1) u.within_mayDraw

end UseCase
end Accounts
