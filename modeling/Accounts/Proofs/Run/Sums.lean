import Accounts.Proofs.Run.Pool
import Accounts.Proofs.Session.Durations
import Accounts.Proofs.Session.Window
import Accounts.Proofs.Store.Dates
/-! Sums of instants. The use cases are written once more with every sum and every difference of instants checked, so
that they stop where one cannot be told. Main statement: with the lengths of time of settings that are taken, and a clock
that is ten years or more before the last instant, none stops for that. -/
namespace Accounts
open Time

/-- A length of time that can be told: its milliseconds are a word of 64 bits. -/
def IsTold (d : Span) : Prop := -9223372036854775807000 ≤ d ∧ d ≤ 9223372036854775807000

instance (d : Span) : Decidable (IsTold d) := inferInstanceAs (Decidable (_ ∧ _))

/-- Why a use case with checked sums comes to an early end. -/
inductive Stop
  | refused (e : ServiceError)
  | overflow

abbrev Checked := ExceptT Stop Program

namespace Checked
variable {α β γ σ : Type}

/-- A part that reckons with no instants. -/
def act (a : Action α) : Checked α := ExceptT.adapt Stop.refused a

def plus (t : Instant) (d : Span) : Checked Instant :=
  if Issuer.Representable (t + d) then pure (t + d) else throw .overflow

def minus (t s : Instant) : Checked Span := if IsTold (t - s) then pure (t - s) else throw .overflow

def issueToken (email token : String) (purpose : Purpose) (now : Instant) (ttl : Span) :
    Checked (NewToken × NewEvent) := do
  let expiresAt ← plus now ttl
  return (⟨token, purpose, now, expiresAt⟩, .verification ⟨email, token, purpose.text⟩ purpose)

def register (ttl : Span) (salt : Bytes) (token : String) (r : Action.Registration) : Checked User := do
  act (Action.nonempty "username" r.username)
  act (Action.nonempty "password" r.password)
  act (Action.nonempty "email" r.profile.email)
  let hash ← act (liftM (Password.hash salt r.password))
  let now ← act Action.now
  let (token, event) ← issueToken r.profile.email token .register now ttl
  act (Action.store (.create ⟨r.username, r.profile⟩ hash token event))

def isTooSoon (cooldown : Span) (now : Instant) : Option VerificationToken → Checked Bool
  | some latest => do
    if latest.purpose = .resend then return (← minus now latest.createdAt) < cooldown else return false
  | none => return false

def resend (ttl cooldown : Span) (token email : String) : Checked Unit := do
  act (Action.nonempty "email" email)
  let user ← act (Action.require .userNotFound (← act (Action.store (.getUserByEmail email))))
  if user.verified then throw (.refused .alreadyVerified)
  let now ← act Action.now
  if ← isTooSoon cooldown now (← act (Action.store (.latestToken user.id))) then throw (.refused .tooFrequent)
  let (token, event) ← issueToken user.email token .resend now ttl
  act (Action.store (.rotate user.id token event))

/-- The end of either token is a sum. -/
def withEnds (tokens : IssuedTokens) : Checked IssuedTokens :=
  if Issuer.Representable tokens.accessExpiresAt ∧ Issuer.Representable tokens.refreshExpiresAt then pure tokens
  else throw .overflow

def issue (user : User) (jti : String) : Checked IssuedTokens := do
  withEnds (← act (Action.issue user jti))

def login (jti username password : String) : Checked (User × IssuedTokens) := do
  if username.isEmpty || password.isEmpty then throw (.refused .invalidCredentials)
  let user ← act (Action.require .invalidCredentials (← act (Action.store (.getUser username))))
  let credentials ← act (Action.require .invalidCredentials (← act (Action.store (.getCredentials user.id))))
  if !(← act (liftM (Password.verify password credentials.hash))) then throw (.refused .invalidCredentials)
  if !user.verified then throw (.refused .notVerified)
  return (user, ← issue user jti)

def refresh (jti token : String) : Checked IssuedTokens := do
  let identity ← act (Action.checkRefresh token)
  let user ← act (Action.require .invalidToken
    ((← act (Action.store (.getUser identity.username))).filter fun u => u.id = identity.userId))
  act (Action.revoke token)
  issue user jti

end Checked

/-- A use case with checked sums. -/
def UseCase.checked : (u : UseCase) → Checked u.Answer
  | register ttl salt token r => Checked.register ttl salt token.text r
  | resend ttl cooldown token email => Checked.resend ttl cooldown token.text email
  | verify token => Checked.act (Action.verify token)
  | getUser username => Checked.act (Action.getUser username)
  | listUsers page => Checked.act (Action.listUsers page)
  | updateProfile username profile => Checked.act (Action.updateProfile username profile)
  | changePassword salt username current new => Checked.act (Action.changePassword salt username current new)
  | deleteAccount username => Checked.act (Action.deleteAccount username)
  | login jti username password => Checked.login jti username password
  | refresh jti token => Checked.refresh jti token
  | logout token => Checked.act (Action.logout token)

/-! ### Instants and lengths of time -/

theorem representable_iff {t : Int} : Issuer.Representable t ↔
    Timestamp.least * 1000000 ≤ t ∧ t < (Timestamp.greatest + 1) * 1000000 := by
  have fraction : (t % 1000000).toNat * 1000 < 1000000000 := by omega
  have whole : Issuer.Representable t ↔ Timestamp.least ≤ t / 1000000 ∧ t / 1000000 ≤ Timestamp.greatest := by
    simp only [Issuer.Representable, Timestamp.isValid, Timestamp.ofInstant, fraction, decide_true, Bool.true_or,
      Bool.and_true, Bool.and_eq_true]
    exact and_congr decide_eq_true_iff decide_eq_true_iff
  rw [whole]
  omega

/-- An instant that can be told, and so can be the one ten years later. -/
def InRange (now : Instant) : Prop :=
  Issuer.Representable now ∧ Issuer.Representable (now + seconds Settings.maxSeconds)

instance (now : Instant) : Decidable (InRange now) := inferInstanceAs (Decidable (_ ∧ _))

/-- A length of time that settings may give. -/
def IsLength (d : Span) : Prop := 0 ≤ d ∧ d ≤ seconds Settings.maxSeconds

theorem InRange.plus {now d : Int} (h : InRange now) (length : IsLength d) : Issuer.Representable (now + d) := by
  have nonneg : (0 : Int) ≤ d := length.1
  have early := (representable_iff.1 h.1).1
  have late := (representable_iff.1 h.2).2
  have order : now + d ≤ now + seconds Settings.maxSeconds := Int.add_le_add_left length.2 now
  exact representable_iff.2 ⟨by omega, Int.lt_of_le_of_lt order late⟩

theorem isTold_sub {t s : Int} (ht : Issuer.Representable t) (hs : Issuer.Representable s) : IsTold (t - s) := by
  have ⟨early, late⟩ := representable_iff.1 ht
  have ⟨early', late'⟩ := representable_iff.1 hs
  have least : Timestamp.least = -8334601228800 := rfl
  have greatest : Timestamp.greatest = 8210266876799 := rfl
  have low : (-9223372036854775807000 : Int) ≤ t - s := by omega
  have high : t - s ≤ (9223372036854775807000 : Int) := by omega
  exact ⟨low, high⟩

/-! ### Programs side by side -/

/-- A reply that can be reckoned with. -/
def Effect.Told : (e : Effect) → e.Reply → Prop
  | .clock, now => InRange now
  | .store (.latestToken _), reply => ∀ latest, reply = .ok (some latest) → Issuer.Representable latest.createdAt
  | .issue _ _, reply => ∀ tokens, reply = .ok tokens →
    Issuer.Representable tokens.accessExpiresAt ∧ Issuer.Representable tokens.refreshExpiresAt
  | _, _ => True

/-- Both ask for the same and come to the same, whatever they are told: nothing stops for an overflow. -/
inductive Twin {α : Type} : Program (Except Stop α) → Program (Except ServiceError α) → Prop
  | done (x : Except ServiceError α) : Twin (.done (x.mapError .refused)) (.done x)
  | ask {e : Effect} {q : e.Reply → Program (Except Stop α)} {p : e.Reply → Program (Except ServiceError α)}
      (next : ∀ r, e.Told r → Twin (q r) (p r)) : Twin (.ask e q) (.ask e p)

namespace Checked
variable {α β γ : Type}

theorem twin_act (a : Action α) : Twin (act a).run a.run := by
  change Twin (Program.bind a.run fun x => .done (x.mapError .refused)) a.run
  generalize a.run = p
  induction p with
  | done x => exact .done x
  | ask e next ih => exact .ask fun r _ => ih r

theorem twin_bind {q : Checked α} {p : Action α} {f : α → Checked β} {g : α → Action β} (first : Twin q.run p.run)
    (next : ∀ a, Twin (f a).run (g a).run) : Twin (q >>= f).run (p >>= g).run := by
  change Twin (Program.bind q.run (ExceptT.bindCont f)) (Program.bind p.run (ExceptT.bindCont g))
  generalize q.run = q' at first ⊢
  generalize p.run = p' at first ⊢
  induction first with
  | done x =>
    cases x with
    | error e => exact .done (.error e)
    | ok a => exact next a
  | ask _ ih => exact .ask fun r told => ih r told

theorem twin_guard {c : Prop} [Decidable c] {e : ServiceError} {f : β → Checked α} {g : γ → Action α}
    {q : Checked α} {p : Action α} (next : Twin q.run p.run) :
    Twin (if c then throw (.refused e) >>= f else q).run (if c then throw e >>= g else p).run := by
  by_cases h : c
  · rw [if_pos h, if_pos h]
    exact .done (.error e)
  · rw [if_neg h, if_neg h]
    exact next

theorem twin_now {f : Instant → Checked β} {g : Instant → Action β}
    (next : ∀ now, InRange now → Twin (f now).run (g now).run) :
    Twin (act Action.now >>= f).run (Action.now >>= g).run := .ask next

theorem twin_latest {userId : Int} {f : Option VerificationToken → Checked β} {g : Option VerificationToken → Action β}
    (next : ∀ latest : Option VerificationToken, (∀ token ∈ latest, Issuer.Representable token.createdAt) →
      Twin (f latest).run (g latest).run) :
    Twin (act (Action.store (.latestToken userId)) >>= f).run (Action.store (.latestToken userId) >>= g).run := by
  refine .ask fun reply told => ?_
  cases reply with
  | error e => exact .done (.error e)
  | ok latest => exact next latest fun token some => told token (congrArg Except.ok some)

theorem twin_pure {q : Checked α} {a : α} {f : α → Checked β} {p : Action β} (known : q = pure a)
    (next : Twin (f a).run p.run) : Twin (q >>= f).run p.run := by
  rw [known]
  exact next

/-! ### The use cases -/

variable {ttl cooldown : Span}

theorem issueToken_eq {now : Instant} (inRange : InRange now) (length : IsLength ttl) (email token : String)
    (purpose : Purpose) : issueToken email token purpose now ttl = pure (Action.issueToken email token purpose now ttl) := by
  rw [issueToken, plus, if_pos (inRange.plus length)]
  rfl

theorem isTooSoon_eq {now : Instant} {latest : Option VerificationToken} (inRange : InRange now)
    (told : ∀ token ∈ latest, Issuer.Representable token.createdAt) :
    isTooSoon cooldown now latest = pure (latest.any (Action.isTooSoon cooldown now)) := by
  cases latest with
  | none => rfl
  | some token =>
    rw [isTooSoon, minus, if_pos (isTold_sub inRange.1 (told token rfl)), Option.any_some, Action.isTooSoon]
    by_cases resent : token.purpose = .resend
    · rw [if_pos resent, decide_eq_true resent]
      rfl
    · rw [if_neg resent, decide_eq_false resent]
      rfl

theorem twin_register (length : IsLength ttl) (salt : Bytes) (token : DrawnToken) (r : Action.Registration) :
    Twin (UseCase.checked (.register ttl salt token r)).run (UseCase.action (.register ttl salt token r)).run := by
  refine twin_bind (twin_act _) fun _ => twin_bind (twin_act _) fun _ => twin_bind (twin_act _) fun _ => ?_
  refine twin_bind (twin_act (liftM (Password.hash salt r.password))) fun hash => twin_now fun now inRange => ?_
  exact twin_pure (issueToken_eq inRange length ..) (twin_act _)

theorem twin_resend (length : IsLength ttl) (cooldown : Span) (token : DrawnToken) (email : String) :
    Twin (UseCase.checked (.resend ttl cooldown token email)).run
      (UseCase.action (.resend ttl cooldown token email)).run := by
  refine twin_bind (twin_act _) fun _ => twin_bind (twin_act _) fun found => twin_bind (twin_act _) fun user => ?_
  refine twin_guard (twin_now fun now inRange => twin_latest fun latest told => ?_)
  refine twin_pure (isTooSoon_eq inRange told) (twin_guard ?_)
  exact twin_pure (issueToken_eq inRange length ..) (twin_act _)

theorem twin_issue (user : User) (jti : String) : Twin (Checked.issue user jti).run (Action.issue user jti).run := by
  refine .ask fun reply told => ?_
  cases reply with
  | error e => exact .done (.error e)
  | ok tokens =>
    change Twin (withEnds tokens).run _
    rw [withEnds, if_pos (told tokens rfl)]
    exact .done (.ok tokens)

theorem twin_login (jti username password : String) :
    Twin (UseCase.checked (.login jti username password)).run (UseCase.action (.login jti username password)).run := by
  refine twin_guard (twin_bind (twin_act _) fun found => twin_bind (twin_act _) fun user => ?_)
  refine twin_bind (twin_act _) fun stored => twin_bind (twin_act _) fun credentials => ?_
  refine twin_bind (twin_act (liftM (Password.verify password credentials.hash))) fun known => ?_
  exact twin_guard (twin_guard (twin_bind (twin_issue user jti) fun tokens => .done (.ok (user, tokens))))

theorem twin_refresh (jti token : String) :
    Twin (UseCase.checked (.refresh jti token)).run (UseCase.action (.refresh jti token)).run := by
  refine twin_bind (twin_act _) fun identity => twin_bind (twin_act _) fun found => ?_
  refine twin_bind (twin_act _) fun user => twin_bind (twin_act _) fun _ => twin_issue user jti

end Checked

/-- Whether settings may give the time for which its tokens are good. -/
def UseCase.HasLength : UseCase → Prop
  | register ttl _ _ _ => IsLength ttl
  | resend ttl _ _ _ => IsLength ttl
  | _ => True

theorem UseCase.twin {u : UseCase} (lengths : u.HasLength) : Twin u.checked.run u.action.run := by
  cases u with
  | register ttl salt token r => exact Checked.twin_register lengths salt token r
  | resend ttl cooldown token email => exact Checked.twin_resend lengths cooldown token email
  | login jti username password => exact Checked.twin_login jti username password
  | refresh jti token => exact Checked.twin_refresh jti token
  | _ => exact Checked.twin_act _

end Accounts
