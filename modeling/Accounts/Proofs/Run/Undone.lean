import Accounts.Proofs.Run.History
import Accounts.Proofs.Store.Undone
/-! Use cases that are refused, wherever they fail. Main statement: all that the store holds is as it was. -/
namespace Accounts
open Time

namespace Program
variable {α : Type}

/-- If it is refused, the store holds what it held before. -/
def Undone (issuer : Issuer) (clock : Nat → Instant) (mail : MailAction) (p : Program (Except ServiceError α)) :
    Prop :=
  ∀ s e, (run (ticking issuer clock mail) p s).1 = .error e →
    (run (ticking issuer clock mail) p s).2.1.store.contents = s.1.store.contents

variable {issuer : Issuer} {clock : Nat → Instant} {mail : MailAction}

theorem undone_done (a : Except ServiceError α) : Undone issuer clock mail (done a) := fun _ _ _ => rfl

theorem undone_ask {e : Effect} {next : e.Reply → Program (Except ServiceError α)}
    (kept : ∀ now w, (World.answer issuer now mail e w).2.store.contents = w.store.contents)
    (later : ∀ r, Undone issuer clock mail (next r)) : Undone issuer clock mail (ask e next) :=
  fun s fault refused => (later _ _ fault refused).trans (kept (clock s.2) s.1)

theorem undone_now {f : Instant → Action α} (next : ∀ now, Undone issuer clock mail (f now).run) :
    Undone issuer clock mail (Action.now >>= f).run := undone_ask (fun _ _ => rfl) next

theorem undone_read {c : StoreCall} {f : c.Answer → Action α} (reads : c.writes = false)
    (next : ∀ a, Undone issuer clock mail (f a).run) : Undone issuer clock mail (Action.store c >>= f).run := by
  refine undone_ask (fun now w => w.store.contents_of_reads now c reads) fun r => ?_
  cases r with
  | error e => exact undone_done _
  | ok a => exact next a

/-- A first part that leaves the store alone. -/
theorem undone_bind {β : Type} {p : Action β} {f : β → Action α}
    (kept : ∀ s, (run (ticking issuer clock mail) p.run s).2.1.store = s.1.store)
    (next : ∀ b, Undone issuer clock mail (f b).run) : Undone issuer clock mail (p >>= f).run := by
  intro s
  rw [run_except_bind]
  rcases ran : run (ticking issuer clock mail) p.run s with ⟨e | b, s'⟩
  all_goals
    have same := kept s
    rw [ran] at same
  · exact fun _ _ => congrArg Store.contents same
  · exact fun fault refused => (next b s' fault refused).trans (congrArg Store.contents same)

/-- The deny-list is not in the store. -/
theorem store_revoke (token : String) (s : World × Nat) :
    (run (ticking issuer clock mail) (Action.revoke token).run s).2.1.store = s.1.store := by
  obtain ⟨m, ran⟩ := run_revoke issuer clock mail token s.1 s.2
  rw [ran]

/-- The last call may write: it is the one that is refused. -/
theorem undone_last (c : StoreCall) : Undone issuer clock mail (Action.store c).run :=
  fun s _ refused => s.1.store.contents_of_refused (clock s.2) c refused

end Program

namespace UseCase
open Program
variable (issuer : Issuer) (clock : Nat → Instant) (mail : MailAction)

/-- A use case whose steps are taken one after the other at the instants of a clock. -/
def carryOut (u : UseCase) (w : World) : Except ServiceError u.Answer × World :=
  let (result, w, _) := run (ticking issuer clock mail) u.action.run (w, 0)
  (result, w)

theorem undone (u : UseCase) : Undone issuer clock mail u.action.run := by
  have stop {α : Type} (e : ServiceError) : Undone issuer clock mail (.done (.error e : Except ServiceError α)) :=
    undone_done _
  cases u with
  | register ttl salt token r =>
    refine of_nonempty (fun _ => stop _) fun _ => of_nonempty (fun _ => stop _) fun _ => ?_
    refine of_nonempty (fun _ => stop _) fun _ => of_lift (fun e _ => stop e) fun hash _ => ?_
    exact undone_now fun _ => undone_last _
  | resend ttl cooldown token email =>
    refine of_nonempty (fun _ => stop _) fun _ => undone_read rfl fun found => ?_
    refine of_require (fun _ => stop _) fun user _ => of_guard (fun _ => stop _) fun _ => ?_
    refine undone_now fun _ => undone_read rfl fun latest => of_guard (fun _ => stop _) fun _ => ?_
    exact undone_last _
  | verify token =>
    refine of_nonempty (fun _ => stop _) fun _ => undone_read rfl fun stored => ?_
    refine of_require (fun _ => stop _) fun found _ => of_guard (fun _ => stop _) fun _ => ?_
    exact undone_now fun _ => of_guard (fun _ => stop _) fun _ => undone_last _
  | getUser username => exact undone_read rfl fun found => by cases found <;> exact undone_done _
  | listUsers page => exact undone_read rfl fun found => undone_done _
  | updateProfile username profile =>
    refine of_nonempty (fun _ => stop _) fun _ => of_nonempty (fun _ => stop _) fun _ => ?_
    exact of_nonempty (fun _ => stop _) fun _ => undone_last _
  | changePassword salt username current new =>
    refine of_nonempty (fun _ => stop _) fun _ => of_nonempty (fun _ => stop _) fun _ => ?_
    refine undone_read rfl fun found => of_require (fun _ => stop _) fun user _ => ?_
    refine undone_read rfl fun stored => of_require (fun _ => stop _) fun credentials _ => ?_
    refine of_lift (fun e _ => stop e) fun known _ => of_guard (fun _ => stop _) fun _ => ?_
    exact of_lift (fun e _ => stop e) fun hash _ => undone_last _
  | deleteAccount username => exact of_nonempty (fun _ => stop _) fun _ => undone_last _
  | login jti username password =>
    refine of_guard (fun _ => stop _) fun _ => undone_read rfl fun found => ?_
    refine of_require (fun _ => stop _) fun user _ => undone_read rfl fun stored => ?_
    refine of_require (fun _ => stop _) fun credentials _ => of_lift (fun e _ => stop e) fun known _ => ?_
    refine of_guard (fun _ => stop _) fun _ => of_guard (fun _ => stop _) fun _ => ?_
    exact undone_ask (fun _ _ => rfl) fun tokens => by cases tokens <;> exact undone_done _
  | refresh jti token =>
    refine undone_ask (fun _ _ => rfl) fun checked => ?_
    cases checked with
    | error e => exact stop e
    | ok identity =>
      refine undone_read rfl fun found => of_require (fun _ => stop _) fun user _ => ?_
      exact undone_bind (store_revoke token) fun _ => undone_ask (fun _ _ => rfl) fun tokens => undone_done _
  | logout token => exact fun s e _ => congrArg Store.contents (store_revoke token s)

variable {issuer clock mail}

/-- Whatever the store, and whichever statement fails in a database: a use case that is refused leaves every row and
every counter as it was. -/
theorem contents_of_carryOut_refused {u : UseCase} {w : World} {e : ServiceError}
    (refused : (u.carryOut issuer clock mail w).1 = .error e) :
    (u.carryOut issuer clock mail w).2.store.contents = w.store.contents :=
  u.undone issuer clock mail (w, 0) e refused

end UseCase

namespace Sample

/-- A user in a database who has not proved the address yet. The token is good for a second. -/
def waiting : Database :=
  { Database.empty with
    users := some (Table.empty.push (User.fresh ⟨"ann", registration.profile⟩ 1000000))
    tokens := some (Table.empty.push fun id => ⟨id, 1, tokenA.text, "register", 2000000, none, 1000000, 1000000⟩) }

/-- The fourth statement of a verification is the one that reads the user; the token is spent by the third. -/
theorem waiting_of_verify_refused :
    (UseCase.carryOut issuer (fun _ => 1500000) (Relay.mailer fun _ => true) (.verify tokenA.text)
      ⟨.database ⟨true, some ⟨3, .internal⟩, waiting⟩, []⟩).1 = .error .internal ∧
    (UseCase.carryOut issuer (fun _ => 1500000) (Relay.mailer fun _ => true) (.verify tokenA.text)
      ⟨.database ⟨true, some ⟨3, .internal⟩, waiting⟩, []⟩).2.store.contents = .inr waiting :=
  ⟨by rfl, UseCase.contents_of_carryOut_refused (e := .internal) (by rfl)⟩

end Sample
end Accounts
