import Accounts.Proofs.Run.UseCase
import Accounts.Proofs.Store.Consistency
/-! Events that use cases write. Main statement: a use case adds no event but one for a letter that can be
delivered. -/
namespace Accounts
open Time

def Letter.payload (l : Letter) : Payload := ⟨l.recipient, l.token, l.purpose⟩

/-- The letter that a use case has to be sent out. -/
inductive UseCase.Mails : UseCase → Letter → Prop
  | register {ttl : Span} {salt : Bytes} {token : DrawnToken} {r : Action.Registration} :
      Mails (.register ttl salt token r) ⟨r.profile.email, token.text, "register"⟩
  | resend {ttl cooldown : Span} {token : DrawnToken} {email : String} :
      Mails (.resend ttl cooldown token email) ⟨email, token.text, "resend"⟩

/-- A pending event for a letter that can be delivered. -/
structure Holds (event : OutboxEvent) (letter : Letter) : Prop where
  payload : event.payload = letter.payload.toJson
  recipient : letter.recipient ≠ ""
  token : letter.token ≠ ""

section
variable {now : Instant} {t t' : Tables} {u : UseCase} {c : StoreCall}

/-- A use case leaves the events alone, or adds one for its letter. -/
theorem UseCase.Commits.outbox (commits : u.Commits now t c) (step : Tables.Change now t c true t') :
    t'.outbox = t.outbox ∨ ∃ letter event, u.Mails letter ∧ Holds event letter ∧ event.status = .pending ∧
      event.id = t.outbox.next ∧ t'.outbox.values = t.outbox.values ++ [event] := by
  cases commits with
  | @register ttl salt token r hash named guarded addressed hashed =>
    cases step with
    | read reads => cases reads
    | create unnamed free =>
      refine .inr ⟨_, _, .register, ⟨rfl, addressed, token.text_ne_empty⟩, ?_, ?_, Table.values_push _ _⟩
      · rfl
      · rfl
  | @resend ttl cooldown token email user addressed found unverified waited =>
    cases step with
    | read reads => cases reads
    | rotate known =>
      have same : user.email = email := by simpa using List.find?_some found
      refine .inr ⟨_, _, .resend, ⟨?_, addressed, token.text_ne_empty⟩, ?_, ?_, Table.values_push _ _⟩
      · rw [← same]
        rfl
      · rfl
      · rfl
  | verify | updateProfile | changePassword | deleteAccount =>
    left
    cases step <;> rfl

def Addressed (t : Tables) : Prop := ∀ u ∈ t.users.values, u.email ≠ ""

theorem UseCase.Commits.addressed (commits : u.Commits now t c) (step : Tables.Change now t c true t')
    (consistent : t.Consistent) (h : Addressed t) : Addressed t' := by
  cases commits with
  | register named guarded addressed hashed =>
    cases step with
    | read reads => cases reads
    | create unnamed free =>
      intro user mem
      change user ∈ (t.users.push _).values at mem
      rw [Table.values_push, List.mem_append, List.mem_singleton] at mem
      rcases mem with stored | rfl
      · exact h user stored
      · exact addressed
  | resend addressed found unverified waited =>
    cases step with
    | read reads => cases reads
    | rotate known => exact h
  | verify named stored owner live inTime =>
    cases step with
    | read reads => cases reads
    | verifyWithToken stored found live =>
      exact consistent.users.forall_adjust h fun user mem _ => h user mem
  | updateProfile named addressed called =>
    cases step with
    | read reads => cases reads
    | updateProfile named free stored => exact consistent.users.forall_adjust h fun _ _ _ => addressed
  | changePassword =>
    cases step with
    | read reads => cases reads
    | updatePassword known => exact h
  | deleteAccount named =>
    cases step with
    | read reads => cases reads
    | deleteUser named =>
      intro user mem
      rw [consistent.users.values_erase] at mem
      exact h user (List.mem_filter.1 mem).1

end

end Accounts
