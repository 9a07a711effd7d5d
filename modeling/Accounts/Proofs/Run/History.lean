import Accounts.Proofs.Relay.Handling
import Accounts.Proofs.Run.UseCase
import Accounts.Proofs.Store.Ids
import Accounts.Proofs.Store.Tokens
import Mathlib.Data.List.Induction
/-! Histories of a service in memory: use cases and messages, one after the other. Main statement: what one of them
does to the tables. -/
namespace Accounts
open Time

inductive Task
  | useCase (u : UseCase)
  | handle (body : Bytes)

namespace Task

@[reducible] def Result : Task → Type
  | useCase u => Except ServiceError u.Answer
  | handle _ => Except Relay.HandleError Relay.Handled

def program : (k : Task) → Program k.Result
  | useCase u => u.action.run
  | handle body => (Relay.handle body).run

def drawn? : Task → Option String
  | useCase u => u.drawn?
  | handle _ => none

end Task

/-- A task that is carried out from its start to its end at one instant. The mailer takes some letters. -/
structure Execution where
  now : Instant
  task : Task
  accepts : Letter → Bool

namespace Execution
variable (issuer : Issuer) (e : Execution) (w : World)

def run : e.task.Result × World × List Letter :=
  Program.run (Relay.relaying issuer e.now e.accepts) e.task.program (w, [])

def result : e.task.Result := (e.run issuer w).1

def after : World := (e.run issuer w).2.1

def letters : List Letter := (e.run issuer w).2.2

end Execution

def World.start : World := ⟨.empty, []⟩

def World.after (issuer : Issuer) (es : List Execution) (w : World) : World :=
  es.foldl (fun w e => e.after issuer w) w

def drawnIn (es : List Execution) : List String := es.filterMap fun e => e.task.drawn?

theorem World.after_append (issuer : Issuer) (es more : List Execution) (w : World) :
    after issuer (es ++ more) w = after issuer more (after issuer es w) := List.foldl_append

theorem drawnIn_append (es more : List Execution) : drawnIn (es ++ more) = drawnIn es ++ drawnIn more :=
  List.filterMap_append

theorem ne_empty_of_mem_drawnIn {es : List Execution} {text : String} (mem : text ∈ drawnIn es) : text ≠ "" := by
  obtain ⟨e, -, drawn⟩ := List.mem_filterMap.1 mem
  rcases task : e.task with u | body
  · rw [task] at drawn
    cases u with
    | register ttl salt token r => exact Option.some.inj drawn ▸ token.text_ne_empty
    | resend ttl cooldown token email => exact Option.some.inj drawn ▸ token.text_ne_empty
    | _ => cases drawn
  · rw [task] at drawn
    cases drawn

/-! ### What a task does -/

/-- The letters and the tables that come of a task. -/
inductive Execution.Does (e : Execution) (t : Tables) : List Letter → Tables → Prop
  | nothing : Does e t [] t
  | commits {u : UseCase} (task : e.task = .useCase u) {c : StoreCall} (commits : u.Commits e.now t c) {a : c.Answer}
      (accepted : (Tables.answer e.now c t).1 = .ok a) : Does e t [] (Tables.answer e.now c t).2
  | delivers {body : Bytes} (task : e.task = .handle body) {r : Relay.RowRecord}
      (read : Relay.RowRecord.parse? body = some r) {l : Letter} (tells : Relay.letter r = .ok (.inl l))
      {row : OutboxEvent} (found : t.outbox.get? r.id = some row) (pending : row.status = .pending) :
      Does e t [l]
        { t with outbox := t.outbox.adjust r.id (OutboxEvent.settle (Relay.sentStatus e.accepts l) e.now) }

theorem Execution.run_useCase (issuer : Issuer) (now : Instant) (u : UseCase) (accepts : Letter → Bool) (w : World) :
    Execution.run issuer ⟨now, .useCase u, accepts⟩ w =
      ((u.perform issuer now (Relay.mailer accepts) w).1, (u.perform issuer now (Relay.mailer accepts) w).2, []) :=
  Program.run_recording_of_within _ (fun _ _ => id) u.within_mayAsk w []

theorem Execution.does (e : Execution) (issuer : Issuer) (t : Tables) (denied : Issuer.DenyList) :
    ∃ after denied', e.after issuer ⟨.memory t, denied⟩ = ⟨.memory after, denied'⟩ ∧
      e.Does t (e.letters issuer ⟨.memory t, denied⟩) after := by
  obtain ⟨now, task, accepts⟩ := e
  cases task with
  | useCase u =>
    have outcome : u.Outcome now t denied (u.perform issuer now (Relay.mailer accepts) ⟨.memory t, denied⟩) :=
      u.perform_outcome
    simp only [Execution.after, Execution.letters, Execution.run_useCase]
    generalize u.perform issuer now (Relay.mailer accepts) ⟨.memory t, denied⟩ = out at outcome ⊢
    cases outcome with
    | refused e after => exact ⟨t, after, rfl, .nothing⟩
    | read reads a after => exact ⟨t, after, rfl, .nothing⟩
    | done commits accepted a => exact ⟨_, denied, rfl, .commits rfl commits accepted⟩
  | handle body =>
    obtain ⟨result, sent, after, ran, handles⟩ := Relay.handle_handles body
    have ran : Execution.run issuer ⟨now, .handle body, accepts⟩ ⟨.memory t, denied⟩ =
      (result, ⟨.memory after, denied⟩, sent) := ran
    simp only [Execution.after, Execution.letters, ran]
    refine ⟨after, denied, rfl, ?_⟩
    cases handles with
    | sent read tells found pending => exact .delivers rfl read tells found pending
    | _ => exact .nothing

/-- What a task does is one call's change, or none. -/
theorem Execution.Does.change {e : Execution} {t t' : Tables} {letters : List Letter} (h : e.Does t letters t') :
    ∃ c ok, Tables.Change e.now t c ok t' := by
  cases h with
  | nothing => exact ⟨.ping, true, .read rfl⟩
  | commits task commits accepted => exact ⟨_, true, Tables.answer_accepted accepted⟩
  | delivers task read tells found pending =>
    exact ⟨_, true, .updateStatus found (OutboxStatus.canBecome_iff.2 ⟨pending, Relay.sentStatus_ne_pending _ _⟩)⟩

/-- A store in memory stays in memory. What every task keeps holds after all of a history. -/
theorem World.after_induction (issuer : Issuer) {t : Tables} {denied : Issuer.DenyList}
    {P : List Execution → Tables → Prop} (start : P [] t)
    (step : ∀ es e t' letters after, e.Does t' letters after → P es t' → P (es ++ [e]) after)
    (es : List Execution) :
    ∃ after denied', World.after issuer es ⟨.memory t, denied⟩ = ⟨.memory after, denied'⟩ ∧ P es after := by
  induction es using List.reverseRecOn with
  | nil => exact ⟨t, denied, rfl, start⟩
  | append_singleton es e ih =>
    obtain ⟨mid, denied', there, holds⟩ := ih
    obtain ⟨after, denied'', next, does⟩ := e.does issuer mid denied'
    refine ⟨after, denied'', ?_, step es e mid _ after does holds⟩
    rw [World.after_append, there]
    exact next

/-! ### What comes later -/

theorem UseCase.Commits.drawn {now : Instant} {t : Tables} {u : UseCase} {c : StoreCall} (commits : u.Commits now t c)
    {n : NewToken} (new : c.newToken? = some n) : u.drawn? = some n.token := by
  cases commits with
  | register | resend =>
    obtain rfl := Option.some.inj new
    rfl
  | _ => cases new

/-- Every token was there before the task, or is the one that was drawn for it. -/
theorem Execution.Does.token_cases {e : Execution} {t t' : Tables} {letters : List Letter} (consistent : t.Consistent)
    (h : e.Does t letters t') {a : VerificationToken} (mem : a ∈ t'.tokens.values) :
    (∃ old ∈ t.tokens.values, old.AgesTo a) ∨ a.id = t.tokens.next ∧ e.task.drawn? = some a.token := by
  cases h with
  | nothing => exact .inl ⟨a, mem, .refl a⟩
  | delivers => exact .inl ⟨a, mem, .refl a⟩
  | commits task commits accepted =>
    rcases (Tables.answer_accepted accepted).token_cases consistent mem with old | ⟨-, n, new, rfl⟩
    · exact .inl old
    · refine .inr ⟨rfl, ?_⟩
      rw [task]
      exact commits.drawn new

/-- A later state of tables, with the tokens that were drawn in between. -/
structure Follows (t : Tables) (drawn : List String) (t' : Tables) : Prop where
  consistent : t'.Consistent
  continues : Tables.Continues t t'
  tokens : ∀ a ∈ t'.tokens.values, (∃ old ∈ t.tokens.values, old.AgesTo a) ∨ t.tokens.last < a.id ∧ a.token ∈ drawn

theorem follows_refl {t : Tables} (h : t.Consistent) : Follows t [] t :=
  ⟨h, .refl t, fun a mem => .inl ⟨a, mem, .refl a⟩⟩

theorem Follows.step {t mid after : Tables} {es : List Execution} {e : Execution} {letters : List Letter}
    (h : Follows t (drawnIn es) mid) (does : e.Does mid letters after) : Follows t (drawnIn (es ++ [e])) after := by
  obtain ⟨c, ok, change⟩ := does.change
  refine ⟨h.consistent.change change, h.continues.trans change.continues, fun a mem => ?_⟩
  rw [drawnIn_append]
  rcases does.token_cases h.consistent mem with ⟨old, stored, ages⟩ | ⟨id, drawn⟩
  · rcases h.tokens old stored with ⟨first, there, aged⟩ | ⟨late, drawn⟩
    · exact .inl ⟨first, there, aged.trans ages⟩
    · rw [← ages.id] at late
      rw [← ages.text] at drawn
      exact .inr ⟨late, List.mem_append_left _ drawn⟩
  · have last := h.continues.tokens.last_le
    simp only [Table.next] at id
    exact .inr ⟨by omega, List.mem_append_right _ (by simp [drawnIn, drawn])⟩

theorem follows_after (issuer : Issuer) {t : Tables} (h : t.Consistent) (denied : Issuer.DenyList)
    (es : List Execution) :
    ∃ t' denied', World.after issuer es ⟨.memory t, denied⟩ = ⟨.memory t', denied'⟩ ∧ Follows t (drawnIn es) t' :=
  World.after_induction issuer (P := fun es t' => Follows t (drawnIn es) t') (follows_refl h)
    (fun _ _ _ _ _ does follows => follows.step does) es

section
variable (issuer : Issuer) (es : List Execution)

theorem after_start_eq : ∃ denied, World.after issuer es .start =
    ⟨.memory (World.after issuer es .start).tables, denied⟩ := by
  obtain ⟨t, denied, world, -⟩ := follows_after issuer Tables.consistent_empty [] es
  change World.after issuer es .start = _ at world
  exact ⟨denied, by rw [world]; rfl⟩

theorem follows_start : Follows .empty (drawnIn es) (World.after issuer es .start).tables := by
  obtain ⟨t, denied, world, follows⟩ := follows_after issuer Tables.consistent_empty [] es
  change World.after issuer es .start = _ at world
  rwa [world]

theorem does_append (e : Execution) : ∃ letters, e.Does (World.after issuer es .start).tables letters
    (World.after issuer (es ++ [e]) .start).tables := by
  obtain ⟨denied, world⟩ := after_start_eq issuer es
  obtain ⟨t, denied', next, does⟩ := e.does issuer (World.after issuer es .start).tables denied
  rw [← world] at next
  rw [World.after_append]
  change ∃ letters, e.Does _ letters (e.after issuer _).tables
  rw [next]
  exact ⟨_, does⟩

theorem follows_append (more : List Execution) :
    Follows (World.after issuer es .start).tables (drawnIn more) (World.after issuer (es ++ more) .start).tables := by
  obtain ⟨denied, world⟩ := after_start_eq issuer es
  obtain ⟨t, denied', world', follows⟩ := follows_after issuer (follows_start issuer es).consistent denied more
  rw [World.after_append, world, world']
  exact follows

end

/-! ### A small history -/

namespace Sample

def secret : String := "0123456789abcdef0123456789abcdef"

def issuer : Issuer where
  settings := ⟨secret, secret, "accounts", "accounts", 900000000, 604800000000⟩
  accessSecret_size := by decide
  refreshSecret_size := by decide
  accessTtl_pos := by decide
  refreshTtl_pos := by decide

def token (letter : Char) (known : letter ∈ Action.tokenAlphabet.toList) : DrawnToken where
  text := String.ofList (List.replicate Action.tokenSize letter)
  size := by simp
  letters c mem := by
    rw [String.toList_ofList] at mem
    rwa [List.eq_of_mem_replicate mem]

def registration : Action.Registration := ⟨"ann", "secret", ⟨"ann@x", "Ann", "", none, false, "", ""⟩⟩

def tokenA : DrawnToken := token 'A' (by decide)

def tokenB : DrawnToken := token 'B' (by decide)

/-- A registration at the first second, with a token that is good for another one. -/
def register : Execution := ⟨1000000, .useCase (.register 1000000 [] tokenA registration), fun _ => true⟩

def registered (hash : String) : Tables :=
  let (row, event) := Action.issueToken "ann@x" tokenA.text .register 1000000 1000000
  (Tables.answer 1000000 (.create ⟨"ann", registration.profile⟩ hash row event) .empty).2

theorem exists_hash (salt : Bytes) : ∃ hash, Password.hash salt registration.password = .ok hash := by
  unfold Password.hash
  rw [if_neg (by decide)]
  exact ⟨_, rfl⟩

theorem after_register :
    ∃ hash, World.after issuer [register] .start = ⟨.memory (registered hash), []⟩ := by
  obtain ⟨hash, hashed⟩ := exists_hash []
  refine ⟨hash, ?_⟩
  change register.after issuer ⟨.memory .empty, []⟩ = _
  rw [register, Execution.after, Execution.run_useCase,
    UseCase.perform_register (by decide) (by decide) (by decide) hashed]
  rfl

end Sample

end Accounts
