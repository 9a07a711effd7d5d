import Accounts.Proofs.Run.Issued
import Accounts.Proofs.Run.Superseded
import Accounts.Proofs.Store.Latest
/-! When a user may have another token. Main statement: the whole history of a user's requests decides, though only the
latest token is looked at. -/
namespace Accounts
open Time

/-! ### The token of the registration, over a history -/

theorem UseCase.Commits.orderly {now : Instant} {t : Tables} {u : UseCase} {c : StoreCall} (commits : u.Commits now t c)
    (early : ∀ user ∈ t.users.values, user.createdAt ≤ now) : t.Orderly c := by
  cases commits with
  | register => rfl
  | resend => exact ⟨rfl, fun user mem _ => early user mem⟩
  | _ => trivial

/-- Every user was there before the task, or came to be at its instant. -/
theorem Execution.Does.createdAt {e : Execution} {t t' : Tables} {letters : List Letter} (consistent : t.Consistent)
    (h : e.Does t letters t') {user : User} (mem : user ∈ t'.users.values) :
    (∃ old ∈ t.users.values, user.createdAt = old.createdAt) ∨ user.createdAt = e.now := by
  cases h with
  | nothing => exact .inl ⟨user, mem, rfl⟩
  | delivers => exact .inl ⟨user, mem, rfl⟩
  | commits task commits accepted =>
    rcases (Tables.answer_accepted accepted).user_cases consistent mem with
      ⟨old, stored, -, origin⟩ | ⟨-, n, hash, token, event, rfl, rfl⟩
    · exact .inl ⟨old, stored, (congrArg (·.2) origin).symm⟩
    · cases commits with
      | register => exact .inr rfl

theorem registeredFirst_after (issuer : Issuer) (es : List Execution)
    (ordered : (es.map Execution.now).Pairwise (· ≤ ·)) :
    (World.after issuer es .start).tables.RegisteredFirst ∧
      ∀ user ∈ (World.after issuer es .start).tables.users.values, user.createdAt ∈ es.map Execution.now := by
  induction es using List.reverseRecOn with
  | nil => exact ⟨Tables.registeredFirst_empty, fun _ none => absurd none List.not_mem_nil⟩
  | append_singleton es e ih =>
    rw [List.map_append, List.pairwise_append] at ordered
    obtain ⟨first, instants⟩ := ih ordered.1
    have consistent := (follows_start issuer es).consistent
    obtain ⟨letters, does⟩ := does_append issuer es e
    generalize (World.after issuer (es ++ [e]) .start).tables = t' at does ⊢
    refine ⟨?_, fun user mem => ?_⟩
    · cases does with
      | nothing => exact first
      | delivers => exact ⟨first.createdAt, first.before⟩
      | commits task commits accepted =>
        refine first.change consistent (Tables.answer_accepted accepted) (commits.orderly fun user mem => ?_)
        exact ordered.2.2 _ (instants user mem) e.now (List.mem_singleton_self _)
    · rw [List.map_append, List.mem_append]
      rcases does.createdAt consistent mem with ⟨old, stored, same⟩ | same
      · exact .inl (same ▸ instants old stored)
      · exact .inr (same ▸ List.mem_singleton_self _)

/-! ### Earlier requests -/

/-- At this instant another token was issued to the user with this id. -/
def ResentAt (issuer : Issuer) (es : List Execution) (userId : Int) (sent : Instant) : Prop :=
  ∃ before e after user, es = before ++ e :: after ∧ Resends issuer (World.after issuer before .start) user e ∧
    user.id = userId ∧ e.now = sent

theorem mem_issuedIn {issuer : Issuer} {es : List Execution} {w : World} {i : Issue} : i ∈ issuedIn issuer es w ↔
    ∃ before e after, es = before ++ e :: after ∧ e.issue? issuer (World.after issuer before w) = some i := by
  constructor
  · intro mem
    induction es generalizing w with
    | nil => cases mem
    | cons e es ih =>
      rcases List.mem_append.1 mem with here | later
      · exact ⟨[], e, es, rfl, Option.mem_toList.1 here⟩
      · obtain ⟨before, e', after, rfl, issued⟩ := ih later
        exact ⟨e :: before, e', after, rfl, issued⟩
  · rintro ⟨before, e, after, rfl, issued⟩
    simp [issuedIn_append, issuedIn, issued]

theorem Resends.issue? {issuer : Issuer} {w : World} {user : User} {e : Execution} (h : Resends issuer w user e) :
    ∃ i, e.issue? issuer w = some i ∧ i.userId = user.id ∧ i.token.purpose = .resend ∧ i.token.issuedAt = e.now := by
  cases h with
  | @intro sent ttl cooldown token email accepts found ok =>
    refine ⟨⟨user.id, user.email, (Action.issueToken user.email token.text .resend sent ttl).1⟩, ?_, rfl, rfl, rfl⟩
    rw [Execution.issue?, ok]
    simp only [Task.issue?, UseCase.issue?, found, Option.map_some]

theorem Execution.resends_of_issue? {issuer : Issuer} {w : World} {e : Execution} {i : Issue}
    (issued : e.issue? issuer w = some i) (resent : i.token.purpose = .resend) :
    ∃ user, Resends issuer w user e ∧ user.id = i.userId ∧ e.now = i.token.issuedAt := by
  obtain ⟨now, task, accepts⟩ := e
  cases task with
  | handle body => cases issued
  | useCase u =>
    rw [Execution.issue?] at issued
    rcases ran : Execution.result issuer ⟨now, .useCase u, accepts⟩ w with _ | a
    · rw [ran] at issued
      cases u <;> cases issued
    · rw [ran] at issued
      cases u with
      | register ttl salt token r =>
        obtain rfl := Option.some.inj issued
        cases resent
      | resend ttl cooldown token email =>
        obtain ⟨user, found, rfl⟩ := Option.map_eq_some_iff.1 issued
        exact ⟨user, .intro found ran, rfl, rfl⟩
      | _ => cases issued

theorem resentAt_iff {issuer : Issuer} {es : List Execution} {userId : Int} {sent : Instant} :
    ResentAt issuer es userId sent ↔
      ∃ i ∈ issuedIn issuer es .start, i.userId = userId ∧ i.token.purpose = .resend ∧ i.token.issuedAt = sent := by
  constructor
  · rintro ⟨before, e, after, user, rfl, resends, rfl, rfl⟩
    obtain ⟨i, issued, known, purpose, at_⟩ := resends.issue?
    exact ⟨i, mem_issuedIn.2 ⟨before, e, after, rfl, issued⟩, known, purpose, at_⟩
  · rintro ⟨i, mem, rfl, purpose, rfl⟩
    obtain ⟨before, e, after, rfl, issued⟩ := mem_issuedIn.1 mem
    obtain ⟨user, resends, known, at_⟩ := Execution.resends_of_issue? issued purpose
    exact ⟨before, e, after, user, rfl, resends, known, at_⟩

/-- As long as a user is there, the user's tokens tell all requests. -/
theorem Paired.exists_token_iff {issues : List Issue} {t : Tables} (h : Paired issues t) {userId : Int}
    (known : userId ∈ t.users.keys) (purpose : Purpose) (at_ : Instant → Prop) :
    (∃ a ∈ t.tokens.values, a.userId = userId ∧ a.purpose = purpose ∧ at_ a.createdAt) ↔
      ∃ i ∈ issues, i.userId = userId ∧ i.token.purpose = purpose ∧ at_ i.token.issuedAt := by
  constructor
  · rintro ⟨a, mem, rfl, rfl, holds⟩
    obtain ⟨k, i, there, -, origin⟩ := h.tokens a mem
    obtain ⟨owner, made⟩ := Prod.mk.inj origin
    exact ⟨i, List.mem_of_getElem? there, owner.symm, congrArg NewToken.purpose made.symm, by rw [← made]; exact holds⟩
  · rintro ⟨i, mem, rfl, rfl, holds⟩
    obtain ⟨k, there⟩ := List.mem_iff_getElem?.1 mem
    obtain ⟨a, stored, id⟩ := h.kept k i there known
    obtain ⟨owner, made⟩ := Prod.mk.inj (h.origin_of_id there stored id)
    exact ⟨a, stored, owner, congrArg NewToken.purpose made, by rw [← made] at holds; exact holds⟩

/-! ### A request -/

/-- What becomes of a request for another token, and why. -/
inductive UseCase.Resending (now : Instant) (cooldown : Span) (email : String) (t : Tables) :
    Except ServiceError Unit → Tables → Prop
  | empty (empty : email = "") : Resending now cooldown email t (.error (.invalidInput "email is required")) t
  | unknown (addressed : email ≠ "") (absent : ∀ user ∈ t.users.values, user.email ≠ email) :
      Resending now cooldown email t (.error .userNotFound) t
  | verified {user : User} (addressed : email ≠ "") (stored : user ∈ t.users.values) (same : user.email = email)
      (verified : user.verified = true) : Resending now cooldown email t (.error .alreadyVerified) t
  | soon {user : User} (addressed : email ≠ "") (stored : user ∈ t.users.values) (same : user.email = email)
      (unverified : user.verified = false)
      (soon : (Tables.latest? (t.tokens.values.filter fun row => row.userId = user.id)).any
        (Action.isTooSoon cooldown now) = true) : Resending now cooldown email t (.error .tooFrequent) t
  | sent {user : User} (addressed : email ≠ "") (stored : user ∈ t.users.values) (same : user.email = email)
      (unverified : user.verified = false)
      (waited : (Tables.latest? (t.tokens.values.filter fun row => row.userId = user.id)).any
        (Action.isTooSoon cooldown now) = false) (after : Tables) : Resending now cooldown email t (.ok ()) after

theorem UseCase.resending (issuer : Issuer) (now : Instant) (mail : MailAction) {t : Tables} (consistent : t.Consistent)
    (denied : Issuer.DenyList) (ttl cooldown : Span) (token : DrawnToken) (email : String) :
    let out := (UseCase.resend ttl cooldown token email).perform issuer now mail ⟨.memory t, denied⟩
    Resending now cooldown email t out.1 out.2.tables := by
  let P (out : Except ServiceError Unit × World) : Prop := Resending now cooldown email t out.1 out.2.tables
  change P _
  refine Program.after_nonempty (P := P) .empty fun addressed => ?_
  refine Program.after_read (.getUserByEmail email) rfl ?_
  refine Program.after_require (P := P) (fun none => .unknown addressed ?_) fun user found => ?_
  · simpa [Table.find?] using none
  have stored := List.mem_of_find?_eq_some found
  have same : user.email = email := by simpa using List.find?_some found
  refine Program.after_guard (P := P) (.verified addressed stored same) fun unverified => ?_
  replace unverified : user.verified = false := Bool.eq_false_iff.2 unverified
  refine Program.after_now ?_
  refine Program.after_read (.latestToken user.id) rfl ?_
  refine Program.after_guard (P := P) (.soon addressed stored same unverified) fun waited => ?_
  have known : t.users.get? user.id = some user := consistent.users.get?_eq_some_iff.2 ⟨stored, rfl⟩
  have accepted (n : NewToken) (event : NewEvent) : (Tables.answer now (.rotate user.id n event) t).1 = .ok () := by
    simp [Tables.answer, Tables.rotate, Table.has, known]
  change Resending now cooldown email t (Tables.answer now (.rotate user.id _ _) t).1 _
  rw [accepted]
  exact .sent addressed stored same unverified (Bool.eq_false_iff.2 waited) _

/-- A request is too soon if any earlier one of the user was. -/
theorem isTooSoon_iff_resentAt (issuer : Issuer) (es : List Execution)
    (ordered : (es.map Execution.now).Pairwise (· ≤ ·)) {user : User}
    (stored : user ∈ (World.after issuer es .start).tables.users.values) (cooldown : Span) (now : Instant) :
    (Tables.latest? ((World.after issuer es .start).tables.tokens.values.filter fun row => row.userId = user.id)).any
        (Action.isTooSoon cooldown now) = true ↔ ∃ sent, ResentAt issuer es user.id sent ∧ now - sent < cooldown := by
  have known : user.id ∈ (World.after issuer es .start).tables.users.keys :=
    (follows_start issuer es).consistent.users.mem_keys_iff.2 ⟨user, stored, rfl⟩
  rw [(registeredFirst_after issuer es ordered).1.any_isTooSoon_iff,
    (paired_after issuer es).exists_token_iff known .resend fun sent => now - sent < cooldown]
  constructor
  · rintro ⟨i, mem, owner, purpose, soon⟩
    exact ⟨i.token.issuedAt, resentAt_iff.2 ⟨i, mem, owner, purpose, rfl⟩, soon⟩
  · rintro ⟨sent, resent, soon⟩
    obtain ⟨i, mem, owner, purpose, rfl⟩ := resentAt_iff.1 resent
    exact ⟨i, mem, owner, purpose, soon⟩

/-- After any history, a request for another token succeeds exactly if its address is that of a user who is not
verified, and to whom none was sent within the cooldown, whatever has become of the tokens and of the address since.
Otherwise it changes nothing, and tells the first of four reasons. -/
theorem resend_answers (issuer : Issuer) (es : List Execution) (now : Instant) (ttl cooldown : Span) (token : DrawnToken)
    (email : String) (accepts : Letter → Bool) (ordered : (es.map Execution.now ++ [now]).Pairwise (· ≤ ·)) :
    let w := World.after issuer es .start
    let request : Execution := ⟨now, .useCase (.resend ttl cooldown token email), accepts⟩
    let recent (user : User) : Prop := ∃ sent, ResentAt issuer es user.id sent ∧ now - sent < cooldown
    (request.result issuer w = .ok () ↔ email ≠ "" ∧
      ∃ user ∈ w.tables.users.values, user.email = email ∧ user.verified = false ∧ ¬recent user) ∧
    (email = "" → request.result issuer w = .error (.invalidInput "email is required")) ∧
    (email ≠ "" → (∀ user ∈ w.tables.users.values, user.email ≠ email) →
      request.result issuer w = .error .userNotFound) ∧
    (email ≠ "" → ∀ user ∈ w.tables.users.values, user.email = email →
      (user.verified = true → request.result issuer w = .error .alreadyVerified) ∧
      (user.verified = false → recent user → request.result issuer w = .error .tooFrequent)) ∧
    (request.result issuer w ≠ .ok () → (request.after issuer w).tables = w.tables) := by
  intro w request recent
  obtain ⟨before, -⟩ := List.pairwise_append.1 ordered
  have consistent : w.tables.Consistent := (follows_start issuer es).consistent
  have tooSoon (user : User) (stored : user ∈ w.tables.users.values) := isTooSoon_iff_resentAt issuer es before stored
    cooldown now
  have resending : UseCase.Resending now cooldown email w.tables (request.result issuer w)
      (request.after issuer w).tables := by
    obtain ⟨denied, world⟩ : ∃ denied, w = ⟨.memory w.tables, denied⟩ := after_start_eq issuer es
    have out := UseCase.resending issuer now (Relay.mailer accepts) consistent denied ttl cooldown token email
    rw [world, Execution.result, Execution.after, Execution.run_useCase]
    exact out
  have eq_of_email {user found : User} (there : user ∈ w.tables.users.values) (mine : user.email = email)
      (stored : found ∈ w.tables.users.values) (same : found.email = email) : user = found :=
    List.inj_on_of_nodup_map consistent.emails there stored (mine.trans same.symm)
  have refused {e : ServiceError} : (.error e : Except ServiceError Unit) ≠ .ok () := by
    intro same
    cases same
  generalize request.result issuer w = result at resending ⊢
  generalize (request.after issuer w).tables = after at resending ⊢
  cases resending with
  | empty empty =>
    have given : ¬email ≠ "" := fun h => h empty
    exact ⟨⟨fun done => absurd done refused, fun h => absurd h.1 given⟩, fun _ => rfl, fun h => absurd h given,
      fun h => absurd h given, fun _ => rfl⟩
  | unknown addressed absent =>
    refine ⟨⟨fun done => absurd done refused, ?_⟩, fun empty => absurd empty addressed, fun _ _ => rfl, ?_, fun _ => rfl⟩
    · rintro ⟨-, user, there, mine, -⟩
      exact absurd mine (absent user there)
    · intro _ user there mine
      exact absurd mine (absent user there)
  | verified addressed stored same verified =>
    refine ⟨⟨fun done => absurd done refused, ?_⟩, fun empty => absurd empty addressed,
      fun _ absent => absurd same (absent _ stored), ?_, fun _ => rfl⟩
    · rintro ⟨-, user, there, mine, unverified, -⟩
      obtain rfl := eq_of_email there mine stored same
      cases verified.symm.trans unverified
    · intro _ user there mine
      obtain rfl := eq_of_email there mine stored same
      exact ⟨fun _ => rfl, fun unverified => absurd verified (by simp [unverified])⟩
  | soon addressed stored same unverified soon =>
    refine ⟨⟨fun done => absurd done refused, ?_⟩, fun empty => absurd empty addressed,
      fun _ absent => absurd same (absent _ stored), ?_, fun _ => rfl⟩
    · rintro ⟨-, user, there, mine, -, waited⟩
      obtain rfl := eq_of_email there mine stored same
      exact absurd ((tooSoon user stored).1 soon) waited
    · intro _ user there mine
      obtain rfl := eq_of_email there mine stored same
      exact ⟨fun verified => absurd verified (by simp [unverified]), fun _ _ => rfl⟩
  | @sent found addressed stored same unverified waited =>
    have notRecent : ¬recent found := fun soon => Bool.eq_false_iff.1 waited ((tooSoon found stored).2 soon)
    refine ⟨⟨fun _ => ⟨addressed, found, stored, same, unverified, notRecent⟩, fun _ => rfl⟩,
      fun empty => absurd empty addressed, fun _ absent => absurd same (absent found stored), ?_, fun h => absurd rfl h⟩
    intro _ user there mine
    obtain rfl := eq_of_email there mine stored same
    exact ⟨fun verified => absurd verified (by simp [unverified]), fun _ soon => absurd soon notRecent⟩

/-! ### Asking twice -/

namespace Sample

theorem user_mem_register : user ∈ (World.after issuer [register] .start).tables.users.values := by
  obtain ⟨hash, world⟩ := after_register
  rw [world]
  exact List.mem_singleton_self _

theorem user_mem_resend : user ∈ (World.after issuer [register, resend] .start).tables.users.values := by
  obtain ⟨hash, world⟩ := after_register
  change user ∈ (World.after issuer [resend] (World.after issuer [register] .start)).tables.users.values
  rw [world]
  exact List.mem_singleton_self _

/-- A registration is no request for another token. -/
theorem not_resentAt_register (userId : Int) (sent : Instant) : ¬ResentAt issuer [register] userId sent := by
  rintro ⟨before, e, after, user, split, resends, -, -⟩
  cases before with
  | nil =>
    obtain ⟨rfl, -⟩ := List.cons.inj split
    cases resends
  | cons first before => simp at split

theorem resentAt_resend : ResentAt issuer [register, resend] user.id 2000000 :=
  ⟨[register], resend, [], user, rfl, resends, rfl, rfl⟩

end Sample

/-- The first request succeeds at once, and another one half a second later does not. -/
theorem resend_answers_twice :
    (([Sample.register].map Execution.now ++ [2000000]).Pairwise (· ≤ ·) ∧
      Sample.resend.result Sample.issuer (World.after Sample.issuer [Sample.register] .start) = .ok ()) ∧
    (([Sample.register, Sample.resend].map Execution.now ++ [2500000]).Pairwise (· ≤ ·) ∧
      Execution.result Sample.issuer
          ⟨2500000, .useCase (.resend 5000000 60000000 Sample.tokenA "ann@x"), fun _ => true⟩
          (World.after Sample.issuer [Sample.register, Sample.resend] .start) = .error .tooFrequent) := by
  have named : "ann@x" ≠ "" := by decide
  have first : ([Sample.register].map Execution.now ++ [2000000]).Pairwise (· ≤ ·) := by decide
  have second : ([Sample.register, Sample.resend].map Execution.now ++ [2500000]).Pairwise (· ≤ ·) := by decide
  refine ⟨⟨first, ?_⟩, second, ?_⟩
  · obtain ⟨succeeds, -⟩ := resend_answers Sample.issuer [Sample.register] 2000000 5000000 60000000 Sample.tokenB "ann@x"
      (fun _ => true) first
    refine succeeds.2 ⟨named, Sample.user, Sample.user_mem_register, rfl, rfl, ?_⟩
    rintro ⟨sent, resent, -⟩
    exact Sample.not_resentAt_register _ _ resent
  · obtain ⟨-, -, -, known, -⟩ := resend_answers Sample.issuer [Sample.register, Sample.resend] 2500000 5000000 60000000
      Sample.tokenA "ann@x" (fun _ => true) second
    exact (known named Sample.user Sample.user_mem_resend rfl).2 rfl ⟨2000000, Sample.resentAt_resend, by decide⟩

end Accounts
