import Accounts.Proofs.Run.Sums
/-! Runs with the lengths of time that settings give, on a store of either kind and with tasks that run at the same
time. Main statement: settings that are loaded are reckoned without an overflow, and with those that are taken, and a
clock that is ten years or more before the last instant, no sum of instants in any run overflows. -/
namespace Accounts
open Time

namespace Program
variable {α : Type}

/-- By these answers, the first program has gone on to the second one. -/
inductive Answered : List Exchange → Program α → Program α → Prop
  | nil (p : Program α) : Answered [] p p
  | cons {e : Effect} {reply : e.Reply} {next : e.Reply → Program α} {log : List Exchange} {p : Program α}
      (rest : Answered log (next reply) p) : Answered (⟨e, reply⟩ :: log) (.ask e next) p

theorem Answered.snoc {log : List Exchange} {p : Program α} {e : Effect} {next : e.Reply → Program α}
    (h : Answered log p (.ask e next)) (reply : e.Reply) : Answered (log ++ [⟨e, reply⟩]) p (next reply) := by
  generalize there : Program.ask e next = last at h
  induction h with
  | nil p =>
    subst there
    exact .cons (.nil _)
  | cons rest ih => exact .cons (ih there)

end Program

/-- Both have come to the same, or ask for the same. -/
inductive InStep {α : Type} : Program (Except Stop α) → Program (Except ServiceError α) → Prop
  | done (x : Except ServiceError α) : InStep (.done (x.mapError .refused)) (.done x)
  | ask (e : Effect) (q : e.Reply → Program (Except Stop α)) (p : e.Reply → Program (Except ServiceError α)) :
      InStep (.ask e q) (.ask e p)

theorem Twin.inStep {α : Type} {q : Program (Except Stop α)} {p : Program (Except ServiceError α)} (h : Twin q p) :
    InStep q p := by
  cases h with
  | done x => exact .done x
  | ask next => exact .ask _ _ _

/-! ### Single steps -/

namespace World
variable {issuer : Issuer} {now : Instant} {w : World} {e : Effect}

theorem told_answer (access : IsLength issuer.settings.accessTtl) (refresh : IsLength issuer.settings.refreshTtl)
    (inRange : InRange now) (dated : w.store.Dated Issuer.Representable) (accepts : Letter → Bool) :
    e.Told (answer issuer now (Relay.mailer accepts) e w).1 := by
  cases e with
  | clock => exact inRange
  | store c =>
    cases c with
    | latestToken userId => exact fun latest read => dated.latest now read
    | _ => trivial
  | issue user jti =>
    rintro tokens ⟨⟩
    exact ⟨inRange.plus access, inRange.plus refresh⟩
  | _ => trivial

theorem dated_answer (dated : w.store.Dated Issuer.Representable)
    (new : ∀ n, e.newToken? = some n → Issuer.Representable n.issuedAt) (accepts : Letter → Bool) :
    (answer issuer now (Relay.mailer accepts) e w).2.store.Dated Issuer.Representable := by
  cases e with
  | store c => exact dated.answer now new
  | _ => exact dated

end World

/-! ### Runs -/

namespace Pool
variable {issuer : Issuer} {w : World} {turns : List Turn} {s s' : Pool}

/-- What is left of a use case after these exchanges is in step with the same one with checked sums, and no sum of it
has overflowed. -/
structure Sound (log : List Exchange) (u : UseCase) (rest : Program (Except ServiceError u.Answer)) : Prop where
  issues : ∃ seen, (∀ r ∈ seen, Issuer.Representable r) ∧ Program.Within UseCase.MayAsk seen rest
  twin : ∃ q, Program.Answered log u.checked.run q ∧ Twin q rest

theorem sound_start {u : UseCase} (lengths : u.HasLength) : Sound [] u u.action.run :=
  ⟨⟨[], fun _ none => absurd none List.not_mem_nil, u.within_mayAsk⟩, u.checked.run, .nil _, u.twin lengths⟩

theorem representable_reading {e : Effect} {reply : e.Reply} (told : e.Told reply) {seen : List Instant}
    (all : ∀ r ∈ seen, Issuer.Representable r) : ∀ r ∈ Program.reading e reply seen, Issuer.Representable r := by
  cases e with
  | clock =>
    intro r mem
    rcases List.mem_cons.1 mem with rfl | old
    · exact told.1
    · exact all r old
  | _ => exact all

theorem Sound.next {log : List Exchange} {u : UseCase} {e : Effect} {next : e.Reply → Program (Except ServiceError u.Answer)}
    (h : Sound log u (.ask e next)) {reply : e.Reply} (told : e.Told reply) :
    Sound (log ++ [⟨e, reply⟩]) u (next reply) := by
  obtain ⟨⟨seen, all, -, within⟩, q, answered, twin⟩ := h
  refine ⟨⟨_, representable_reading told all, within reply⟩, ?_⟩
  cases twin with
  | ask later => exact ⟨_, answered.snoc reply, later reply told⟩

theorem Sound.issuedAt {log : List Exchange} {u : UseCase} {e : Effect}
    {next : e.Reply → Program (Except ServiceError u.Answer)} (h : Sound log u (.ask e next)) :
    ∀ n, e.newToken? = some n → Issuer.Representable n.issuedAt := by
  obtain ⟨⟨seen, all, free, -⟩, -⟩ := h
  intro n new
  cases e with
  | store c =>
    rcases StoreCall.newToken?_eq_some new with ⟨user, hash, event, rfl⟩ | ⟨userId, event, rfl⟩
    · exact all _ free
    · exact all _ free
  | _ => cases new

/-- By the answers that a use case has got, the same one with checked sums has asked for the same, and has come to the
same if it has ended. -/
def InBounds (s : Pool) : Prop := ∀ place u rest, s.threads[place]? = some ⟨.useCase u, rest⟩ →
  ∃ q, Program.Answered (s.log place) u.checked.run q ∧ InStep q rest

/-- All use cases are in step, and the store has instants that can be told. Neither stays so without the other: what
is in the store was issued by a use case, and what a use case is answered comes from the store. -/
structure Told (s : Pool) : Prop where
  dated : s.world.store.Dated Issuer.Representable
  threads : ∀ place u rest, s.threads[place]? = some ⟨.useCase u, rest⟩ → Sound (s.log place) u rest

theorem Told.inBounds (h : s.Told) : s.InBounds := fun place u rest at_ =>
  let ⟨q, answered, twin⟩ := (h.threads place u rest at_).twin
  ⟨q, answered, twin.inStep⟩

/-- A handler stores no token. -/
theorem newToken?_of_handle {body : Bytes} {log : List Exchange} {e : Effect} (asks : Relay.Asks body log e) :
    e.newToken? = none := by
  cases asks <;> rfl

theorem Told.start (h : s.Told) (logged : s.Logged) {k : Task} (lengths : ∀ u, k = .useCase u → u.HasLength) :
    Told { s with threads := s.threads ++ [⟨k, k.program⟩] } := by
  refine ⟨h.dated, fun place u rest at_ => ?_⟩
  rw [List.getElem?_append] at at_
  split at at_
  · exact h.threads place u rest at_
  · next new =>
    cases List.mem_singleton.1 (List.mem_of_getElem? at_)
    change Sound (s.log place) u u.action.run
    rw [logged.log_eq_nil new]
    exact sound_start (lengths u rfl)

theorem Told.step (h : s.Told) (logged : s.Logged) (access : IsLength issuer.settings.accessTtl)
    (refresh : IsLength issuer.settings.refreshTtl) {place : Nat} {now : Instant} (inRange : InRange now)
    {accepts : Letter → Bool} {k : Task} {e : Effect} {next : e.Reply → Program k.Result}
    (at_ : s.threads[place]? = some ⟨k, .ask e next⟩) {reply : e.Reply} {world : World}
    (answered : World.answer issuer now (Relay.mailer accepts) e s.world = (reply, world)) :
    Told ⟨world, s.threads.set place ⟨k, next reply⟩, s.trace ++ [⟨place, now, e, reply⟩]⟩ := by
  obtain ⟨rfl, rfl⟩ := Prod.ext_iff.1 answered
  have told := World.told_answer access refresh inRange h.dated accepts (e := e)
  have issued : ∀ n, e.newToken? = some n → Issuer.Representable n.issuedAt := by
    cases k with
    | useCase u => exact (h.threads place u _ at_).issuedAt
    | handle body =>
      have quiet := newToken?_of_handle (logged.some place _ at_).1
      exact fun n new => by cases quiet.symm.trans new
  refine ⟨World.dated_answer h.dated issued accepts, fun other u rest there => ?_⟩
  -- the exchange is one of this thread's, and of no other's
  rw [log_snoc (s := s) rfl]
  rw [List.getElem?_set] at there
  by_cases same : place = other
  · subst same
    rw [if_pos rfl, if_pos (List.getElem?_eq_some_iff.1 at_).1] at there
    cases Option.some.inj there
    simpa using (h.threads place u _ at_).next told
  · rw [if_neg same] at there
    simpa [same] using h.threads other u rest there

/-- Whether it is given the lengths of time of the settings. -/
def Uses (ttl cooldown : Span) : Task → Prop
  | .useCase (.register t _ _ _) => t = ttl
  | .useCase (.resend t wait _ _) => t = ttl ∧ wait = cooldown
  | _ => True

theorem told_run (access : IsLength issuer.settings.accessTtl) (refresh : IsLength issuer.settings.refreshTtl)
    (start : w.store.Dated Issuer.Representable) (inRange : ∀ now ∈ instants turns, InRange now)
    (lengths : ∀ u, .useCase u ∈ started turns → u.HasLength) : (run issuer w turns).Told := by
  induction turns using List.reverseRecOn with
  | nil => exact ⟨start, fun place u rest none => by simp [run, fresh] at none⟩
  | append_singleton turns turn ih =>
    have split : started (turns ++ [turn]) = started turns ++ started [turn] := List.filterMap_append
    rw [split] at lengths
    rw [instants_append] at inRange
    have before := ih (fun now mem => inRange now (List.mem_append_left _ mem)) fun u mem =>
      lengths u (List.mem_append_left _ mem)
    have step := after_after issuer (run issuer w turns) turn
    rw [run_append_singleton]
    generalize (run issuer w turns).after issuer turn = s' at step
    cases step with
    | idle => exact before
    | start k =>
      refine before.start (logged issuer w turns) fun u same => lengths u (List.mem_append_right _ ?_)
      exact same ▸ List.mem_singleton_self _
    | @step place now accepts k e next at_ reply world answered =>
      have reading := inRange now (List.mem_append_right _ (List.mem_singleton_self now))
      exact before.step (logged issuer w turns) access refresh reading at_ answered

/-- With the lengths of time of settings, from any store with instants that can be told. -/
theorem inBounds_run {settings : Settings} {ttl cooldown : Span} {session : SessionSettings}
    (ttlTaken : settings.tokenTtl = .ok ttl) (taken : settings.session = .ok session)
    (made : Issuer.ofSettings session = .ok issuer) (start : w.store.Dated Issuer.Representable)
    (inRange : ∀ now ∈ instants turns, InRange now) (uses : ∀ k ∈ started turns, Uses ttl cooldown k) :
    (run issuer w turns).InBounds := by
  have zero : (0 : Int) = seconds 0 := rfl
  have long {n : Int} (nonneg : 0 ≤ n) {d : Span} (bounds : seconds n ≤ d ∧ d ≤ seconds Settings.maxSeconds) :
      IsLength d := ⟨Int.le_trans (zero ▸ Settings.seconds_le.2 nonneg) bounds.1, bounds.2⟩
  obtain ⟨access, refresh⟩ := Settings.session_bounds taken made
  refine (told_run (long (by decide) access) (long (by decide) refresh) start inRange fun u begun => ?_).inBounds
  have given := uses _ begun
  have length := long (by decide) (Settings.tokenTtl_bounds ttlTaken)
  cases u with
  | register => exact given ▸ length
  | resend => exact given.1 ▸ length
  | _ => trivial

end Pool

namespace Settings

/-- For all values of the four settings: what is reckoned for them fits into words, what is refused is too long, or too
short to be told, and the setting is named. With what is taken no sum and no difference of instants overflows, whatever
the store holds at the start, as long as its own instants can be told. -/
theorem durations_in_bounds {pairs : List (String × String)} {s : Settings} (loaded : load pairs = .ok s) :
    s.InWords ∧
    (s.tokenTtl =
      if maxSeconds < s.tokenTtlSeconds then .error (.outOfRange "VERIFICATION_TOKEN_TTL_SECS")
      else .ok (seconds (if s.tokenTtlSeconds ≤ 0 then 86400 else s.tokenTtlSeconds))) ∧
    (s.cooldown =
      if maxSeconds < s.cooldownSeconds then .error (.outOfRange "RESEND_COOLDOWN_SECS")
      else .ok (seconds (max s.cooldownSeconds 0))) ∧
    (s.session =
      if Outside (s.accessTtlMinutes * 60) then .error (.outOfRange "ACCESS_TOKEN_TTL_MINUTES")
      else if Outside (s.refreshTtlMinutes * 60) then .error (.outOfRange "REFRESH_TOKEN_TTL_MINUTES")
      else .ok ⟨s.accessSecret, s.refreshSecret, s.issuer, s.audience, seconds (s.accessTtlMinutes * 60),
        seconds (s.refreshTtlMinutes * 60)⟩) ∧
    ∀ ttl cooldown session issuer, s.tokenTtl = .ok ttl → s.cooldown = .ok cooldown → s.session = .ok session →
      Issuer.ofSettings session = .ok issuer →
      (seconds 1 ≤ ttl ∧ ttl ≤ seconds maxSeconds) ∧
      (0 ≤ cooldown ∧ cooldown ≤ seconds maxSeconds) ∧
      (seconds 60 ≤ issuer.settings.accessTtl ∧ issuer.settings.accessTtl ≤ seconds maxSeconds) ∧
      (seconds 60 ≤ issuer.settings.refreshTtl ∧ issuer.settings.refreshTtl ≤ seconds maxSeconds) ∧
      ∀ (w : World) (turns : List Turn), w.store.Dated Issuer.Representable →
        (∀ now ∈ Pool.instants turns, InRange now) → (∀ k ∈ Pool.started turns, Pool.Uses ttl cooldown k) →
        (Pool.run issuer w turns).InBounds := by
  refine ⟨(words_of_load loaded).inWords, tokenTtl_eq s, cooldown_eq s, session_eq s, ?_⟩
  intro ttl cooldown session issuer ttlTaken cooldownTaken taken made
  obtain ⟨access, refresh⟩ := session_bounds taken made
  refine ⟨tokenTtl_bounds ttlTaken, cooldown_bounds cooldownTaken, access, refresh, ?_⟩
  exact fun w turns start inRange uses => Pool.inBounds_run ttlTaken taken made start inRange uses

end Settings

namespace Sample

/-- Tokens that are good for an hour, and sessions of twenty minutes. -/
def environment : List (String × String) :=
  [("ACCESS_TOKEN_SECRET", secret), ("REFRESH_TOKEN_SECRET", secret), ("VERIFICATION_TOKEN_TTL_SECS", "3600"),
    ("RESEND_COOLDOWN_SECS", "-5"), ("ACCESS_TOKEN_TTL_MINUTES", "20")]

def loadedSettings : Settings where
  databaseUrl := none
  port := 8080
  tokenTtlSeconds := 3600
  cooldownSeconds := -5
  brokerUrl := none
  stream := "USER_OUTBOX"
  subject := "outbox.user"
  consumerGroup := "email-service"
  provider := .noop
  smtpHost := ""
  smtpPort := 587
  smtpUsername := none
  smtpPassword := none
  smtpSender := ""
  smtpTls := false
  smtpTimeout := 10
  urlBase := none
  accessSecret := secret
  refreshSecret := secret
  accessTtlMinutes := 20
  refreshTtlMinutes := 4320
  issuer := "tradedesk"
  audience := "tradedesk-clients"

def loadedIssuer : Issuer where
  settings := ⟨secret, secret, "tradedesk", "tradedesk-clients", seconds 1200, seconds 259200⟩
  accessSecret_size := by decide
  refreshSecret_size := by decide
  accessTtl_pos := by decide
  refreshTtl_pos := by decide

/-- A registration, and another letter at the same time as a login. -/
def turns : List Turn :=
  [.start (.useCase (.register (seconds 3600) [] tokenA registration)), .step 0 1000000000 fun _ => true,
    .step 0 1000000000 fun _ => true, .start (.useCase (.resend (seconds 3600) 0 tokenB "ann@x")),
    .start (.useCase (.login "1" "ann" "secret")), .step 1 2000000000 fun _ => true, .step 2 2000000000 fun _ => true,
    .step 1 2000000000 fun _ => true, .step 1 2000000000 fun _ => true, .step 1 2000000000 fun _ => true]

end Sample

theorem Settings.durations_in_bounds_loaded : Settings.load Sample.environment = .ok Sample.loadedSettings ∧
    (∀ now ∈ Pool.instants Sample.turns, InRange now) ∧
    (∀ k ∈ Pool.started Sample.turns, Pool.Uses (seconds 3600) 0 k) ∧
    (Pool.run Sample.loadedIssuer .start Sample.turns).InBounds := by
  have loaded : Settings.load Sample.environment = .ok Sample.loadedSettings := rfl
  have inRange : ∀ now ∈ Pool.instants Sample.turns, InRange now := by decide
  have uses : ∀ k ∈ Pool.started Sample.turns, Pool.Uses (seconds 3600) 0 k := by
    simp [Pool.started, Sample.turns, Pool.Uses]
  obtain ⟨-, -, -, -, bounds⟩ := durations_in_bounds loaded
  obtain ⟨-, -, -, -, run⟩ := bounds (seconds 3600) 0 _ Sample.loadedIssuer rfl rfl rfl rfl
  have empty : World.start.store.Dated Issuer.Representable := fun date none => absurd none List.not_mem_nil
  exact ⟨loaded, inRange, uses, run .start Sample.turns empty inRange uses⟩

end Accounts
