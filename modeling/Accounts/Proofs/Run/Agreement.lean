import Accounts.Proofs.Relay.Exchanges
import Accounts.Proofs.Run.History
import Accounts.Proofs.Store.Agreement
/-! Histories on the two kinds of store. Main statement: in memory and in a database, the same tasks with the same
clock, mailer and drawn tokens come to the same results and leave the same rows. -/
namespace Accounts
open Time

namespace Program
variable {α β σ τ : Type}

/-- All that is asked for is fit for the state at that time. -/
def Along (answer : (e : Effect) → σ → e.Reply × σ) (fit : Effect → σ → Prop) : σ → Program α → Prop
  | _, done _ => True
  | s, ask e next => fit e s ∧ Along answer fit (answer e s).2 (next (answer e s).1)

variable {answer : (e : Effect) → σ → e.Reply × σ} {fit : Effect → σ → Prop} {s s' : σ}

theorem along_read (c : StoreCall) {a : c.Answer} {f : c.Answer → Action β} (read : answer (.store c) s = (.ok a, s'))
    (free : fit (.store c) s) (next : Along answer fit s' (f a).run) :
    Along answer fit s (Action.store c >>= f).run := by
  refine ⟨free, ?_⟩
  simp only [read]
  exact next

theorem along_now {f : Instant → Action β} (free : fit .clock s)
    (next : Along answer fit (answer .clock s).2 (f (answer .clock s).1).run) :
    Along answer fit s (Action.now >>= f).run := ⟨free, next⟩

theorem along_last {c : StoreCall} (free : fit (.store c) s) : Along answer fit s (Action.store c).run :=
  ⟨free, trivial⟩

theorem along_of_proceeds {asks : List Exchange → Effect → Prop} {ends : List Exchange → α → Prop}
    (free : ∀ log e s, asks log e → fit e s) {log : List Exchange} {p : Program α} (h : Proceeds asks ends log p)
    (s : σ) : Along answer fit s p := by
  induction p generalizing log s with
  | done a => trivial
  | ask e next ih => exact ⟨free log e s h.1, ih _ (h.2 _) _⟩

theorem along_of_within {allowed : List Instant → Effect → Prop} (free : ∀ seen e s, allowed seen e → fit e s)
    {seen : List Instant} {p : Program α} (h : Within allowed seen p) (s : σ) : Along answer fit s p := by
  induction p generalizing seen s with
  | done a => trivial
  | ask e next ih => exact ⟨free seen e s h.1, ih _ (h.2 _) _⟩

/-- Where every step that is fit is answered alike from related states, the whole program is. -/
theorem Along.simulated {answer' : (e : Effect) → τ → e.Reply × τ} {R : σ → τ → Prop}
    (step : ∀ e s s', fit e s → R s s' → (answer' e s').1 = (answer e s).1 ∧ R (answer e s).2 (answer' e s').2)
    {p : Program α} {s : σ} {s' : τ} (h : Along answer fit s p) (related : R s s') :
    (run answer' p s').1 = (run answer p s).1 ∧ R (run answer p s).2 (run answer' p s').2 := by
  induction p generalizing s s' with
  | done a => exact ⟨rfl, related⟩
  | ask e next ih =>
    obtain ⟨replied, later⟩ := step e s s' h.1 related
    simp only [run]
    rw [replied]
    exact ih _ h.2 later

end Program

/-! ### Two worlds side by side -/

/-- In memory and in a database, the same rows; all their tokens are among these texts. -/
inductive Alike (texts : List String) : World → World → Prop
  | of (t : Tables) (denied : Issuer.DenyList) (consistent : t.Consistent)
      (known : ∀ row ∈ t.tokens.values, row.token ∈ texts) :
      Alike texts ⟨.memory t, denied⟩ ⟨.database ⟨true, none, t.stored⟩, denied⟩

/-- What the store is asked for is fit for the tables, and a token that it is given is one of these texts. -/
def Effect.Fits (texts : List String) (e : Effect) (w : World) : Prop :=
  match e with
  | .store c => Database.Fits w.tables c ∧ ∀ n, c.newToken? = some n → n.token ∈ texts
  | _ => True

theorem World.answer_alike (issuer : Issuer) (now : Instant) (accepts : Letter → Bool) {texts : List String}
    {e : Effect} {w w' : World} (fits : e.Fits texts w) (alike : Alike texts w w') :
    (World.answer issuer now (Relay.mailer accepts) e w').1 = (World.answer issuer now (Relay.mailer accepts) e w).1 ∧
    Alike texts (World.answer issuer now (Relay.mailer accepts) e w).2
      (World.answer issuer now (Relay.mailer accepts) e w').2 := by
  cases alike with
  | of t denied consistent known =>
    cases e with
    | store c =>
      have change := Tables.answer_change now c t
      have ran : (Database.answer now c).run.run ⟨true, none, t.stored⟩ = _ :=
        Database.answer_yields consistent now fits.1
      simp only [World.answer, Store.answer, ran, true_and]
      refine .of _ _ (consistent.change change) fun row mem => ?_
      rcases change.token_cases consistent mem with ⟨old, stored, ages⟩ | ⟨-, n, new, rfl⟩
      · exact ages.text ▸ known old stored
      · exact fits.2 n new
    | _ => exact ⟨rfl, .of t _ consistent known⟩

/-! ### What a task asks for is fit -/

section
variable {issuer : Issuer} {clock : Nat → Instant} {accepts : Letter → Bool} {texts : List String} {t : Tables}
  {denied : Issuer.DenyList}

/-- What tasks ask for as the clock goes on. -/
abbrev FitsAlong (issuer : Issuer) (clock : Nat → Instant) (accepts : Letter → Bool) (texts : List String)
    (s : World × Nat) {α : Type} (p : Program α) : Prop :=
  Program.Along (Program.ticking issuer clock (Relay.mailer accepts)) (fun e s => e.Fits texts s.1) s p

/-- A text that was drawn and is in no row yet. -/
def Unused (texts : List String) (t : Tables) (text : String) : Prop :=
  text ∈ texts ∧ ∀ row ∈ t.tokens.values, row.token ≠ text

theorem register_along {ttl : Span} {salt : Bytes} {token : DrawnToken} {r : Action.Registration}
    (unused : Unused texts t token.text) (n : Nat) :
    FitsAlong issuer clock accepts texts (⟨.memory t, denied⟩, n)
      (UseCase.action (.register ttl salt token r)).run := by
  refine Program.of_nonempty (fun _ => trivial) fun _ => Program.of_nonempty (fun _ => trivial) fun _ => ?_
  refine Program.of_nonempty (fun _ => trivial) fun _ => Program.of_lift (fun _ _ => trivial) fun hash _ => ?_
  refine Program.along_now trivial (Program.along_last ⟨unused.2, fun n new => ?_⟩)
  obtain rfl := Option.some.inj new
  exact unused.1

theorem resend_along {ttl cooldown : Span} {token : DrawnToken} {email : String} (unused : Unused texts t token.text)
    (n : Nat) :
    FitsAlong issuer clock accepts texts (⟨.memory t, denied⟩, n)
      (UseCase.action (.resend ttl cooldown token email)).run := by
  refine Program.of_nonempty (fun _ => trivial) fun _ => ?_
  refine Program.along_read (.getUserByEmail email) rfl ⟨trivial, nofun⟩ ?_
  refine Program.of_require (fun _ => trivial) fun user _ => Program.of_guard (fun _ => trivial) fun _ => ?_
  refine Program.along_now trivial (Program.along_read (.latestToken user.id) rfl ⟨trivial, nofun⟩ ?_)
  refine Program.of_guard (fun _ => trivial) fun _ => Program.along_last ⟨unused.2, fun n new => ?_⟩
  obtain rfl := Option.some.inj new
  exact unused.1

theorem verify_along (consistent : t.Consistent) (text : String) (n : Nat) :
    FitsAlong issuer clock accepts texts (⟨.memory t, denied⟩, n) (UseCase.action (.verify text)).run := by
  refine Program.of_nonempty (fun _ => trivial) fun _ => ?_
  refine Program.along_read (.findToken text) (UseCase.ticking_findToken text) ⟨trivial, nofun⟩ ?_
  refine Program.of_require (fun _ => trivial) fun ⟨found, user⟩ stored => ?_
  refine Program.of_guard (fun _ => trivial) fun _ => Program.along_now trivial ?_
  refine Program.of_guard (fun _ => trivial) fun _ => Program.along_last ⟨?_, nofun⟩
  obtain ⟨row, -, same⟩ := Option.bind_eq_some_iff.1 stored
  obtain ⟨owner, known, pair⟩ := Option.map_eq_some_iff.1 same
  obtain ⟨rfl, rfl⟩ := Prod.ext_iff.1 pair
  obtain ⟨mem, -⟩ := consistent.users.get?_eq_some_iff.1 known
  exact Table.has_iff_mem_keys.2 (consistent.users.mem_keys_iff.2 ⟨owner, mem, rfl⟩)

theorem Task.along (k : Task) (consistent : t.Consistent)
    (unused : ∀ text, k.drawn? = some text → Unused texts t text) (n : Nat) :
    FitsAlong issuer clock accepts texts (⟨.memory t, denied⟩, n) k.program := by
  cases k with
  | handle body =>
    refine Program.along_of_proceeds (fun log e s asks => ?_) (Relay.handle_proceeds body) _
    cases asks with
    | lookup => exact ⟨trivial, nofun⟩
    | send => trivial
    | settle => exact ⟨Relay.settledAs_ne_pending _, nofun⟩
  | useCase u =>
    have plain (undrawn : u.drawn? = none) (named : ∀ text, u ≠ .verify text) :
        FitsAlong issuer clock accepts texts (⟨.memory t, denied⟩, n) u.action.run := by
      refine Program.along_of_within (fun seen e s free => ?_) u.within_mayDraw _
      obtain ⟨free, quiet, suits⟩ := free
      cases e with
      | store c =>
        cases c with
        | create | rotate => cases quiet undrawn
        | verifyWithToken =>
          obtain ⟨text, same⟩ := suits
          exact absurd same (named text)
        | updateStatus => exact free.elim
        | _ => exact ⟨trivial, nofun⟩
      | _ => trivial
    cases u with
    | register ttl salt token r => exact register_along (unused _ rfl) n
    | resend ttl cooldown token email => exact resend_along (unused _ rfl) n
    | verify text => exact verify_along consistent text n
    | _ => exact plain rfl nofun

end

/-! ### Histories -/

/-- A task that is carried out from its start to its end, its steps at the instants of a clock. The mailer takes some
letters. -/
structure Errand where
  task : Task
  clock : Nat → Instant
  accepts : Letter → Bool

def Errand.run (issuer : Issuer) (e : Errand) (w : World) : e.task.Result × World :=
  let (result, w, _) := Program.run (Program.ticking issuer e.clock (Relay.mailer e.accepts)) e.task.program (w, 0)
  (result, w)

/-- What errands come to, one after the other. -/
def Errand.outcomes (issuer : Issuer) : List Errand → World → List (Σ k : Task, k.Result) × World
  | [], w => ([], w)
  | e :: es, w =>
    let (result, w) := e.run issuer w
    let (results, w) := outcomes issuer es w
    (⟨e.task, result⟩ :: results, w)

def Errand.drawn (es : List Errand) : List String := es.filterMap fun e => e.task.drawn?

section
variable {texts : List String} {w w' : World}

theorem Alike.mono (h : Alike texts w w') (more : List String) : Alike (texts ++ more) w w' := by
  cases h with
  | of t denied consistent known =>
    exact .of t denied consistent fun row mem => List.mem_append_left _ (known row mem)

theorem Errand.run_alike (issuer : Issuer) {e : Errand} (alike : Alike texts w w')
    (fresh : ∀ text, e.task.drawn? = some text → text ∉ texts) :
    (e.run issuer w').1 = (e.run issuer w).1 ∧
    Alike (texts ++ e.task.drawn?.toList) (e.run issuer w).2 (e.run issuer w').2 := by
  have along : FitsAlong issuer e.clock e.accepts (texts ++ e.task.drawn?.toList) (w, 0) e.task.program := by
    cases alike with
    | of t denied consistent known =>
      refine e.task.along consistent (fun text drawn => ⟨?_, fun row mem same => ?_⟩) 0
      · exact List.mem_append_right _ (Option.mem_toList.2 drawn)
      · exact fresh text drawn (same ▸ known row mem)
  let answer := Program.ticking issuer e.clock (Relay.mailer e.accepts)
  let Related (s s' : World × Nat) := Alike (texts ++ e.task.drawn?.toList) s.1 s'.1 ∧ s'.2 = s.2
  have step : ∀ effect s s', effect.Fits (texts ++ e.task.drawn?.toList) s.1 → Related s s' →
      (answer effect s').1 = (answer effect s).1 ∧ Related (answer effect s).2 (answer effect s').2 := by
    intro effect s s' fits ⟨alike, tick⟩
    obtain ⟨replied, later⟩ := World.answer_alike issuer (e.clock s.2) e.accepts fits alike
    simp only [answer, Related, Program.ticking, tick, and_true]
    exact ⟨replied, later⟩
  have start : Related (w, 0) (w', 0) := ⟨alike.mono _, rfl⟩
  obtain ⟨replied, later, -⟩ := along.simulated step start
  exact ⟨replied, later⟩

theorem Errand.outcomes_alike (issuer : Issuer) (es : List Errand) (alike : Alike texts w w')
    (distinct : (texts ++ drawn es).Nodup) :
    (outcomes issuer es w').1 = (outcomes issuer es w).1 ∧
    Alike (texts ++ drawn es) (outcomes issuer es w).2 (outcomes issuer es w').2 := by
  induction es generalizing texts w w' with
  | nil => exact ⟨rfl, alike.mono []⟩
  | cons e es ih =>
    have split : drawn (e :: es) = e.task.drawn?.toList ++ drawn es := by
      cases drawn? : e.task.drawn? <;> simp [drawn, drawn?]
    rw [split, ← List.append_assoc] at distinct ⊢
    have fresh : ∀ text, e.task.drawn? = some text → text ∉ texts := by
      intro text drawn mem
      have apart := (List.nodup_append.1 (List.nodup_append.1 distinct).1).2.2
      exact apart text mem text (Option.mem_toList.2 drawn) rfl
    obtain ⟨same, later⟩ := e.run_alike issuer alike fresh
    obtain ⟨rest, last⟩ := ih later distinct
    simp only [outcomes]
    rw [same, rest]
    exact ⟨rfl, last⟩

end

/-- In memory and in a database that starts empty, all errands come to the same, and the rows they leave are the
same. -/
theorem Errand.outcomes_agree (issuer : Issuer) (es : List Errand) (distinct : (drawn es).Nodup) :
    ∃ results t denied,
      outcomes issuer es ⟨.memory .empty, []⟩ = (results, ⟨.memory t, denied⟩) ∧
      outcomes issuer es ⟨.database ⟨true, none, Database.empty.byInstant⟩, []⟩ =
        (results, ⟨.database ⟨true, none, t.stored⟩, denied⟩) := by
  have start : Alike [] ⟨.memory .empty, []⟩ ⟨.database ⟨true, none, Tables.empty.stored⟩, []⟩ :=
    .of .empty [] Tables.consistent_empty (by simp [Tables.empty, Table.empty, Table.values])
  have agree := outcomes_alike issuer es start distinct
  change (outcomes issuer es ⟨.database ⟨true, none, Database.empty.byInstant⟩, []⟩).1 = _ ∧
    Alike _ _ (outcomes issuer es ⟨.database ⟨true, none, Database.empty.byInstant⟩, []⟩).2 at agree
  generalize outcomes issuer es ⟨.memory .empty, []⟩ = inMemory at agree ⊢
  generalize outcomes issuer es ⟨.database ⟨true, none, Database.empty.byInstant⟩, []⟩ = inDatabase at agree ⊢
  obtain ⟨results, w⟩ := inMemory
  obtain ⟨results', w'⟩ := inDatabase
  obtain ⟨rfl, alike⟩ := agree
  cases alike with
  | of t denied => exact ⟨results', t, denied, rfl, rfl⟩

namespace Sample

/-- A registration and a second letter for the same user. -/
def registerAndResend : List Errand :=
  [⟨.useCase (.register 1000000 [] tokenA registration), fun _ => 1000000, fun _ => true⟩,
    ⟨.useCase (.resend 1000000 0 tokenB "ann@x"), fun n => 2000000 + n, fun _ => true⟩]

theorem registerAndResend_agrees : (Errand.drawn registerAndResend).Nodup ∧
    ∃ results t denied,
      Errand.outcomes issuer registerAndResend ⟨.memory .empty, []⟩ = (results, ⟨.memory t, denied⟩) ∧
      Errand.outcomes issuer registerAndResend ⟨.database ⟨true, none, Database.empty.byInstant⟩, []⟩ =
        (results, ⟨.database ⟨true, none, t.stored⟩, denied⟩) := by
  have distinct : (Errand.drawn registerAndResend).Nodup := by decide
  exact ⟨distinct, Errand.outcomes_agree issuer registerAndResend distinct⟩

end Sample
end Accounts
