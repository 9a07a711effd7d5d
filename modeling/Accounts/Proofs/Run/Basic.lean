import Accounts.Program
/-! Running programs: what a sequence of parts comes to, and what is asked on the way. -/
namespace Accounts.Program
open Time
variable {α β ε σ : Type} (answer : (e : Effect) → σ → e.Reply × σ)

theorem run_bind (p : Program α) (f : α → Program β) (s : σ) :
    run answer (p >>= f) s = run answer (f (run answer p s).1) (run answer p s).2 := by
  change run answer (p.bind f) s = _
  induction p generalizing s with
  | done a => rfl
  | ask e next ih => exact ih _ _

/-! ### Programs that may be refused

One rule for each kind of first part: what holds of all that can come of it holds of the program, or of what it comes
to. -/

section
variable {P : Program (Except ε β) → Prop}

theorem of_lift {x : Except ε α} {f : α → ExceptT ε Program β} (refused : ∀ e, x = .error e → P (done (.error e)))
    (next : ∀ a, x = .ok a → P (f a).run) : P ((liftM x : ExceptT ε Program α) >>= f).run := by
  cases x with
  | error e => exact refused e rfl
  | ok a => exact next a rfl

theorem of_guard {c : Prop} [Decidable c] {e : ε} {g : α → ExceptT ε Program β} {k : ExceptT ε Program β}
    (refused : c → P (done (.error e))) (next : ¬c → P k.run) :
    P (if c then (throw e : ExceptT ε Program α) >>= g else k).run := by
  by_cases h : c
  · rw [if_pos h]
    exact refused h
  · rw [if_neg h]
    exact next h

end

section
variable {P : Program (Except ServiceError β) → Prop}

theorem of_nonempty {what text : String} {f : Unit → Action β}
    (refused : text = "" → P (done (.error (.invalidInput (what ++ " is required")))))
    (next : text ≠ "" → P (f ()).run) : P (Action.nonempty what text >>= f).run := by
  unfold Action.nonempty
  by_cases empty : text.isEmpty
  · simp only [empty, if_true]
    exact refused (by simpa using empty)
  · simp only [empty]
    exact next (by simpa using empty)

theorem of_require {e : ServiceError} {o : Option α} {f : α → Action β} (refused : o = none → P (done (.error e)))
    (next : ∀ a, o = some a → P (f a).run) : P (Action.require e o >>= f).run := by
  cases o with
  | none => exact refused rfl
  | some a => exact next a rfl

end

/-- The first part is carried out; if it is not refused, the second one follows. -/
theorem run_except_bind (a : ExceptT ε Program α) (f : α → ExceptT ε Program β) (s : σ) :
    run answer (a >>= f).run s =
      match run answer a.run s with
      | (.ok x, s') => run answer (f x).run s'
      | (.error e, s') => (.error e, s') := by
  change run answer (a.run >>= ExceptT.bindCont f) s = _
  rw [run_bind]
  rcases run answer a.run s with ⟨x | x, s'⟩ <;> rfl

variable {answer} {s s' : σ}

/-! ### Parts that succeed

What follows a part that is known not to be refused. -/

theorem run_lift_ok {x : Except ε α} {a : α} (ok : x = .ok a) (f : α → ExceptT ε Program β) :
    run answer ((liftM x : ExceptT ε Program α) >>= f).run s = run answer (f a).run s := by
  rw [ok]
  rfl

theorem run_guard_free {c : Prop} [Decidable c] {e : ε} {g : α → ExceptT ε Program β} (free : ¬c)
    (k : ExceptT ε Program β) :
    run answer (if c then (throw e : ExceptT ε Program α) >>= g else k).run s = run answer k.run s := by
  rw [if_neg free]

theorem run_nonempty_given {what text : String} (given : text ≠ "") (f : Unit → Action β) :
    run answer (Action.nonempty what text >>= f).run s = run answer (f ()).run s := by
  rw [Action.nonempty, if_neg (by simpa using given)]
  rfl

theorem run_require_some {e : ServiceError} {o : Option α} {a : α} (found : o = some a) (f : α → Action β) :
    run answer (Action.require e o >>= f).run s = run answer (f a).run s := by
  rw [found]
  rfl

theorem run_read_ok (c : StoreCall) {a : c.Answer} (read : answer (.store c) s = (.ok a, s'))
    (f : c.Answer → Action β) : run answer (Action.store c >>= f).run s = run answer (f a).run s' := by
  have ran : run answer (Action.store c).run s = (.ok a, s') := read
  rw [run_except_bind, ran]

/-! ### Parts that may be refused -/

variable {P : Except ε β × σ → Prop}

theorem after_bind {a : ExceptT ε Program α} {f : α → ExceptT ε Program β}
    (refused : ∀ e s', run answer a.run s = (.error e, s') → P (.error e, s'))
    (next : ∀ x s', run answer a.run s = (.ok x, s') → P (run answer (f x).run s')) :
    P (run answer (a >>= f).run s) := by
  rw [run_except_bind]
  rcases ran : run answer a.run s with ⟨e | x, s'⟩
  · exact refused e s' ran
  · exact next x s' ran

theorem after_lift {x : Except ε α} {f : α → ExceptT ε Program β} (refused : ∀ e, x = .error e → P (.error e, s))
    (next : ∀ a, x = .ok a → P (run answer (f a).run s)) :
    P (run answer ((liftM x : ExceptT ε Program α) >>= f).run s) :=
  of_lift (P := fun p => P (run answer p s)) refused next

theorem after_guard {c : Prop} [Decidable c] {e : ε} {g : α → ExceptT ε Program β} {k : ExceptT ε Program β}
    (refused : c → P (.error e, s)) (next : ¬c → P (run answer k.run s)) :
    P (run answer (if c then (throw e : ExceptT ε Program α) >>= g else k).run s) :=
  of_guard (P := fun p => P (run answer p s)) refused next

section
variable {P : Except ServiceError β × σ → Prop}

theorem after_nonempty {what text : String} {f : Unit → Action β}
    (refused : text = "" → P (.error (.invalidInput (what ++ " is required")), s))
    (next : text ≠ "" → P (run answer (f ()).run s)) : P (run answer (Action.nonempty what text >>= f).run s) :=
  of_nonempty (P := fun p => P (run answer p s)) refused next

theorem after_require {e : ServiceError} {o : Option α} {f : α → Action β} (refused : o = none → P (.error e, s))
    (next : ∀ a, o = some a → P (run answer (f a).run s)) : P (run answer (Action.require e o >>= f).run s) :=
  of_require (P := fun p => P (run answer p s)) refused next

theorem after_now {f : Instant → Action β}
    (next : P (run answer (f (answer .clock s).1).run (answer .clock s).2)) :
    P (run answer (Action.now >>= f).run s) := next

theorem after_read (c : StoreCall) {a : c.Answer} {f : c.Answer → Action β} (read : answer (.store c) s = (.ok a, s'))
    (next : P (run answer (f a).run s')) : P (run answer (Action.store c >>= f).run s) := by
  rw [run_read_ok c read]
  exact next

end

/-! ### Letters -/

variable (answer)

/-- Answers as before, and writes down every letter that is sent. -/
def recording (e : Effect) (s : σ × List Letter) : e.Reply × σ × List Letter :=
  ((answer e s.1).1, (answer e s.1).2, match e with
    | .send letter => s.2 ++ [letter]
    | _ => s.2)

/-! ### Clocks -/

/-- Answers as the world does, the steps one after the other at the instants of a clock. -/
def ticking (issuer : Issuer) (clock : Nat → Instant) (mail : MailAction) (e : Effect) (s : World × Nat) :
    e.Reply × World × Nat :=
  let (reply, w) := World.answer issuer (clock s.2) mail e s.1
  (reply, w, s.2 + 1)

/-- With a clock that stands still, it comes to what it does at that instant. -/
theorem run_ticking_const (issuer : Issuer) (now : Instant) (mail : MailAction) (p : Program α) (w : World) (n : Nat) :
    ((run (ticking issuer (fun _ => now) mail) p (w, n)).1, (run (ticking issuer (fun _ => now) mail) p (w, n)).2.1) =
      run (World.answer issuer now mail) p w := by
  induction p generalizing w n with
  | done a => rfl
  | ask e next ih => exact ih _ _ _

/-- A revocation looks at its token at one step of the clock, and puts it on the deny-list at the next one. -/
theorem run_revoke (issuer : Issuer) (clock : Nat → Instant) (mail : MailAction) (token : String) (w : World) (n : Nat) :
    ∃ m, run (ticking issuer clock mail) (Action.revoke token).run (w, n) =
      ((issuer.revoke (clock n) (clock (n + 1)) w.denied token).1,
        ⟨w.store, (issuer.revoke (clock n) (clock (n + 1)) w.denied token).2⟩, m) := by
  change ∃ m, run (ticking issuer clock mail) (ExceptT.bindCont (fun told => Action.deny told.2 told.1.expiresAt)
    (issuer.verifyRefresh (clock n) token)) (w, n + 1) = _
  rw [Issuer.revoke]
  rcases issuer.verifyRefresh (clock n) token with e | ⟨c, id⟩
  · exact ⟨n + 1, rfl⟩
  · exact ⟨n + 2, rfl⟩

/-! ### What can be asked

Rules for all that a program may ever ask for, whatever it is answered. -/

/-- The readings of the clock, with the one that this reply may be. -/
def reading : (e : Effect) → e.Reply → List Instant → List Instant
  | .clock, now, seen => now :: seen
  | _, _, seen => seen

/-- All that is ever asked for is allowed after the readings of the clock up to then. -/
def Within (allowed : List Instant → Effect → Prop) : List Instant → Program α → Prop
  | _, done _ => True
  | seen, ask e next => allowed seen e ∧ ∀ reply, Within allowed (reading e reply seen) (next reply)

section
variable {allowed : List Instant → Effect → Prop} {seen : List Instant}

theorem within_mono {less : List Instant → Effect → Prop} (weaker : ∀ seen e, allowed seen e → less seen e)
    {p : Program α} (h : Within allowed seen p) : Within less seen p := by
  induction p generalizing seen with
  | done a => trivial
  | ask e next ih => exact ⟨weaker seen e h.1, fun reply => ih reply (h.2 reply)⟩

theorem within_throw (e : ε) : Within allowed seen (throw e : ExceptT ε Program α).run := trivial

theorem within_lift {x : Except ε α} {f : α → ExceptT ε Program β} (next : ∀ a, Within allowed seen (f a).run) :
    Within allowed seen ((liftM x : ExceptT ε Program α) >>= f).run :=
  of_lift (fun e _ => within_throw e) fun a _ => next a

theorem within_guard {c : Prop} [Decidable c] {e : ε} {g : α → ExceptT ε Program β} {k : ExceptT ε Program β}
    (next : Within allowed seen k.run) :
    Within allowed seen (if c then (throw e : ExceptT ε Program α) >>= g else k).run :=
  of_guard (fun _ => within_throw e) fun _ => next

theorem within_given {what text : String} {f : Unit → Action β} (next : text ≠ "" → Within allowed seen (f ()).run) :
    Within allowed seen (Action.nonempty what text >>= f).run :=
  of_nonempty (fun _ => within_throw _) next

theorem within_nonempty {what text : String} {f : Unit → Action β} (next : Within allowed seen (f ()).run) :
    Within allowed seen (Action.nonempty what text >>= f).run := within_given fun _ => next

theorem within_require {e : ServiceError} {o : Option α} {f : α → Action β} (next : ∀ a, Within allowed seen (f a).run) :
    Within allowed seen (Action.require e o >>= f).run :=
  of_require (fun _ => within_throw e) fun a _ => next a

theorem within_now {f : Instant → Action β} (free : allowed seen .clock)
    (next : ∀ now, Within allowed (now :: seen) (f now).run) : Within allowed seen (Action.now >>= f).run :=
  ⟨free, next⟩

theorem within_store {c : StoreCall} {f : c.Answer → Action β} (free : allowed seen (.store c))
    (next : ∀ a, Within allowed seen (f a).run) : Within allowed seen (Action.store c >>= f).run := by
  refine ⟨free, fun reply => ?_⟩
  cases reply with
  | error e => exact within_throw e
  | ok a => exact next a

theorem within_bind {p : ExceptT ε Program α} {f : α → ExceptT ε Program β} (first : Within allowed seen p.run)
    (next : ∀ seen a, Within allowed seen (f a).run) : Within allowed seen (p >>= f).run := by
  change Within allowed seen (Program.bind p.run (ExceptT.bindCont f))
  generalize p.run = p at first ⊢
  induction p generalizing seen with
  | done x =>
    cases x with
    | error e => exact within_throw e
    | ok a => exact next seen a
  | ask e more ih => exact ⟨first.1, fun reply => ih reply (first.2 reply)⟩

theorem within_revoke {token : String} (looks : allowed seen (.verifyRefresh token))
    (puts : ∀ id expiresAt, allowed seen (.deny id expiresAt)) : Within allowed seen (Action.revoke token).run := by
  refine ⟨looks, fun verified => ?_⟩
  cases verified with
  | error e => exact within_throw e
  | ok told => exact ⟨puts _ _, fun _ => trivial⟩

theorem within_last {c : StoreCall} (free : allowed seen (.store c)) : Within allowed seen (Action.store c).run :=
  ⟨free, fun _ => trivial⟩

end

/-- A program that may not send comes to the same when letters are written down, and there are none. -/
theorem run_recording_of_within {allowed : List Instant → Effect → Prop} {seen : List Instant} {p : Program α}
    (silent : ∀ seen letter, ¬allowed seen (.send letter)) (h : Within allowed seen p) (s : σ) (letters : List Letter) :
    run (recording answer) p (s, letters) = ((run answer p s).1, (run answer p s).2, letters) := by
  induction p generalizing seen s letters with
  | done a => rfl
  | ask e next ih =>
    have rest := ih _ (h.2 (answer e s).1) (answer e s).2 letters
    cases e with
    | send letter => exact absurd h.1 (silent seen letter)
    | _ => exact rest

end Accounts.Program
