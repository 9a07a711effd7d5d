import Accounts.Proofs.Store.Change
import Accounts.Proofs.Store.Table
import Accounts.Store
/-! Calls that fail. In a database any statement of a call may be the one that fails, the start and the end of a
transaction among them. Main statement: a call that is refused leaves all that the store holds as it was. -/
namespace Accounts
open Time

namespace Sql
variable {α β : Type}

theorem bind_run (a : Sql α) (f : α → Sql β) (c : Connection) :
    (a >>= f) c = match a c with
      | (.ok x, c') => f x c'
      | (.error e, c') => (.error e, c') := by
  change (a >>= ExceptT.bindCont f : StateM Connection _) c = _
  simp only [bind, StateT.bind, ExceptT.bindCont]
  rcases a c with ⟨e | x, c'⟩ <;> rfl

theorem after_bind {a : Sql α} {f : α → Sql β} {c : Connection} {P : Except ServiceError β × Connection → Prop}
    (refused : ∀ e c', a c = (.error e, c') → P (.error e, c')) (next : ∀ x c', a c = (.ok x, c') → P (f x c')) :
    P ((a >>= f) c) := by
  rw [bind_run]
  rcases ran : a c with ⟨e | x, c'⟩
  · exact refused e c' ran
  · exact next x c' ran

/-- It only reads. -/
def Keeps (body : Sql α) : Prop := ∀ c, (body c).2.data = c.data

/-- The data is as it was if this is refused. -/
def Spares (c : Connection) (out : Except ServiceError α × Connection) : Prop :=
  ∀ e, out.1 = .error e → out.2.data = c.data

def Undone (body : Sql α) : Prop := ∀ c, Spares c (body c)

theorem Keeps.undone {body : Sql α} (h : Keeps body) : Undone body := fun c _ _ => h c

theorem keeps_pure (a : α) : Keeps (pure a : Sql α) := fun _ => rfl

theorem keeps_throw (e : ServiceError) : Keeps (throw e : Sql α) := fun _ => rfl

theorem keeps_lift (x : Except ServiceError α) : Keeps (liftM x : Sql α) := by
  cases x <;> exact fun _ => rfl

theorem Keeps.bind {a : Sql α} {f : α → Sql β} (first : Keeps a) (next : ∀ x, Keeps (f x)) : Keeps (a >>= f) := by
  refine fun c => after_bind (P := fun out => out.2.data = c.data) (fun e c' ran => ?_) fun x c' ran => ?_
  · simpa [ran] using first c
  · have kept : c'.data = c.data := by simpa [ran] using first c
    exact (next x c').trans kept

theorem Keeps.bind_undone {a : Sql α} {f : α → Sql β} (first : Keeps a) (next : ∀ x, Undone (f x)) :
    Undone (a >>= f) := by
  refine fun c => after_bind (P := Spares c) (fun e' c' ran _ _ => ?_) fun x c' ran e refused => ?_
  · simpa [ran] using first c
  · have kept : c'.data = c.data := by simpa [ran] using first c
    exact (next x c' e refused).trans kept

/-- What a statement comes to. -/
inductive Ran (f : Database → Except ServiceError (α × Database)) (c : Connection) :
    Except ServiceError α × Connection → Prop
  | refused (e : ServiceError) {c' : Connection} (kept : c'.data = c.data) : Ran f c (.error e, c')
  | done {a : α} {c' : Connection} (done : f c.data = .ok (a, c'.data)) : Ran f c (.ok a, c')

theorem statement_ran (f : Database → Except ServiceError (α × Database)) (c : Connection) :
    Ran f c (statement f c) := by
  unfold statement
  split
  · exact .refused _ rfl
  split
  · exact .refused _ rfl
  dsimp only
  split
  · exact .refused _ rfl
  · next same => exact .done same

theorem undone_statement (f : Database → Except ServiceError (α × Database)) : Undone (statement f) := by
  intro c e
  have ran := statement_ran f c
  generalize statement f c = out at ran
  cases ran with
  | refused e' kept => exact fun _ => kept
  | done => exact nofun

theorem keeps_query (f : Database → Except ServiceError α) : Keeps (query f) := by
  intro c
  have ran : Ran _ c (query f c) := statement_ran _ c
  generalize query f c = out at ran
  cases ran with
  | refused e kept => exact kept
  | done done =>
    rcases read : f c.data with e | b
    · rw [read] at done
      cases done
    · rw [read] at done
      exact (Prod.ext_iff.1 (Except.ok.inj done)).2.symm

/-- A statement that answers 0 when it finds nothing to change, and after which nothing else can fail. -/
theorem undone_count {f : Database → Except ServiceError (Nat × Database)} {k : Nat → Sql β}
    (counts : ∀ d d', f d = .ok (0, d') → d' = d) (none : Keeps (k 0)) (some : ∀ n ≠ 0, ∃ b, k n = pure b) :
    Undone (statement f >>= k) := by
  refine fun c => after_bind (P := Spares c) (fun e' c' ran _ _ => ?_) fun n c' ran e refused => ?_
  all_goals
    have first := statement_ran f c
    rw [ran] at first
    cases first
  · assumption
  · next done =>
    by_cases zero : n = 0
    · subst zero
      exact (none c').trans (counts _ _ done)
    · obtain ⟨b, accepted⟩ := some n zero
      rw [accepted] at refused
      cases refused

/-- Whatever the body does, and whichever of its statements fails. -/
theorem undone_transaction (body : Sql α) : Undone (transaction body) := by
  intro c e
  unfold transaction
  split
  · exact nofun
  · exact fun _ => rfl

end Sql

namespace Database
open Sql

theorem keeps_findEvent (id : Int) : Keeps (findEvent id) := by
  refine (keeps_query _).bind fun found => ?_
  cases found with
  | none => exact keeps_pure _
  | some row => exact (keeps_lift (eventOfRow row)).bind fun _ => keeps_pure _

theorem keeps_findToken (text : String) : Keeps (findToken text) := by
  refine (keeps_query _).bind fun found => ?_
  rcases found with _ | ⟨row, _ | u⟩
  · exact keeps_pure _
  · exact keeps_pure _
  · exact (keeps_lift (tokenOfRow row)).bind fun _ => keeps_pure _

theorem keeps_latestToken (userId : Int) : Keeps (latestToken userId) := by
  refine (keeps_query _).bind fun latest => ?_
  cases latest with
  | none => exact keeps_pure _
  | some row => exact (keeps_lift (tokenOfRow row)).bind fun _ => keeps_pure _

theorem undone_updateProfile (now : Instant) (username : String) (p : Profile) :
    Undone (updateProfile now username p) := by
  refine (keeps_query _).bind_undone fun found => ?_
  cases found with
  | none => exact (keeps_throw _).undone
  | some u => exact undone_statement _

theorem exists_of_need {α β : Type} {o : Option α} {k : α → Except ServiceError β} {b : β}
    (done : need o >>= k = .ok b) : ∃ a, o = some a ∧ k a = .ok b := by
  cases o with
  | none => cases done
  | some a => exact ⟨a, rfl, done⟩

theorem undone_updatePassword (userId : Int) (hash : String) : Undone (updatePassword userId hash) := by
  refine undone_count (fun d d' done => ?_) (keeps_throw _) fun n some => ⟨(), if_neg some⟩
  obtain ⟨hashes, -, done⟩ := exists_of_need done
  split at done
  · exact (Prod.ext_iff.1 (Except.ok.inj done)).2.symm
  · cases (Prod.ext_iff.1 (Except.ok.inj done)).1

/-- Nothing goes with nobody. -/
theorem undone_deleteUser (username : String) : Undone (deleteUser username) := by
  refine undone_count (fun d d' done => ?_) (keeps_throw _) fun n some => ⟨(), if_neg some⟩
  obtain ⟨users, stored, done⟩ := exists_of_need done
  obtain ⟨none, rfl⟩ := Prod.ext_iff.1 (Except.ok.inj done)
  have nobody : (users.values.filter fun u => u.username = username) = [] := List.eq_nil_of_length_eq_zero none
  have stays : ∀ u ∈ users.values, u.username ≠ username := by simpa using nobody
  simp only [nobody, List.any_nil, Bool.not_false]
  rw [Table.keep_eq_self (by simpa using stays), ← stored]
  simp [Table.keep]

theorem undone_updateStatus (now : Instant) (id : Int) (status : OutboxStatus) :
    Undone (updateStatus now id status) := by
  refine undone_count (fun d d' done => ?_) ?_ fun n some => ⟨true, if_pos (Nat.pos_of_ne_zero some)⟩
  · obtain ⟨outbox, -, done⟩ := exists_of_need done
    split at done
    · split at done
      · exact (Prod.ext_iff.1 (Except.ok.inj done)).2.symm
      · cases (Prod.ext_iff.1 (Except.ok.inj done)).1
    · exact (Prod.ext_iff.1 (Except.ok.inj done)).2.symm
  · refine (keeps_findEvent id).bind fun found => ?_
    cases found with
    | none => exact keeps_throw _
    | some e => exact keeps_pure _

theorem keeps_answer (now : Instant) {c : StoreCall} (reads : c.writes = false) : Keeps (answer now c) := by
  cases c with
  | ping | getUser | getUserByEmail => exact keeps_query _
  | getCredentials userId => exact (keeps_query _).bind fun _ => keeps_pure _
  | listUsers page => exact (keeps_query _).bind fun _ => (keeps_query _).bind fun _ => keeps_pure _
  | findToken text => exact keeps_findToken text
  | latestToken userId => exact keeps_latestToken userId
  | findEvent id => exact keeps_findEvent id
  | _ => cases reads

theorem undone_answer (now : Instant) (c : StoreCall) : Undone (answer now c) := by
  cases c with
  | updateProfile username p => exact undone_updateProfile now username p
  | updatePassword userId hash => exact undone_updatePassword userId hash
  | deleteUser username => exact undone_deleteUser username
  | create n hash token event => exact undone_transaction _
  | rotate userId token event => exact undone_transaction _
  | verifyWithToken tokenId userId at_ => exact undone_transaction _
  | updateStatus id status => exact undone_updateStatus now id status
  | _ => exact (keeps_answer now rfl).undone

end Database

/-- What a store holds: its rows and the keys that it has handed out. -/
def Store.contents : Store → Tables ⊕ Database
  | .memory t => .inl t
  | .database c => .inr c.data

namespace Store
variable (now : Instant) (c : StoreCall) (s : Store)

theorem contents_of_refused {e : ServiceError} (refused : (s.answer now c).1 = .error e) :
    (s.answer now c).2.contents = s.contents := by
  cases s with
  | memory t => exact congrArg Sum.inl (Tables.answer_refused refused)
  | database d => exact congrArg Sum.inr (Database.undone_answer now c d e refused)

theorem contents_of_reads (reads : c.writes = false) : (s.answer now c).2.contents = s.contents := by
  cases s with
  | memory t => exact congrArg Sum.inl ((Tables.answer_change now c t).eq_of_reads reads)
  | database d => exact congrArg Sum.inr (Database.keeps_answer now reads d)

end Store
end Accounts
