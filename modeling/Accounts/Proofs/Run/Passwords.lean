import Accounts.Proofs.Password.Hash
import Accounts.Proofs.Run.Errands
import Accounts.Proofs.Session.Verified
import Accounts.Proofs.Store.Latest
/-! Passwords in histories. Main statement: the password that a user was given last is the one that fits, until the user
is given another one or the account is deleted. -/
namespace Accounts
open Time

/-- This password is the one that the user has if the use case succeeds. The salt is as long as those that are drawn. -/
def UseCase.Gives (t : Tables) (userId : Int) (password : String) : UseCase → Prop
  | register _ salt _ r => salt.length = Password.saltSize ∧ r.password = password ∧ t.users.next = userId
  | changePassword salt username _ new => salt.length = Password.saltSize ∧ new = password ∧
      ∃ user, t.userByName? username = some user ∧ user.id = userId
  | _ => False

/-- The user's password is another one, or there is none, if the use case succeeds. -/
def UseCase.Takes (t : Tables) (userId : Int) : UseCase → Prop
  | changePassword _ username _ _ | deleteAccount username =>
    ∃ user, t.userByName? username = some user ∧ user.id = userId
  | _ => False

/-- A user has a row if there is a hash. -/
theorem Tables.Consistent.exists_user {t : Tables} (h : t.Consistent) {userId : Int} {hash : String}
    (stored : t.hashes.lookup userId = some hash) : ∃ user ∈ t.users.values, user.id = userId :=
  h.users.mem_keys_iff.1 ((h.hashes userId).1 (mem_keys_of_lookup (by rw [stored]; rfl)))

namespace Errand

/-- It has succeeded, and with it the user has this password. -/
def Gives (issuer : Issuer) (w : World) (userId : Int) (password : String) : Errand → Prop
  | ⟨.useCase u, clock, accepts⟩ =>
    u.Gives w.tables userId password ∧ ∃ answer, (run issuer ⟨.useCase u, clock, accepts⟩ w).1 = .ok answer
  | ⟨.handle _, _, _⟩ => False

/-- It has succeeded, and with it the user has another password or none. -/
def Takes (issuer : Issuer) (w : World) (userId : Int) : Errand → Prop
  | ⟨.useCase u, clock, accepts⟩ =>
    u.Takes w.tables userId ∧ ∃ answer, (run issuer ⟨.useCase u, clock, accepts⟩ w).1 = .ok answer
  | ⟨.handle _, _, _⟩ => False

variable {issuer : Issuer} {w : World} {e : Errand} {t' : Tables} {userId : Int} {password hash : String}

/-! ### One errand -/

/-- The hash is made of the password that is given. -/
theorem Does.hash_of_gives (does : e.Does issuer w t') (given : e.Gives issuer w userId password) :
    password ≠ "" ∧ ∃ hash, t'.hashes.lookup userId = some hash ∧ Password.verify password hash = .ok true := by
  have enough : 8 ≤ Password.saltSize := by decide
  have few : Password.saltSize ≤ 48 := by decide
  cases does with
  | settles => exact given.elim
  | refused fails =>
    obtain ⟨-, answer, ok⟩ := given
    cases fails.symm.trans ok
  | @read u clock accepts reads =>
    cases u with
    | register | changePassword => cases reads
    | _ => exact given.1.elim
  | commits commits change succeeds =>
    obtain ⟨gives, -⟩ := given
    cases commits with
    | register named guarded addressed hashed =>
      obtain ⟨drawn, rfl, rfl⟩ := gives
      refine ⟨guarded, _, ?_, Password.verify_hash (drawn ▸ enough) (drawn ▸ few) hashed⟩
      cases change with
      | read reads => cases reads
      | create => exact Tables.lookup_setHash_self _ _ _
    | changePassword named guarded found stored known hashed =>
      obtain ⟨drawn, rfl, user, same, rfl⟩ := gives
      obtain rfl := Option.some.inj (found.symm.trans same)
      refine ⟨guarded, _, ?_, Password.verify_hash (drawn ▸ enough) (drawn ▸ few) hashed⟩
      cases change with
      | read reads => cases reads
      | updatePassword => exact Tables.lookup_setHash_self _ _ _
    | _ => exact gives.elim

/-- A hash stays as it is unless it is taken. -/
theorem Does.hash_stays (does : e.Does issuer w t') (consistent : w.tables.Consistent)
    (kept : ¬e.Takes issuer w userId) (stored : w.tables.hashes.lookup userId = some hash) :
    t'.hashes.lookup userId = some hash := by
  cases does with
  | refused | read => exact stored
  | settles same => rwa [same.hashes]
  | commits commits change succeeds =>
    cases commits with
    | changePassword named guarded found =>
      have other : userId ≠ _ := fun same => kept ⟨⟨_, found, same.symm⟩, succeeds⟩
      cases change with
      | read reads => cases reads
      | updatePassword => rwa [Tables.lookup_setHash_of_ne _ _ other]
    | deleteAccount =>
      cases change with
      | read reads => cases reads
      | deleteUser found =>
        have other : userId ≠ _ := fun same => kept ⟨⟨_, found, same.symm⟩, succeeds⟩
        exact (Table.lookup_filter_ne _ other).trans stored
    | register =>
      obtain ⟨user, mem, rfl⟩ := consistent.exists_user stored
      cases change with
      | read reads => cases reads
      | create => exact (Tables.lookup_setHash_of_ne _ _ (consistent.users.key_ne_next mem)).trans stored
    | _ => cases change <;> exact stored

/-! ### Histories -/

theorem username_ne_empty (issuer : Issuer) (es : List Errand) :
    ∀ user ∈ (tablesAfter issuer es).users.values, user.username ≠ "" := by
  induction es using List.reverseRecOn with
  | nil => exact fun _ none => absurd none List.not_mem_nil
  | append_singleton es e ih =>
    intro user mem
    have does := does_append issuer es e
    have consistent := (leads_start issuer es).consistent
    generalize tablesAfter issuer (es ++ [e]) = t' at does mem
    cases does with
    | refused | read => exact ih user mem
    | settles same => exact ih user (same.users ▸ mem)
    | commits commits change succeeds =>
      rcases change.user_cases consistent mem with ⟨old, there, -, origin⟩ | ⟨-, n, hash, token, event, rfl, rfl⟩
      · have same : old.username = user.username := congrArg Prod.fst origin
        exact same ▸ ih old there
      · cases commits with
        | register named => exact named

theorem hash_after {before : List Errand} (stored : (tablesAfter issuer before).hashes.lookup userId = some hash)
    (later : List Errand)
    (kept : ∀ early d late, later = early ++ d :: late → ¬d.Takes issuer (after issuer (before ++ early) .start) userId) :
    (tablesAfter issuer (before ++ later)).hashes.lookup userId = some hash := by
  induction later using List.reverseRecOn with
  | nil => rwa [List.append_nil]
  | append_singleton es e ih =>
    rw [← List.append_assoc]
    refine (does_append issuer (before ++ es) e).hash_stays (leads_start issuer (before ++ es)).consistent ?_ (ih ?_)
    · exact kept es e [] rfl
    · rintro early d late rfl
      exact kept early d (late ++ [e]) (by rw [List.append_assoc]; rfl)

/-! ### Using the password -/

section
variable {t : Tables} {denied : Issuer.DenyList} {user : User} {clock : Nat → Instant} {accepts : Letter → Bool}
  (named : user.username ≠ "") (found : t.userByName? user.username = some user)
  (stored : t.hashes.lookup user.id = some hash) (right : Password.verify password hash = .ok true)
include named found stored right

/-- With the right password, a login is refused only to a user who is not verified. -/
theorem run_login (guarded : password ≠ "") (jti : String) :
    (run issuer ⟨.useCase (.login jti user.username password), clock, accepts⟩ ⟨.memory t, denied⟩).1 =
      if user.verified = true then .ok (user, issuer.issue (clock 2) user jti) else .error .notVerified := by
  have given : ¬(user.username.isEmpty || password.isEmpty) = true := by simp [named, guarded]
  change (UseCase.pursue issuer clock (Relay.mailer accepts) _ ⟨.memory t, denied⟩ 0).1 = _
  refine (congrArg Prod.fst (Program.run_guard_free given _)).trans ?_
  refine (congrArg Prod.fst (Program.run_read_ok (.getUser user.username) rfl _)).trans ?_
  refine (congrArg Prod.fst (Program.run_require_some found _)).trans ?_
  refine (congrArg Prod.fst (Program.run_read_ok (.getCredentials user.id) rfl _)).trans ?_
  refine (congrArg Prod.fst (Program.run_require_some (congrArg (Option.map _) stored) _)).trans ?_
  refine (congrArg Prod.fst (Program.run_lift_ok right _)).trans ?_
  refine (congrArg Prod.fst (Program.run_guard_free (by decide) _)).trans ?_
  cases user.verified <;> rfl

/-- With the right password, a change comes to what hashing the new one comes to. -/
theorem run_changePassword (salt : Bytes) (new : String) :
    (run issuer ⟨.useCase (.changePassword salt user.username password new), clock, accepts⟩ ⟨.memory t, denied⟩).1 =
      if new = "" then .error (.invalidInput "new password is required")
      else (Password.hash salt new).map fun _ => () := by
  change (UseCase.pursue issuer clock (Relay.mailer accepts) _ ⟨.memory t, denied⟩ 0).1 = _
  refine (congrArg Prod.fst (Program.run_nonempty_given named _)).trans ?_
  refine Program.after_nonempty (P := fun out => out.1 = _) (fun empty => (if_pos empty).symm) fun given => ?_
  rw [if_neg given]
  refine (congrArg Prod.fst (Program.run_read_ok (.getUser user.username) rfl _)).trans ?_
  refine (congrArg Prod.fst (Program.run_require_some found _)).trans ?_
  refine (congrArg Prod.fst (Program.run_read_ok (.getCredentials user.id) rfl _)).trans ?_
  refine (congrArg Prod.fst (Program.run_require_some (congrArg (Option.map _) stored) _)).trans ?_
  refine (congrArg Prod.fst (Program.run_lift_ok right _)).trans ?_
  refine (congrArg Prod.fst (Program.run_guard_free (by decide) _)).trans ?_
  cases Password.hash salt new with
  | error e => rfl
  | ok made =>
    have set : (t.hashes.lookup user.id).isSome = true := by rw [stored]; rfl
    have accepted : (Tables.answer (clock 2) (.updatePassword user.id made) t).1 = .ok () := by
      simp only [Tables.answer, Tables.updatePassword, set, if_true]
    exact accepted

end

/-- Once a user was given a password, and until it is taken: the hash stays as it was made, and the password fits. A login
with it is refused only to a user who is not verified, and to change it comes to what hashing the new one comes to. -/
theorem current_password_works (issuer : Issuer) (before later : List Errand) (e : Errand) {userId : Int}
    {password : String} (given : e.Gives issuer (after issuer before .start) userId password)
    (kept : ∀ early d late, later = early ++ d :: late →
      ¬d.Takes issuer (after issuer (before ++ e :: early) .start) userId) :
    ∃ user hash, (tablesAfter issuer (before ++ e :: later)).users.get? userId = some user ∧
      (tablesAfter issuer (before ++ [e])).hashes.lookup userId = some hash ∧
      (tablesAfter issuer (before ++ e :: later)).hashes.lookup userId = some hash ∧
      Password.verify password hash = .ok true ∧
      (∀ jti clock accepts, (run issuer ⟨.useCase (.login jti user.username password), clock, accepts⟩
          (after issuer (before ++ e :: later) .start)).1 =
        if user.verified = true then .ok (user, issuer.issue (clock 2) user jti) else .error .notVerified) ∧
      ∀ salt new clock accepts, (run issuer ⟨.useCase (.changePassword salt user.username password new), clock, accepts⟩
          (after issuer (before ++ e :: later) .start)).1 =
        if new = "" then .error (.invalidInput "new password is required")
        else (Password.hash salt new).map fun _ => () := by
  obtain ⟨guarded, hash, made, right⟩ := (does_append issuer before e).hash_of_gives given
  have split (early : List Errand) : before ++ e :: early = before ++ [e] ++ early := by rw [List.append_assoc]; rfl
  have stored : (tablesAfter issuer (before ++ e :: later)).hashes.lookup userId = some hash := by
    rw [split]
    exact hash_after made later fun early d late there => split early ▸ kept early d late there
  obtain ⟨denied, world⟩ := (leads_start issuer (before ++ e :: later)).world
  have consistent := (leads_start issuer (before ++ e :: later)).consistent
  obtain ⟨user, mem, rfl⟩ := consistent.exists_user stored
  have named := username_ne_empty issuer _ user mem
  have found := consistent.userByName?_of_mem mem
  refine ⟨user, hash, consistent.get?_of_mem mem, made, stored, right, fun jti clock accepts => ?_,
    fun salt new clock accepts => ?_⟩
  · rw [world]
    exact run_login named found stored right guarded jti
  · rw [world]
    exact run_changePassword named found stored right salt new

end Errand

/-! ### A first password -/

namespace Sample
open Errand

theorem signUp_gives : (signUp tokenA).Gives issuer (Errand.after issuer [] .start) 1 "secret" := by
  obtain ⟨hash, made⟩ := exists_hash sixteen
  have ran := run_errand (.register 1000000 sixteen tokenA registration) .start
  have joined := ran.trans (UseCase.perform_register (by decide) (by decide) (by decide) made)
  exact ⟨⟨rfl, rfl, rfl⟩, _, congrArg Prod.fst joined⟩

theorem prove_keeps : ∀ early d late, [prove] = early ++ d :: late →
    ¬d.Takes issuer (Errand.after issuer ([] ++ signUp tokenA :: early) .start) 1 := by
  intro early d late split taken
  have mem : d ∈ [prove] := by rw [split]; simp
  obtain rfl := List.mem_singleton.1 mem
  exact taken.1

end Sample

theorem Errand.current_password_works_verified :
    (Sample.signUp Sample.tokenA).Gives Sample.issuer (Errand.after Sample.issuer [] .start) 1 "secret" ∧
    (∀ early d late, [Sample.prove] = early ++ d :: late →
      ¬d.Takes Sample.issuer (Errand.after Sample.issuer ([] ++ Sample.signUp Sample.tokenA :: early) .start) 1) ∧
    ∃ answer, (Sample.logIn.run Sample.issuer
      (Errand.after Sample.issuer [Sample.signUp Sample.tokenA, Sample.prove] .start)).1 = .ok answer := by
  obtain ⟨user, hash, row, -, -, -, login, -⟩ :=
    current_password_works Sample.issuer [] [Sample.prove] _ Sample.signUp_gives Sample.prove_keeps
  obtain ⟨made, hashed⟩ := Sample.exists_hash Sample.sixteen
  have ann : user = Sample.proven := by
    change (after Sample.issuer [Sample.signUp Sample.tokenA, Sample.prove] .start).tables.users.get? 1 = _ at row
    rw [Sample.after_prove hashed] at row
    exact (Option.some.inj row).symm
  subst ann
  exact ⟨Sample.signUp_gives, Sample.prove_keeps, _, login "1" (fun _ => 1000000000) fun _ => true⟩

end Accounts
