import Accounts.Proofs.Run.Interleaving
/-! What users have in their profiles. A call of the store is asked for only with what has been checked before. Main
statement: if the birthdays that are given are timestamps, then every user who is stored has a name, an address and
maybe a birthday that is a timestamp. -/
namespace Accounts
open Time

/-! ### Calls -/

/-- A birthday is a timestamp. -/
def Profile.Dated (p : Profile) : Prop := ∀ d ∈ p.birthday, d.isValid = true

structure Profile.Sound (p : Profile) : Prop where
  addressed : p.email ≠ ""
  dated : p.Dated

structure User.Sound (u : User) : Prop where
  named : u.username ≠ ""
  profile : u.profile.Sound

def StoreCall.Sound : StoreCall → Prop
  | create n _ _ _ => n.username ≠ "" ∧ n.profile.Sound
  | updateProfile _ p => p.Sound
  | _ => True

def Effect.Sound : Effect → Prop
  | .store c => c.Sound
  | _ => True

namespace Tables
variable {now : Instant} {t t' : Tables} {c : StoreCall} {ok : Bool}

def Sound (t : Tables) : Prop := ∀ u ∈ t.users.values, u.Sound

theorem Change.sound (step : Change now t c ok t') (consistent : t.Consistent) (given : c.Sound) (h : t.Sound) :
    t'.Sound := by
  cases step with
  | refused | read | updatePassword | rotate | updateStatus | settled => exact h
  | updateProfile named free stored => exact consistent.users.forall_adjust h fun u mem _ => ⟨(h u mem).named, given⟩
  | deleteUser named =>
    intro u mem
    rw [consistent.users.values_erase] at mem
    exact h u (List.mem_filter.1 mem).1
  | create unnamed free =>
    intro u mem
    rw [pushEvent, pushToken, setHash, Table.values_push, List.mem_append, List.mem_singleton] at mem
    rcases mem with stored | rfl
    · exact h u stored
    · exact ⟨given.1, given.2⟩
  | verifyWithToken stored found live =>
    exact consistent.users.forall_adjust h fun u mem _ => ⟨(h u mem).named, (h u mem).profile⟩

theorem sound_after {calls : List (Instant × StoreCall)} (given : ∀ call ∈ calls, call.2.Sound) :
    (after calls .empty).Sound := by
  suffices ∀ t : Tables, t.Consistent → t.Sound → (after calls t).Sound from
    this _ consistent_empty fun _ mem => absurd mem List.not_mem_nil
  induction calls with
  | nil => exact fun t _ h => h
  | cons call calls ih =>
    intro t consistent h
    have step := answer_change call.1 call.2 t
    exact ih (fun later mem => given later (List.mem_cons_of_mem _ mem)) _ (consistent.change step)
      (step.sound consistent (given call List.mem_cons_self) h)

end Tables

/-! ### Use cases -/

namespace UseCase

/-- The birthday that is given, if any, is a timestamp. -/
def Dated : UseCase → Prop
  | register _ _ _ r => r.profile.Dated
  | updateProfile _ profile => profile.Dated
  | _ => True

theorem within_sound {u : UseCase} (dated : u.Dated) : Program.Within (fun _ => Effect.Sound) [] u.action.run := by
  cases u with
  | register ttl salt token r =>
    refine Program.within_given fun named => Program.within_nonempty (Program.within_given fun addressed => ?_)
    refine Program.within_lift fun hash => Program.within_now trivial fun now => ?_
    exact Program.within_last ⟨named, addressed, dated⟩
  | resend ttl cooldown token email =>
    refine Program.within_nonempty (Program.within_store trivial fun found => Program.within_require fun user => ?_)
    refine Program.within_guard (Program.within_now trivial fun now => Program.within_store trivial fun latest => ?_)
    exact Program.within_guard (Program.within_last trivial)
  | verify token =>
    refine Program.within_nonempty (Program.within_store trivial fun stored => Program.within_require fun found => ?_)
    refine Program.within_guard (Program.within_now trivial fun now => ?_)
    exact Program.within_guard (Program.within_last trivial)
  | getUser username => exact Program.within_store trivial fun found => by cases found <;> trivial
  | listUsers page => exact Program.within_store trivial fun found => trivial
  | updateProfile username profile =>
    refine Program.within_nonempty (Program.within_given fun addressed => ?_)
    exact Program.within_nonempty (Program.within_last ⟨addressed, dated⟩)
  | changePassword salt username current new =>
    refine Program.within_nonempty (Program.within_nonempty (Program.within_store trivial fun found => ?_))
    refine Program.within_require fun user => Program.within_store trivial fun stored => ?_
    refine Program.within_require fun credentials => Program.within_lift fun known => Program.within_guard ?_
    exact Program.within_lift fun hash => Program.within_last trivial
  | deleteAccount username => exact Program.within_nonempty (Program.within_last trivial)
  | login jti username password =>
    refine Program.within_guard (Program.within_store trivial fun found => ?_)
    refine Program.within_require fun user => Program.within_store trivial fun stored => ?_
    refine Program.within_require fun credentials => Program.within_lift fun known => Program.within_guard ?_
    exact Program.within_guard ⟨trivial, fun tokens => by cases tokens <;> trivial⟩
  | refresh jti token =>
    refine ⟨trivial, fun checked => ?_⟩
    cases checked with
    | error e => trivial
    | ok identity =>
      refine Program.within_store trivial fun found => Program.within_require fun user => ?_
      refine Program.within_bind ?_ fun seen _ => ⟨trivial, fun tokens => trivial⟩
      exact Program.within_revoke trivial fun _ _ => trivial
  | logout token => exact Program.within_revoke trivial fun _ _ => trivial

end UseCase

/-! ### Interleaved use cases -/

namespace Running
variable {issuer : Issuer} {mail : MailAction} {allowed : Effect → Prop}

/-- Every call that was made is allowed, and so is all that the jobs still ask for. -/
structure Restrained (allowed : Effect → Prop) (s : Running) : Prop where
  calls : ∀ call ∈ s.calls, allowed (.store call.2)
  jobs : ∀ job ∈ s.jobs, ∃ seen, Program.Within (fun _ => allowed) seen job.rest

theorem Restrained.after {s : Running} (h : s.Restrained allowed) {move : Move}
    (starts : ∀ u, move = .start u → Program.Within (fun _ => allowed) [] u.action.run) :
    (s.after issuer mail move).Restrained allowed := by
  cases move with
  | start u =>
    refine { h with jobs := fun job mem => ?_ }
    rcases List.mem_append.1 mem with old | new
    · exact h.jobs job old
    · obtain rfl := List.mem_singleton.1 new
      exact ⟨[], starts u rfl⟩
  | step place now =>
    simp only [Running.after]
    split
    · next u e next at_ =>
      obtain ⟨seen, free, later⟩ := h.jobs _ (List.mem_of_getElem? at_)
      refine ⟨fun call mem => ?_, fun job mem => ?_⟩
      · rcases List.mem_append.1 mem with old | new
        · exact h.calls call old
        · cases e with
          | store c =>
            obtain rfl := List.mem_singleton.1 new
            exact free
          | _ => cases new
      · rcases List.mem_or_eq_of_mem_set mem with old | rfl
        · exact h.jobs job old
        · exact ⟨_, later _⟩
    · exact h

/-- If all that the use cases ask for is allowed, then so are the calls that they made. -/
theorem restrained_run {moves : List Move}
    (starts : ∀ u, .start u ∈ moves → Program.Within (fun _ => allowed) [] u.action.run) :
    (run issuer mail moves).Restrained allowed := by
  suffices ∀ s : Running, s.Restrained allowed → (moves.foldl (Running.after issuer mail) s).Restrained allowed from
    this start ⟨fun _ mem => absurd mem List.not_mem_nil, fun _ mem => absurd mem List.not_mem_nil⟩
  induction moves with
  | nil => exact fun s h => h
  | cons move moves ih =>
    intro s h
    refine ih (fun u mem => starts u (List.mem_cons_of_mem _ mem)) _ (h.after fun u same => starts u ?_)
    rw [same]
    exact List.mem_cons_self

theorem sound_run {moves : List Move} (dated : ∀ u, .start u ∈ moves → u.Dated) :
    (run issuer mail moves).world.tables.Sound := by
  rw [(valid_run moves).world_tables]
  have restrained : (run issuer mail moves).Restrained Effect.Sound :=
    restrained_run fun u mem => UseCase.within_sound (dated u mem)
  exact Tables.sound_after restrained.calls

end Running
end Accounts
