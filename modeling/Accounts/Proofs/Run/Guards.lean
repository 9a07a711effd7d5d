import Accounts.Proofs.Run.Winner
import Accounts.Proofs.Store.Accounts
import Accounts.Proofs.Store.Latest
/-! Requests for another token that run at the same time. A request looks at its user and at the latest token before it
rotates the tokens, and the rotation checks neither again. Main statement: what a request has found still holds when it
rotates, unless others have verified the user or rotated the tokens in between. -/
namespace Accounts
open Time

/-! ### Users and their latest tokens -/

namespace Tables
variable {now : Instant} {t t' : Tables} {c : StoreCall} {ok : Bool}

/-- No token was resent to this user within the cooldown. -/
def Waited (t : Tables) (userId : Int) (cooldown : Span) (now : Instant) : Prop :=
  ∀ a ∈ t.tokens.values, a.userId = userId → a.purpose = .resend → cooldown ≤ now - a.createdAt

theorem RegisteredFirst.waited (h : RegisteredFirst t) {userId : Int} {cooldown : Span}
    (waited : (latest? (t.tokens.values.filter fun row => row.userId = userId)).any
      (Action.isTooSoon cooldown now) = false) : t.Waited userId cooldown now := by
  intro a mem owner resent
  by_contra soon
  rw [Int.not_le] at soon
  exact Bool.eq_false_iff.1 waited ((h.any_isTooSoon_iff userId cooldown now).2 ⟨a, mem, owner, resent, soon⟩)

end Tables

namespace Running

/-! ### Instants -/

/-- The instants of the steps. -/
def instants (moves : List Move) : List Instant :=
  moves.filterMap fun
    | .start _ => none
    | .step _ now => some now

theorem instants_append (moves more : List Move) : instants (moves ++ more) = instants moves ++ instants more :=
  List.filterMap_append

variable {issuer : Issuer} {mail : MailAction} {moves : List Move} {x y : Step}

theorem readings_subset_instants (issuer : Issuer) (mail : MailAction) (moves : List Move) :
    ∀ r ∈ (run issuer mail moves).readings, r ∈ instants moves := by
  induction moves using List.reverseRecOn with
  | nil => exact fun _ none => absurd none List.not_mem_nil
  | append_singleton moves move ih =>
    intro r mem
    rw [instants_append, List.mem_append]
    have this := moved issuer mail moves move
    generalize taken? issuer mail moves move = step at this
    generalize run issuer mail (moves ++ [move]) = s at this mem
    cases this with
    | start u => exact .inl (ih r mem)
    | idle ended => exact .inl (ih r mem)
    | @step place now u e next at_ reply world replied =>
      cases e with
      | clock =>
        obtain ⟨rfl, -⟩ := Prod.mk.inj replied
        rcases List.mem_cons.1 mem with rfl | old
        · exact .inr (List.mem_singleton_self _)
        · exact .inl (ih r old)
      | _ => exact .inl (ih r mem)

theorem createdAt_mem_instants {user : User} (stored : user ∈ (run issuer mail moves).world.tables.users.values) :
    user.createdAt ∈ instants moves := by
  have valid : (run issuer mail moves).Valid := valid_run moves
  rw [valid.world_tables] at stored
  exact readings_subset_instants issuer mail moves _ (valid.issued _ (Tables.createdAt_mem_issuedAt _ user stored))

/-- No instant before a step is later than that step. -/
theorem le_now (ordered : (instants moves).Pairwise (· ≤ ·)) (mem : x ∈ steps issuer mail moves) {r : Instant}
    (early : r ∈ instants x.before) : r ≤ x.now := by
  obtain ⟨later, rfl⟩ := (mem_steps mem).1
  rw [instants_append, instants_append] at ordered
  exact (List.pairwise_append.1 (List.pairwise_append.1 ordered).1).2.2 r early x.now (List.mem_singleton_self _)

theorem instants_mono {less more : List Move} (within : less <+: more) {r : Instant} (mem : r ∈ instants less) :
    r ∈ instants more := by
  obtain ⟨late, rfl⟩ := within
  rw [instants_append]
  exact List.mem_append_left _ mem

theorem ordered_mono {less more : List Move} (within : less <+: more) (ordered : (instants more).Pairwise (· ≤ ·)) :
    (instants less).Pairwise (· ≤ ·) := by
  obtain ⟨late, rfl⟩ := within
  rw [instants_append] at ordered
  exact (List.pairwise_append.1 ordered).1

/-! ### Requests -/

/-- The steps by which a request for another token has come to its rotation. -/
structure Requested (issuer : Issuer) (mail : MailAction) (moves : List Move) (cooldown : Span) (user : User)
    (token : NewToken) (lookup clock latest rotation : Step) : Prop where
  useCase : ∃ ttl drawn email, (started moves)[rotation.place]? = some (.resend ttl cooldown drawn email) ∧
    lookup.exchange = ⟨.store (.getUserByEmail email), .ok (some user)⟩
  unverified : user.verified = false
  reading : clock.exchange = ⟨.clock, token.issuedAt⟩
  waited : ∃ row, latest.exchange = ⟨.store (.latestToken user.id), .ok row⟩ ∧
    row.any (Action.isTooSoon cooldown token.issuedAt) = false
  purpose : token.purpose = .resend
  members : lookup ∈ steps issuer mail moves ∧ clock ∈ steps issuer mail moves ∧ latest ∈ steps issuer mail moves
  places : lookup.place = rotation.place ∧ clock.place = rotation.place ∧ latest.place = rotation.place
  order : lookup.Precedes clock ∧ clock.Precedes latest ∧ latest.Precedes rotation

theorem exists_requested {rotation : Step} (mem : rotation ∈ steps issuer mail moves) {userId : Int} {token : NewToken}
    {event : NewEvent} (asked : rotation.exchange.effect = .store (.rotate userId token event)) :
    ∃ cooldown user lookup clock latest, user.id = userId ∧
      Requested issuer mail moves cooldown user token lookup clock latest rotation := by
  obtain ⟨u, next, at_, asks, -⟩ := asks_of_taken? (mem_steps mem).2
  have early := prefix_of_mem mem
  have useCase := started_of_job at_ early
  generalize all : log issuer mail rotation.before rotation.place = exchanges at asks
  rw [asked] at asks
  cases asks with
  | other undrawn named quiet => cases quiet
  | resendWrite unverified waited =>
    obtain ⟨latest, memL, placeL, askedL, logL⟩ := exists_step_of_log rotation.before [_, _] all
    obtain ⟨clock, memC, placeC, askedC, logC⟩ := exists_step_of_log latest.before [_] logL
    obtain ⟨lookup, memU, placeU, askedU, -⟩ := exists_step_of_log clock.before [] logC
    have beforeL := (prefix_of_mem memL).trans early
    have beforeC := (prefix_of_mem memC).trans beforeL
    refine ⟨_, _, lookup, clock, latest, rfl, ⟨_, _, _, useCase, askedU⟩, unverified, askedC, ⟨_, askedL, waited⟩, rfl,
      ⟨mem_steps_mono memU beforeC, mem_steps_mono memC beforeL, mem_steps_mono memL early⟩, ⟨placeU, placeC, placeL⟩,
      (mem_steps memU).1, (mem_steps memC).1, (mem_steps memL).1⟩

theorem reading_eq_now (mem : x ∈ steps issuer mail moves) {r : Instant} (asked : x.exchange = ⟨.clock, r⟩) :
    r = x.now := by
  have this := moved issuer mail x.before x.move
  rw [(mem_steps mem).2] at this
  generalize run issuer mail (x.before ++ [x.move]) = s at this
  obtain ⟨before, place, now, exchange⟩ := x
  dsimp only at asked
  subst asked
  cases this with
  | step at_ replied => exact (congrArg Prod.fst replied).symm

theorem stored_of_lookup (mem : x ∈ steps issuer mail moves) {email : String} {user : User}
    (asked : x.exchange = ⟨.store (.getUserByEmail email), .ok (some user)⟩) :
    user ∈ (run issuer mail x.before).world.tables.users.values := by
  have reply := (answered (mem_steps mem).2 asked).1
  exact List.mem_of_find?_eq_some (Except.ok.inj reply).symm

theorem createdAt_eq_of_id_eq (moves more : List Move) {old user : User}
    (there : old ∈ (run issuer mail moves).world.tables.users.values)
    (stored : user ∈ (run issuer mail (moves ++ more)).world.tables.users.values) (same : user.id = old.id) :
    user.createdAt = old.createdAt := by
  have before := consistent_run issuer mail moves
  have after := consistent_run issuer mail (moves ++ more)
  have origin := (continues_run issuer mail moves more).users.origin_eq before.users after.users there stored same.symm
  exact (congrArg (·.2) origin).symm

/-- A rotation finds its user. -/
theorem owner_of_rotate (mem : x ∈ steps issuer mail moves) {userId : Int} {token : NewToken} {event : NewEvent}
    (asked : x.exchange = ⟨.store (.rotate userId token event), .ok ()⟩) :
    ∃ owner ∈ (run issuer mail x.before).world.tables.users.values, owner.id = userId := by
  have consistent := consistent_run issuer mail x.before
  have accepted := Tables.answer_accepted (answered (mem_steps mem).2 asked).1.symm
  generalize (Tables.answer x.now _ (run issuer mail x.before).world.tables).2 = t' at accepted
  cases accepted with
  | read reads => cases reads
  | rotate known => exact consistent.users.mem_keys_iff.1 (Table.has_iff_mem_keys.1 known)

namespace Requested
variable {cooldown : Span} {user : User} {token : NewToken} {lookup clock latest rotation : Step}

theorem stored (h : Requested issuer mail moves cooldown user token lookup clock latest rotation) :
    user ∈ (run issuer mail lookup.before).world.tables.users.values := by
  obtain ⟨ttl, drawn, email, -, found⟩ := h.useCase
  exact stored_of_lookup h.members.1 found

theorem lookup_precedes (h : Requested issuer mail moves cooldown user token lookup clock latest rotation) :
    lookup.Precedes rotation :=
  (h.order.1.trans h.order.2.1).trans h.order.2.2

/-- A new token is not older than its user. -/
theorem createdAt_le (h : Requested issuer mail moves cooldown user token lookup clock latest rotation)
    (ordered : (instants moves).Pairwise (· ≤ ·)) {owner : User}
    (stored : owner ∈ (run issuer mail rotation.before).world.tables.users.values) (same : owner.id = user.id) :
    owner.createdAt ≤ token.issuedAt := by
  have memC := h.members.2.1
  obtain ⟨between, all⟩ := h.lookup_precedes.before
  rw [← all] at stored
  rw [createdAt_eq_of_id_eq lookup.before between h.stored stored same, reading_eq_now memC h.reading]
  exact le_now ordered memC (instants_mono h.order.1.before (createdAt_mem_instants h.stored))

end Requested

theorem orderly_of_mem_steps (ordered : (instants moves).Pairwise (· ≤ ·)) (mem : x ∈ steps issuer mail moves)
    {c : StoreCall} (asked : x.exchange.effect = .store c) : (run issuer mail x.before).world.tables.Orderly c := by
  cases c with
  | create user hash token event =>
    obtain ⟨u, next, -, asks, -⟩ := asks_of_taken? (mem_steps mem).2
    rw [asked] at asks
    generalize log issuer mail x.before x.place = exchanges at asks
    cases asks with
    | registerWrite => rfl
    | other undrawn named quiet => cases quiet
  | rotate userId token event =>
    obtain ⟨cooldown, user, lookup, clock, latest, rfl, requested⟩ := exists_requested mem asked
    exact ⟨requested.purpose, fun owner stored same => requested.createdAt_le ordered stored same⟩
  | _ => trivial

theorem registeredFirst_run (issuer : Issuer) (mail : MailAction) (moves : List Move)
    (ordered : (instants moves).Pairwise (· ≤ ·)) : (run issuer mail moves).world.tables.RegisteredFirst := by
  induction moves using List.reverseRecOn with
  | nil => exact Tables.registeredFirst_empty
  | append_singleton moves move ih =>
    have early := ordered_mono (List.prefix_append moves [move]) ordered
    rcases tables_append_singleton issuer mail moves move with same | ⟨x, c, reply, taken, rfl, rfl, asked⟩
    · exact same ▸ ih early
    · have mem : x ∈ steps issuer mail (x.before ++ [x.move]) := mem_steps_of_taken taken (List.prefix_refl _)
      rw [(answered taken asked).2]
      have orderly := orderly_of_mem_steps ordered mem (congrArg Exchange.effect asked)
      exact (ih early).change (consistent_run issuer mail x.before) (Tables.answer_change x.now c _) orderly

/-! ### What comes in between -/

namespace Step

/-- It verifies this user. -/
def Verifies (x : Step) (userId : Int) : Prop :=
  ∃ id at_ user, x.exchange = ⟨.store (.verifyWithToken id userId at_), .ok user⟩

/-- It issues this token to this user instead of the earlier ones. -/
def Rotates (x : Step) (userId : Int) (token : NewToken) : Prop :=
  ∃ event, x.exchange = ⟨.store (.rotate userId token event), .ok ()⟩

end Step

/-- A user who has come to be verified was verified by a step. -/
theorem exists_verifies (moves more : List Move) {user owner : User}
    (there : user ∈ (run issuer mail moves).world.tables.users.values) (unverified : user.verified = false)
    (stored : owner ∈ (run issuer mail (moves ++ more)).world.tables.users.values) (same : owner.id = user.id)
    (verified : owner.verified = true) :
    ∃ z ∈ steps issuer mail (moves ++ more), moves <+: z.before ∧ z.Verifies user.id := by
  let P (t : Tables) : Prop := ∃ u ∈ t.users.values, u.id = user.id ∧ u.verified = true
  have first : ¬P (run issuer mail moves).world.tables := by
    rintro ⟨u, mem, id, verified⟩
    obtain rfl := (consistent_run issuer mail moves).users.eq_of_key_eq mem there id
    cases unverified.symm.trans verified
  obtain ⟨z, c, reply, mem, late, asked, before, u, here, id, marked⟩ :=
    exists_step (P := P) moves more first ⟨owner, stored, same, verified⟩
  obtain ⟨replied, after⟩ := answered (mem_steps mem).2 asked
  rw [after] at here
  have step := Tables.answer_change z.now c (run issuer mail z.before).world.tables
  rcases step.verified_cases (consistent_run issuer mail z.before) here marked with
    ⟨old, stored, id', verified⟩ | ⟨ok, tokenId, at_, rfl⟩
  · exact absurd ⟨old, stored, id'.trans id, verified⟩ before
  · rw [← replied] at ok
    rw [id] at asked
    cases reply with
    | error e => cases ok
    | ok a => exact ⟨z, mem, late, tokenId, at_, a, asked⟩

theorem origin_eq_of_id_eq (moves more : List Move) {old a : VerificationToken}
    (there : old ∈ (run issuer mail moves).world.tables.tokens.values)
    (stored : a ∈ (run issuer mail (moves ++ more)).world.tables.tokens.values) (same : old.id = a.id) :
    old.origin = a.origin := by
  have before := consistent_run issuer mail moves
  have after := consistent_run issuer mail (moves ++ more)
  exact (continues_run issuer mail moves more).tokens.origin_eq before.tokens after.tokens there stored same

/-- A token that was resent has come to be stored by a rotation. -/
theorem exists_rotates (moves more : List Move) (ordered : (instants (moves ++ more)).Pairwise (· ≤ ·))
    {a : VerificationToken} (absent : ∀ old ∈ (run issuer mail moves).world.tables.tokens.values, old.id ≠ a.id)
    (stored : a ∈ (run issuer mail (moves ++ more)).world.tables.tokens.values) (resent : a.purpose = .resend) :
    ∃ z ∈ steps issuer mail (moves ++ more), moves <+: z.before ∧
      z.Rotates a.userId ⟨a.token, a.purpose, a.createdAt, a.expiresAt⟩ := by
  let P (t : Tables) : Prop := ∃ b ∈ t.tokens.values, b.id = a.id
  have first : ¬P (run issuer mail moves).world.tables := by
    rintro ⟨old, mem, id⟩
    exact absent old mem id
  obtain ⟨z, c, reply, mem, late, asked, before, b, here, id⟩ := exists_step (P := P) moves more first ⟨a, stored, rfl⟩
  obtain ⟨later, all⟩ := (mem_steps mem).1
  rw [← all] at stored
  have origin := origin_eq_of_id_eq _ later here stored id
  obtain ⟨replied, after⟩ := answered (mem_steps mem).2 asked
  rw [after] at here
  have step := Tables.answer_change z.now c (run issuer mail z.before).world.tables
  rcases step.token_cases (consistent_run issuer mail z.before) here with ⟨old, there, ages⟩ | ⟨ok, n, new, rfl⟩
  · exact absurd ⟨old, there, ages.id.symm.trans id⟩ before
  · have owner : c.owner (run issuer mail z.before).world.tables = a.userId := congrArg Prod.fst origin
    have made : n = ⟨a.token, a.purpose, a.createdAt, a.expiresAt⟩ := congrArg Prod.snd origin
    have orderly := orderly_of_mem_steps ordered mem (congrArg Exchange.effect asked)
    rw [← replied] at ok
    rcases StoreCall.newToken?_eq_some new with ⟨user, hash, event, rfl⟩ | ⟨userId, event, rfl⟩
    · rw [made] at orderly
      cases resent.symm.trans orderly
    · obtain rfl : userId = a.userId := owner
      refine ⟨z, mem, late, event, ?_⟩
      rw [asked, made]
      cases reply with
      | error e => cases ok
      | ok done => rfl

namespace Requested
variable {cooldown : Span} {user : User} {token : NewToken} {lookup clock latest rotation : Step}

theorem waited_latest (h : Requested issuer mail moves cooldown user token lookup clock latest rotation)
    (ordered : (instants latest.before).Pairwise (· ≤ ·)) :
    (run issuer mail latest.before).world.tables.Waited user.id cooldown token.issuedAt := by
  obtain ⟨row, asked, enough⟩ := h.waited
  have reply := (answered (mem_steps h.members.2.2).2 asked).1
  obtain rfl := Except.ok.inj reply
  exact (registeredFirst_run issuer mail latest.before ordered).waited enough

/-- If the user is verified when the request rotates, then by a step since the lookup. -/
theorem verified_between (h : Requested issuer mail moves cooldown user token lookup clock latest rotation)
    (early : rotation.before <+: moves) {owner : User}
    (stored : owner ∈ (run issuer mail rotation.before).world.tables.users.values) (same : owner.id = user.id)
    (verified : owner.verified = true) :
    ∃ z ∈ steps issuer mail moves, lookup.Precedes z ∧ z.Precedes rotation ∧ z.Verifies user.id := by
  obtain ⟨ttl, drawn, email, -, found⟩ := h.useCase
  obtain ⟨between, all⟩ := h.lookup_precedes
  -- the lookup itself has left the tables alone
  have after : (run issuer mail (lookup.before ++ [lookup.move])).world.tables =
      (run issuer mail lookup.before).world.tables := (answered (mem_steps h.members.1).2 found).2
  have there := h.stored
  rw [← all] at stored
  rw [← after] at there
  obtain ⟨z, mem, late, verifies⟩ := exists_verifies _ between there h.unverified stored same verified
  rw [all] at mem
  exact ⟨z, mem_steps_mono mem early, late, (mem_steps mem).1, verifies⟩

/-- If a token has been resent within the cooldown when the request rotates, then by a step since it has looked for
such a token. -/
theorem resent_between (h : Requested issuer mail moves cooldown user token lookup clock latest rotation)
    (early : rotation.before <+: moves) (ordered : (instants rotation.before).Pairwise (· ≤ ·))
    {a : VerificationToken} (stored : a ∈ (run issuer mail rotation.before).world.tables.tokens.values)
    (owner : a.userId = user.id) (resent : a.purpose = .resend) (soon : token.issuedAt - a.createdAt < cooldown) :
    ∃ z ∈ steps issuer mail moves, latest.Precedes z ∧ z.Precedes rotation ∧
      z.Rotates user.id ⟨a.token, a.purpose, a.createdAt, a.expiresAt⟩ := by
  obtain ⟨row, asked, -⟩ := h.waited
  obtain ⟨-, -, precedes⟩ := h.order
  have waited := h.waited_latest (ordered_mono precedes.before ordered)
  have after : (run issuer mail (latest.before ++ [latest.move])).world.tables =
      (run issuer mail latest.before).world.tables := (answered (mem_steps h.members.2.2).2 asked).2
  obtain ⟨between, all⟩ := precedes
  rw [← all] at stored ordered
  have absent : ∀ old ∈ (run issuer mail (latest.before ++ [latest.move])).world.tables.tokens.values,
      old.id ≠ a.id := by
    intro old mem id
    have origin := origin_eq_of_id_eq _ between mem stored id
    have mine : old.userId = user.id := (congrArg (·.1) origin).trans owner
    have purpose : old.purpose = .resend := (congrArg (·.2.purpose) origin).trans resent
    have createdAt : old.createdAt = a.createdAt := congrArg (·.2.issuedAt) origin
    rw [after] at mem
    have enough := waited old mem mine purpose
    rw [createdAt] at enough
    exact absurd soon (Int.not_lt.2 enough)
  obtain ⟨z, mem, late, rotates⟩ := exists_rotates _ between ordered absent stored resent
  rw [all] at mem
  exact ⟨z, mem_steps_mono mem early, late, (mem_steps mem).1, owner ▸ rotates⟩

end Requested

/-- However use cases are interleaved, if the clock does not go back: a token is issued to a user who asks for another
one only by a request that has found that user, not verified, and then, by the clock that it has read, no token that was
resent within the cooldown. When it issues the token the user is still there. If the user is verified by then, a
verification has come after the lookup; and a token that was resent within the cooldown by then was issued by a rotation
that has come after the request has looked for such a token. -/
theorem rotation_guards (issuer : Issuer) (mail : MailAction) (moves : List Move)
    (ordered : (instants moves).Pairwise (· ≤ ·)) {rotation : Step} (mem : rotation ∈ steps issuer mail moves)
    {userId : Int} {token : NewToken} (rotates : rotation.Rotates userId token) :
    ∃ cooldown user lookup clock latest, user.id = userId ∧
      Requested issuer mail moves cooldown user token lookup clock latest rotation ∧
      user ∈ (run issuer mail lookup.before).world.tables.users.values ∧
      (run issuer mail latest.before).world.tables.Waited userId cooldown token.issuedAt ∧
      (∃ owner ∈ (run issuer mail rotation.before).world.tables.users.values, owner.id = userId ∧
        (owner.verified = true → ∃ z ∈ steps issuer mail moves, lookup.Precedes z ∧ z.Precedes rotation ∧
          z.Verifies userId)) ∧
      ∀ a ∈ (run issuer mail rotation.before).world.tables.tokens.values, a.userId = userId → a.purpose = .resend →
        token.issuedAt - a.createdAt < cooldown → ∃ z ∈ steps issuer mail moves, latest.Precedes z ∧
          z.Precedes rotation ∧ z.Rotates userId ⟨a.token, a.purpose, a.createdAt, a.expiresAt⟩ := by
  obtain ⟨event, asked⟩ := rotates
  obtain ⟨cooldown, user, lookup, clock, latest, rfl, requested⟩ :=
    exists_requested mem (congrArg Exchange.effect asked)
  have early := prefix_of_mem mem
  have before : (instants rotation.before).Pairwise (· ≤ ·) := ordered_mono early ordered
  have waited := requested.waited_latest (ordered_mono requested.order.2.2.before before)
  obtain ⟨owner, stored, same⟩ := owner_of_rotate mem asked
  exact ⟨cooldown, user, lookup, clock, latest, rfl, requested, requested.stored, waited,
    ⟨owner, stored, same, fun verified => requested.verified_between early stored same verified⟩,
    fun a there mine resent soon => requested.resent_between early before there mine resent soon⟩

end Running

/-! ### Two requests and a verification at the same time -/

namespace Sample

def tokenC : DrawnToken := token 'C' (by decide)

/-- Both requests look for the user and for the latest token, and then the first token is used to verify the user. After
that the first request rotates. -/
def crossing : List Move := registers ++
  [.start (.resend 5000000 60000000 tokenB "ann@x"), .start (.resend 5000000 60000000 tokenC "ann@x"),
    .start (.verify tokenA.text), .step 1 1100000, .step 2 1100000, .step 1 1200000, .step 2 1200000, .step 1 1300000,
    .step 2 1300000, .step 3 1400000, .step 3 1500000, .step 3 1600000, .step 1 1700000]

def issueB : NewToken × NewEvent := Action.issueToken "ann@x" tokenB.text .resend 1200000 5000000

def issueC : NewToken × NewEvent := Action.issueToken "ann@x" tokenC.text .resend 1200000 5000000

/-- The second request rotates as well. -/
def rotation : Running.Step := ⟨crossing, 2, 1800000, .store (.rotate 1 issueC.1 issueC.2), .ok ()⟩

/-- What there is when it comes. -/
structure Crossed (s : Running) : Prop where
  asks : ∃ next, s.jobs[2]? = some ⟨.resend 5000000 60000000 tokenC "ann@x",
    .ask (.store (.rotate 1 issueC.1 issueC.2)) next⟩
  accepted : (World.answer issuer 1800000 mail (.store (.rotate 1 issueC.1 issueC.2)) s.world).1 = .ok ()
  verified : ∃ user, s.world.tables.users.values = [user] ∧ user.id = 1 ∧ user.verified = true
  resent : issueB.1.row 2 1 ∈ s.world.tables.tokens.values

theorem crossed : Crossed (Running.run issuer mail crossing) := by
  obtain ⟨hash, answer, calls, readings, start⟩ := run_registers
  have step := @Running.of_step issuer mail Crossed
  have user (now : Instant) : World.answer issuer now mail (.store (.getUserByEmail "ann@x"))
      ⟨.memory (registered hash), []⟩ = (.ok (some (User.fresh ⟨"ann", registration.profile⟩ 1000000 1)),
        ⟨.memory (registered hash), []⟩) := rfl
  have latest (now : Instant) : World.answer issuer now mail (.store (.latestToken 1))
      ⟨.memory (registered hash), []⟩ = (.ok (some (NewToken.row ⟨tokenA.text, .register, 1000000, 2000000⟩ 1 1)),
        ⟨.memory (registered hash), []⟩) := rfl
  have found (now : Instant) : World.answer issuer now mail (.store (.findToken tokenA.text))
      ⟨.memory (registered hash), []⟩ = (.ok (some (NewToken.row ⟨tokenA.text, .register, 1000000, 2000000⟩ 1 1,
        User.fresh ⟨"ann", registration.profile⟩ 1000000 1)), ⟨.memory (registered hash), []⟩) := rfl
  rw [crossing, Running.run_append, start, List.foldl_cons, List.foldl_cons, List.foldl_cons]
  refine step rfl (user _) ?_
  refine step rfl (user _) ?_
  refine step rfl rfl ?_
  refine step rfl rfl ?_
  refine step rfl (latest _) ?_
  refine step rfl (latest _) ?_
  refine step rfl (found _) ?_
  refine step rfl rfl ?_
  refine step rfl rfl ?_
  refine step rfl rfl ?_
  exact ⟨⟨_, rfl⟩, rfl, ⟨_, rfl, rfl, rfl⟩, List.mem_of_getElem? (i := 1) rfl⟩

theorem rotation_mem : rotation ∈ Running.steps issuer mail (crossing ++ [rotation.move]) := by
  obtain ⟨next, at_⟩ := crossed.asks
  have taken := Running.taken?_of_job at_ 1800000
  rw [crossed.accepted] at taken
  exact Running.mem_steps_of_taken (x := rotation) taken (List.prefix_refl _)

theorem rotation_rotates : rotation.Rotates 1 issueC.1 := ⟨issueC.2, rfl⟩

theorem crossing_ordered : (Running.instants (crossing ++ [rotation.move])).Pairwise (· ≤ ·) := by decide

end Sample

/-- The verification and the first rotation have come in between. -/
theorem rotation_guards_crossing :
    (Running.instants (Sample.crossing ++ [Sample.rotation.move])).Pairwise (· ≤ ·) ∧
    Sample.rotation ∈ Running.steps Sample.issuer Sample.mail (Sample.crossing ++ [Sample.rotation.move]) ∧
    Sample.rotation.Rotates 1 Sample.issueC.1 ∧
    (∃ z ∈ Running.steps Sample.issuer Sample.mail (Sample.crossing ++ [Sample.rotation.move]),
      z.Precedes Sample.rotation ∧ z.Verifies 1) ∧
    ∃ z ∈ Running.steps Sample.issuer Sample.mail (Sample.crossing ++ [Sample.rotation.move]),
      z.Precedes Sample.rotation ∧ z.Rotates 1 Sample.issueB.1 := by
  obtain ⟨cooldown, user, lookup, clock, latest, id, requested, -, -, ⟨owner, stored, same, between⟩, recent⟩ :=
    Running.rotation_guards Sample.issuer Sample.mail _ Sample.crossing_ordered Sample.rotation_mem
      Sample.rotation_rotates
  refine ⟨Sample.crossing_ordered, Sample.rotation_mem, Sample.rotation_rotates, ?_, ?_⟩
  · obtain ⟨ann, users, -, verified⟩ := Sample.crossed.verified
    change owner ∈ (Running.run Sample.issuer Sample.mail Sample.crossing).world.tables.users.values at stored
    rw [users, List.mem_singleton] at stored
    obtain ⟨z, mem, -, precedes, verifies⟩ := between (stored ▸ verified)
    exact ⟨z, mem, precedes, verifies⟩
  · obtain ⟨ttl, drawn, email, started, -⟩ := requested.useCase
    obtain ⟨rfl, rfl, -⟩ := UseCase.resend.inj (Option.some.inj (started.symm.trans rfl))
    obtain ⟨z, mem, -, precedes, rotates⟩ := recent _ Sample.crossed.resent rfl rfl (by decide)
    exact ⟨z, mem, precedes, rotates⟩

/-- A rotation takes effect, at the instant that the request has read at last, though its user is verified and another
token was resent within the cooldown. -/
theorem rotates_unguarded :
    (Running.instants (Sample.crossing ++ [Sample.rotation.move])).Pairwise (· ≤ ·) ∧
    Sample.rotation ∈ Running.steps Sample.issuer Sample.mail (Sample.crossing ++ [Sample.rotation.move]) ∧
    Sample.rotation.Rotates 1 Sample.issueC.1 ∧
    (Running.started (Sample.crossing ++ [Sample.rotation.move]))[Sample.rotation.place]? =
      some (.resend 5000000 60000000 Sample.tokenC "ann@x") ∧
    (¬∃ user ∈ (Running.run Sample.issuer Sample.mail Sample.rotation.before).world.tables.users.values,
      user.id = 1 ∧ user.verified = false) ∧
    ¬(Running.run Sample.issuer Sample.mail Sample.rotation.before).world.tables.Waited 1 60000000
      Sample.issueC.1.issuedAt := by
  refine ⟨Sample.crossing_ordered, Sample.rotation_mem, Sample.rotation_rotates, rfl, ?_, fun waited => ?_⟩
  · rintro ⟨user, stored, -, unverified⟩
    obtain ⟨ann, users, -, verified⟩ := Sample.crossed.verified
    change user ∈ (Running.run Sample.issuer Sample.mail Sample.crossing).world.tables.users.values at stored
    rw [users, List.mem_singleton] at stored
    cases (stored ▸ verified).symm.trans unverified
  · exact absurd (waited _ Sample.crossed.resent rfl rfl) (by decide)

end Accounts
