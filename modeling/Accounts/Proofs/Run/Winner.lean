import Accounts.Proofs.Run.History
import Accounts.Proofs.Run.Steps
/-! Verifications of one token that run at the same time. Main statement: one of them succeeds at most, and all that
look the token up once it is spent are refused. -/
namespace Accounts
open Time

/-! ### A text that is drawn once is stored once -/

/-- A token is stored by a use case that has drawn it, and that has stored none before. -/
theorem UseCase.Asks.draws {u : UseCase} {log : List Exchange} {e : Effect} {n : NewToken} (asks : u.Asks log e)
    (new : e.newToken? = some n) : u.drawn? = some n.token ∧ ∀ x ∈ log, x.effect.newToken? = none := by
  cases asks with
  | registerWrite =>
    obtain rfl := Option.some.inj new
    exact ⟨rfl, by simp [Effect.newToken?]⟩
  | resendWrite =>
    obtain rfl := Option.some.inj new
    exact ⟨rfl, by simp [Effect.newToken?, StoreCall.newToken?]⟩
  | other undrawn named quiet => cases quiet.symm.trans new
  | _ => cases new

theorem eq_of_nodup_filterMap {α β : Type} {f : α → Option β} {l : List α} (nodup : (l.filterMap f).Nodup)
    {i j : Nat} {a b : α} {c : β} (hi : l[i]? = some a) (hj : l[j]? = some b) (ha : f a = some c) (hb : f b = some c) :
    i = j := by
  obtain ⟨ltI, rfl⟩ := List.getElem?_eq_some_iff.1 hi
  obtain ⟨ltJ, rfl⟩ := List.getElem?_eq_some_iff.1 hj
  have apart := List.pairwise_iff_getElem.1 (List.pairwise_filterMap.1 nodup)
  rcases Nat.lt_trichotomy i j with lt | same | gt
  · exact absurd rfl (apart i j ltI ltJ lt c ha c hb)
  · exact same
  · exact absurd rfl (apart j i ltJ ltI gt c hb c ha)

namespace Running

/-- The texts that are drawn for all use cases of a run. -/
def drawnBy (moves : List Move) : List String := (started moves).filterMap UseCase.drawn?

variable {issuer : Issuer} {mail : MailAction} {moves more : List Move} {x y : Step}

/-- What a step stores was drawn for the use case in its place. -/
theorem started_of_newToken (mem : x ∈ steps issuer mail moves) {n : NewToken}
    (new : x.exchange.effect.newToken? = some n) :
    ∃ u, (started moves)[x.place]? = some u ∧ u.drawn? = some n.token := by
  obtain ⟨u, next, at_, asks, -⟩ := asks_of_taken? (mem_steps mem).2
  exact ⟨u, started_of_job at_ (prefix_of_mem mem), (asks.draws new).1⟩

theorem step_eq_of_text_eq (distinct : (drawnBy moves).Nodup) (hx : x ∈ steps issuer mail moves)
    (hy : y ∈ steps issuer mail moves) {n m : NewToken} (newX : x.exchange.effect.newToken? = some n)
    (newY : y.exchange.effect.newToken? = some m) (same : n.token = m.token) : x = y := by
  obtain ⟨u, atX, drawnX⟩ := started_of_newToken hx newX
  obtain ⟨v, atY, drawnY⟩ := started_of_newToken hy newY
  have place : x.place = y.place := eq_of_nodup_filterMap distinct atX atY drawnX (same ▸ drawnY)
  -- the later of two such steps would be the second one of its job
  have once {x y : Step} (hx : x ∈ steps issuer mail moves) (hy : y ∈ steps issuer mail moves) {n m : NewToken}
      (newX : x.exchange.effect.newToken? = some n) (newY : y.exchange.effect.newToken? = some m)
      (place : x.place = y.place) : ¬x.Precedes y := by
    intro early
    obtain ⟨u, next, at_, asks, -⟩ := asks_of_taken? (mem_steps hy).2
    have logged : x.exchange ∈ log issuer mail y.before y.place :=
      mem_log.2 ⟨x, mem_steps_of_taken (mem_steps hx).2 early, place, rfl⟩
    cases ((asks.draws newY).2 _ logged).symm.trans newX
  rcases steps_ordered hx hy with eq | first | second
  · exact eq
  · exact absurd first (once hx hy newX newY place)
  · exact absurd second (once hy hx newY newX place.symm)

/-- Every token was stored by a step, under the next id. -/
theorem exists_step_of_token (moves : List Move) {a : VerificationToken}
    (mem : a ∈ (run issuer mail moves).world.tables.tokens.values) : ∃ x ∈ steps issuer mail moves, ∃ n,
      x.exchange.effect.newToken? = some n ∧ n.token = a.token ∧
        a.id = (run issuer mail x.before).world.tables.tokens.next := by
  induction moves using List.reverseRecOn generalizing a with
  | nil => exact absurd mem List.not_mem_nil
  | append_singleton moves move ih =>
    have earlier {b : VerificationToken} (stored : b ∈ (run issuer mail moves).world.tables.tokens.values)
        (ages : b.AgesTo a) : ∃ x ∈ steps issuer mail (moves ++ [move]), ∃ n,
          x.exchange.effect.newToken? = some n ∧ n.token = a.token ∧
            a.id = (run issuer mail x.before).world.tables.tokens.next := by
      obtain ⟨x, there, n, new, text, id⟩ := ih stored
      exact ⟨x, mem_steps_mono there (List.prefix_append _ _), n, new, text.trans ages.text.symm, ages.id.trans id⟩
    rcases tables_append_singleton issuer mail moves move with same | ⟨x, c, reply, taken, before, rfl, asked⟩
    · exact earlier (same ▸ mem) (.refl a)
    · rw [← before] at taken mem earlier ⊢
      rw [(answered taken asked).2] at mem
      have change := Tables.answer_change x.now c (run issuer mail x.before).world.tables
      rcases change.token_cases (consistent_run issuer mail _) mem with ⟨old, stored, ages⟩ | ⟨-, n, new, rfl⟩
      · exact earlier stored ages
      · exact ⟨x, mem_steps_of_taken taken (List.prefix_refl _), n, by rw [asked]; exact new, rfl, rfl⟩

/-- Whenever two tokens have the same text, they are the same. -/
theorem id_eq_of_text_eq (distinct : (drawnBy moves).Nodup) {p q : List Move} (hp : p <+: moves) (hq : q <+: moves)
    {a b : VerificationToken} (ha : a ∈ (run issuer mail p).world.tables.tokens.values)
    (hb : b ∈ (run issuer mail q).world.tables.tokens.values) (same : a.token = b.token) : a.id = b.id := by
  obtain ⟨x, memX, n, newX, textX, idX⟩ := exists_step_of_token p ha
  obtain ⟨y, memY, m, newY, textY, idY⟩ := exists_step_of_token q hb
  obtain rfl := step_eq_of_text_eq distinct (mem_steps_mono memX hp) (mem_steps_mono memY hq) newX newY
    (textX.trans (same.trans textY.symm))
  exact idX.trans idY.symm

/-! ### A token that is spent -/

theorem eq_of_isConsumed (moves more : List Move) {a b : VerificationToken}
    (ha : a ∈ (run issuer mail moves).world.tables.tokens.values) (spent : a.isConsumed = true)
    (hb : b ∈ (run issuer mail (moves ++ more)).world.tables.tokens.values) (same : b.id = a.id) : b = a := by
  have sound := (consistent_run issuer mail moves).tokens
  suffices keeps : a.id ≤ (run issuer mail (moves ++ more)).world.tables.tokens.last ∧
      ∀ b ∈ (run issuer mail (moves ++ more)).world.tables.tokens.values, b.id = a.id → b = a from keeps.2 b hb same
  refine tables_induction (P := fun t => a.id ≤ t.tokens.last ∧ ∀ b ∈ t.tokens.values, b.id = a.id → b = a) ?_ moves
    more ⟨sound.le_last ha, fun b hb same => sound.eq_of_key_eq hb ha same⟩
  intro now t c ok t' consistent change ⟨early, keeps⟩
  refine ⟨Int.le_trans early change.continues.tokens.last_le, fun b hb same => ?_⟩
  rcases change.mem_tokens consistent hb with ⟨old, stored, ages, kept⟩ | ⟨-, n, -, rfl⟩
  · obtain rfl := keeps old stored (ages.id.symm.trans same)
    exact kept spent
  · simp only [NewToken.row, Table.next] at same
    omega

/-- A token is there as long as its user is. -/
theorem exists_of_known (moves more : List Move) {a : VerificationToken}
    (ha : a ∈ (run issuer mail moves).world.tables.tokens.values)
    (known : a.userId ∈ (run issuer mail (moves ++ more)).world.tables.users.keys) :
    ∃ b ∈ (run issuer mail (moves ++ more)).world.tables.tokens.values, b.id = a.id := by
  have consistent := consistent_run issuer mail moves
  suffices stays : a.userId ≤ (run issuer mail (moves ++ more)).world.tables.users.last ∧
      (a.userId ∈ (run issuer mail (moves ++ more)).world.tables.users.keys →
        ∃ b ∈ (run issuer mail (moves ++ more)).world.tables.tokens.values, b.id = a.id ∧ b.userId = a.userId) by
    obtain ⟨b, hb, same, -⟩ := stays.2 known
    exact ⟨b, hb, same⟩
  refine tables_induction (P := fun t => a.userId ≤ t.users.last ∧ (a.userId ∈ t.users.keys →
    ∃ b ∈ t.tokens.values, b.id = a.id ∧ b.userId = a.userId)) ?_ moves more
    ⟨(consistent.users.within _ (consistent.owners a ha)).2, fun _ => ⟨a, ha, rfl, rfl⟩⟩
  intro now t c ok t' consistent change ⟨early, stays⟩
  refine ⟨Int.le_trans early change.continues.users.last_le, fun known => ?_⟩
  obtain ⟨b, hb, same, owner⟩ := stays (change.continues.users.mem_keys early known)
  have here := change.token_stays consistent hb (owner ▸ known)
  obtain ⟨b', hb', id⟩ := (consistent.change change).tokens.mem_keys_iff.1 here
  refine ⟨b', hb', id.trans same, ?_⟩
  rcases change.token_cases consistent hb' with ⟨old, stored, ages⟩ | ⟨-, n, -, rfl⟩
  · obtain rfl := consistent.tokens.eq_of_key_eq stored hb (ages.id.symm.trans id)
    exact ages.userId.trans owner
  · have := consistent.tokens.le_last hb
    simp only [NewToken.row, Table.next] at id
    omega

/-! ### Verifications -/

theorem found_of_lookup (mem : x ∈ steps issuer mail moves) {text : String} {found : VerificationToken} {owner : User}
    (asked : x.exchange = ⟨.store (.findToken text), .ok (some (found, owner))⟩) :
    found ∈ (run issuer mail x.before).world.tables.tokens.values ∧ found.token = text := by
  have reply := (answered (mem_steps mem).2 asked).1
  rw [Tables.answer_findToken] at reply
  obtain ⟨row, stored, same⟩ := Option.bind_eq_some_iff.1 (Except.ok.inj reply).symm
  obtain ⟨user, -, pair⟩ := Option.map_eq_some_iff.1 same
  obtain ⟨rfl, rfl⟩ := Prod.ext_iff.1 pair
  exact ⟨List.mem_of_find?_eq_some stored, by simpa using List.find?_some stored⟩

/-- The token that is spent was live before. -/
theorem spent_by_write (mem : x ∈ steps issuer mail moves) {id userId : Int} {at_ : Instant} {user : User}
    (asked : x.exchange = ⟨.store (.verifyWithToken id userId at_), .ok user⟩) :
    (∃ a ∈ (run issuer mail x.before).world.tables.tokens.values, a.id = id ∧ a.isConsumed = false) ∧
    ∃ b ∈ (run issuer mail (x.before ++ [x.move])).world.tables.tokens.values, b.id = id ∧ b.isConsumed = true := by
  obtain ⟨reply, after⟩ := answered (mem_steps mem).2 asked
  have consistent := consistent_run issuer mail x.before
  have change := Tables.answer_accepted reply.symm
  rw [← after] at change
  generalize (run issuer mail (x.before ++ [x.move])).world.tables = t' at change ⊢
  cases change with
  | read reads => cases reads
  | @verifyWithToken _ _ _ u token stored found live =>
    obtain ⟨there, same⟩ := consistent.tokens.get?_eq_some_iff.1 found
    refine ⟨⟨token, there, same, live⟩, token.spend at_, ?_, same, rfl⟩
    rw [consistent.tokens.values_adjust]
    exact List.mem_map.2 ⟨token, there, if_pos same⟩

/-- The job in this place has verified with this text, and has succeeded. -/
def Verified (s : Running) (text : String) (place : Nat) : Prop :=
  ∃ user, s.jobs[place]? = some ⟨.verify text, .done (.ok user)⟩

/-- It has found the token and has spent it. -/
theorem Verified.exists_steps {place : Nat} {text : String} (h : (run issuer mail moves).Verified text place) :
    ∃ x ∈ steps issuer mail moves, ∃ y ∈ steps issuer mail moves, ∃ found owner now user, y.place = place ∧
      x.exchange = ⟨.store (.findToken text), .ok (some (found, owner))⟩ ∧
      y.exchange = ⟨.store (.verifyWithToken found.id owner.id now), .ok user⟩ := by
  obtain ⟨user, ended⟩ := h
  have ends : UseCase.VerifyEnds text (log issuer mail moves place) (.ok user) :=
    (logged issuer mail moves).some place _ ended
  generalize all : log issuer mail moves place = exchanges at ends
  cases ends with
  | @written found owner now =>
    obtain ⟨x, memX, -, askedX⟩ : ∃ x ∈ steps issuer mail moves, x.place = place ∧ _ :=
      mem_log.1 (all ▸ List.mem_cons_self)
    obtain ⟨y, memY, placeY, askedY⟩ : ∃ y ∈ steps issuer mail moves, y.place = place ∧ _ :=
      mem_log.1 (all ▸ List.mem_cons_of_mem _ (List.mem_cons_of_mem _ List.mem_cons_self))
    exact ⟨x, memX, y, memY, found, owner, now, user, placeY, askedX, askedY⟩

theorem not_spent_twice (hx : x ∈ steps issuer mail moves) (hy : y ∈ steps issuer mail moves) {id userId userId' : Int}
    {at_ at' : Instant} {user user' : User}
    (askedX : x.exchange = ⟨.store (.verifyWithToken id userId at_), .ok user⟩)
    (askedY : y.exchange = ⟨.store (.verifyWithToken id userId' at'), .ok user'⟩) :
    ¬x.Precedes y := by
  rintro ⟨between, later⟩
  obtain ⟨-, b, hb, idB, spent⟩ := spent_by_write hx askedX
  obtain ⟨⟨a, ha, idA, live⟩, -⟩ := spent_by_write hy askedY
  rw [← later] at ha
  obtain rfl := eq_of_isConsumed _ between hb spent ha (idA.trans idB.symm)
  rw [spent] at live
  cases live

theorem Verified.place_eq (distinct : (drawnBy moves).Nodup) {p q : Nat} {text : String}
    (hp : (run issuer mail moves).Verified text p) (hq : (run issuer mail moves).Verified text q) : p = q := by
  obtain ⟨x, memX, y, memY, found, owner, now, user, rfl, askedX, askedY⟩ := hp.exists_steps
  obtain ⟨x', memX', y', memY', found', owner', now', user', rfl, askedX', askedY'⟩ := hq.exists_steps
  obtain ⟨there, text_eq⟩ := found_of_lookup memX askedX
  obtain ⟨there', text_eq'⟩ := found_of_lookup memX' askedX'
  have same := id_eq_of_text_eq distinct (prefix_of_mem memX) (prefix_of_mem memX') there there'
    (text_eq.trans text_eq'.symm)
  rw [← same] at askedY'
  rcases steps_ordered memY memY' with eq | first | second
  · rw [eq]
  · exact absurd first (not_spent_twice memY memY' askedY askedY')
  · exact absurd second (not_spent_twice memY' memY askedY' askedY)

/-- What looks up a token that is spent. -/
theorem findToken_of_spent (distinct : (drawnBy (moves ++ more)).Nodup) {a : VerificationToken}
    (ha : a ∈ (run issuer mail moves).world.tables.tokens.values) (spent : a.isConsumed = true) (now : Instant) :
    (Tables.answer now (.findToken a.token) (run issuer mail (moves ++ more)).world.tables).1 =
      .ok (((run issuer mail (moves ++ more)).world.tables.users.get? a.userId).map fun u => (a, u)) := by
  rw [Tables.answer_findToken]
  have same {b : VerificationToken} (hb : b ∈ (run issuer mail (moves ++ more)).world.tables.tokens.values)
      (text : b.token = a.token) : b = a :=
    eq_of_isConsumed moves more ha spent hb
      (id_eq_of_text_eq distinct (List.prefix_refl _) (List.prefix_append _ _) hb ha text)
  rcases found : (run issuer mail (moves ++ more)).world.tables.tokens.find? fun row => row.token = a.token with _ | b
  · -- the token is gone, and so is its user
    have gone : (run issuer mail (moves ++ more)).world.tables.users.get? a.userId = none := by
      refine Option.eq_none_iff_forall_not_mem.2 fun u known => ?_
      obtain ⟨b, hb, id⟩ := exists_of_known moves more ha (Table.has_iff_mem_keys.1 (Option.isSome_of_mem known))
      obtain rfl := eq_of_isConsumed moves more ha spent hb id
      have absent := List.find?_eq_none.1 found b hb
      simp at absent
    rw [gone]
    rfl
  · obtain rfl := same (List.mem_of_find?_eq_some found) (by simpa using List.find?_some found)
    rfl

/-- A verification that has found a token that is spent, or none, has ended. -/
theorem ended_of_lookup {text : String} {reply : Option (VerificationToken × User)}
    {rest : Program (Except ServiceError User)}
    (h : Program.Proceeds (UseCase.verify text).Asks (UseCase.verify text).Ends
      [⟨.store (.findToken text), .ok reply⟩] rest) (spent : ∀ pair, reply = some pair → pair.1.isConsumed = true) :
    rest = .done (.error (if reply.isSome then .tokenAlreadyUsed else .tokenNotFound)) := by
  cases rest with
  | done result =>
    have ends : UseCase.VerifyEnds text _ result := h
    cases ends with
    | unknown => rfl
    | spent => rfl
  | ask e next =>
    obtain ⟨asks, -⟩ := h
    cases asks with
    | verifyClock live => exact absurd (spent _ rfl) (by simp [live])
    | other undrawn named => exact absurd rfl (named text)

theorem refused_of_spent {place : Nat} {now : Instant} {last : List Move} {a : VerificationToken}
    (distinct : (drawnBy (moves ++ more)).Nodup) (ha : a ∈ (run issuer mail moves).world.tables.tokens.values)
    (spent : a.isConsumed = true) {next : (Effect.store (.findToken a.token)).Reply → Program (Except ServiceError User)}
    (at_ : (run issuer mail (moves ++ more)).jobs[place]? =
      some ⟨.verify a.token, .ask (.store (.findToken a.token)) next⟩) :
    (run issuer mail (moves ++ more ++ .step place now :: last)).jobs[place]? = some ⟨.verify a.token, .done (.error
      (if (run issuer mail (moves ++ more)).world.tables.users.has a.userId then .tokenAlreadyUsed
        else .tokenNotFound))⟩ := by
  have taken := taken?_of_job at_ now
  generalize (World.answer issuer now mail (.store (.findToken a.token)) _).1 = reply at taken
  obtain ⟨asks, rest, later, proceeds⟩ := proceeds_of_taken? (x := ⟨_, place, now, _, reply⟩) taken at_
  obtain ⟨answer, -⟩ := answered (x := ⟨_, place, now, _, reply⟩) taken rfl
  have first : log issuer mail (moves ++ more) place = [] := by
    generalize log issuer mail (moves ++ more) place = exchanges at asks
    cases asks with
    | verifyLookup => rfl
    | other undrawn named => exact absurd rfl (named a.token)
  rw [findToken_of_spent distinct ha spent] at answer
  dsimp only at answer proceeds
  rw [first, answer] at proceeds
  have ended := ended_of_lookup proceeds fun pair same => by
    obtain ⟨u, -, rfl⟩ := Option.map_eq_some_iff.1 same
    exact spent
  rw [Option.isSome_map] at ended
  rw [ended] at later
  have all := ended_append later last
  rw [List.append_assoc] at all
  exact all

/-- A verification changes the tables only by the step by which it succeeds. -/
theorem unchanged_or_verified {place : Nat} {text : String} {rest : Program (Except ServiceError User)}
    (at_ : (run issuer mail moves).jobs[place]? = some ⟨.verify text, rest⟩) (now : Instant) :
    (run issuer mail (moves ++ [.step place now])).world.tables = (run issuer mail moves).world.tables ∨
    (run issuer mail (moves ++ [.step place now])).Verified text place := by
  rcases tables_append_singleton issuer mail moves (.step place now) with
    same | ⟨x, c, reply, taken, before, move, asked⟩
  · exact .inl same
  · obtain ⟨rfl, rfl⟩ := Move.step.inj move
    rw [← before] at taken at_ ⊢
    rw [← move]
    obtain ⟨replied, after⟩ := answered taken asked
    obtain ⟨asks, rest', later, proceeds⟩ := proceeds_of_taken? taken at_
    rw [asked] at asks proceeds
    generalize log issuer mail x.before x.place = exchanges at asks proceeds
    cases asks with
    | verifyLookup =>
      left
      rw [after, Tables.answer_findToken]
    | other undrawn named => exact absurd rfl (named text)
    | verifyWrite live inTime =>
      rcases reply with e | user
      · left
        rw [after, Tables.answer_refused replied.symm]
      · right
        refine ⟨user, ?_⟩
        cases rest' with
        | done result =>
          have ends : UseCase.VerifyEnds text _ result := proceeds
          cases ends with
          | written => exact later
        | ask e next =>
          obtain ⟨asks, -⟩ := proceeds
          cases asks with
          | other undrawn named => exact absurd rfl (named text)

/-- However use cases are interleaved, if no text is drawn twice: of all verifications of a text, one succeeds at most,
and the others change nothing. A token that is spent stays as it is as long as it is there, and who looks it up from
then on is refused: it was used, or, once its user is gone, there is none. -/
theorem one_verification_succeeds (issuer : Issuer) (mail : MailAction) (moves : List Move)
    (distinct : (drawnBy moves).Nodup) (text : String) :
    (∀ p q, (run issuer mail moves).Verified text p → (run issuer mail moves).Verified text q → p = q) ∧
    (∀ early late, moves = early ++ late → ∀ a ∈ (run issuer mail early).world.tables.tokens.values, a.token = text →
      a.isConsumed = true → ∀ b ∈ (run issuer mail moves).world.tables.tokens.values, b.token = text → b = a) ∧
    (∀ early late place now last, moves = early ++ late ++ .step place now :: last →
      ∀ a ∈ (run issuer mail early).world.tables.tokens.values, a.token = text → a.isConsumed = true →
      ∀ next, (run issuer mail (early ++ late)).jobs[place]? =
          some (Job.mk (.verify text) (.ask (.store (.findToken text)) next)) →
        (run issuer mail moves).jobs[place]? = some (Job.mk (.verify text) (.done (.error
          (if (run issuer mail (early ++ late)).world.tables.users.has a.userId then .tokenAlreadyUsed
            else .tokenNotFound))))) ∧
    ∀ before place now last, moves = before ++ .step place now :: last →
      ∀ rest, (run issuer mail before).jobs[place]? = some (Job.mk (.verify text) rest) →
        ¬(run issuer mail moves).Verified text place →
        (run issuer mail (before ++ [.step place now])).world.tables = (run issuer mail before).world.tables := by
  refine ⟨fun p q => Verified.place_eq distinct, ?_, ?_, ?_⟩
  · rintro early late rfl a ha rfl spent b hb same
    have id := id_eq_of_text_eq distinct (List.prefix_refl _) (List.prefix_append _ _) hb ha same
    exact eq_of_isConsumed early late ha spent hb id
  · rintro early late place now last rfl a ha rfl spent next at_
    have texts : (drawnBy (early ++ late)).Nodup := by
      rw [drawnBy, started_append, List.filterMap_append] at distinct
      exact (List.nodup_append.1 distinct).1
    exact refused_of_spent texts ha spent at_
  · rintro before place now last rfl rest at_ unverified
    rcases unchanged_or_verified at_ now with same | ⟨user, ended⟩
    · exact same
    · have all := ended_append ended last
      rw [List.append_assoc] at all
      exact absurd ⟨user, all⟩ unverified

end Running

/-! ### Two verifications at the same time -/

namespace Sample

def mail : MailAction := fun _ store => (true, store)

/-- The registration, alone. -/
def registers : List Move :=
  [.start (.register 1000000 [] tokenA registration), .step 0 1000000, .step 0 1000000]

/-- Both look the token up before one of them spends it. -/
def race : List Move := registers ++
  [.start (.verify tokenA.text), .start (.verify tokenA.text), .step 1 1200000, .step 2 1200000, .step 1 1300000,
    .step 2 1300000, .step 1 1400000, .step 2 1500000]

theorem run_registers : ∃ hash user calls readings, Running.run issuer mail registers =
    ⟨⟨.memory (registered hash), []⟩, [⟨.register 1000000 [] tokenA registration, .done (.ok user)⟩], calls, readings⟩ := by
  obtain ⟨hash, hashed⟩ := exists_hash []
  refine ⟨hash, ?_⟩
  change ∃ user calls readings, [Move.step 0 1000000, .step 0 1000000].foldl (Running.after issuer mail)
    ⟨⟨.memory .empty, []⟩, [⟨.register 1000000 [] tokenA registration,
      (UseCase.register 1000000 [] tokenA registration).action.run⟩], [], []⟩ = _
  rw [UseCase.action_register (by decide) (by decide) (by decide) hashed]
  exact ⟨_, _, _, rfl⟩

end Sample

theorem one_verification_succeeds_in_race :
    (Running.drawnBy Sample.race).Nodup ∧
    (Running.run Sample.issuer Sample.mail Sample.race).Verified Sample.tokenA.text 1 ∧
    ∀ p, (Running.run Sample.issuer Sample.mail Sample.race).Verified Sample.tokenA.text p → p = 1 := by
  have distinct : (Running.drawnBy Sample.race).Nodup := List.nodup_singleton _
  have wins : (Running.run Sample.issuer Sample.mail Sample.race).Verified Sample.tokenA.text 1 := by
    obtain ⟨hash, user, calls, readings, start⟩ := Sample.run_registers
    have lookup (now : Instant) : World.answer Sample.issuer now Sample.mail (.store (.findToken Sample.tokenA.text))
        ⟨.memory (Sample.registered hash), []⟩ =
        (.ok (some (NewToken.row ⟨Sample.tokenA.text, .register, 1000000, 2000000⟩ 1 1,
          User.fresh ⟨"ann", Sample.registration.profile⟩ 1000000 1)), ⟨.memory (Sample.registered hash), []⟩) := rfl
    rw [Sample.race, Running.run_append, start, List.foldl_cons, List.foldl_cons]
    have step := @Running.of_step Sample.issuer Sample.mail (fun s => s.Verified Sample.tokenA.text 1)
    -- both lookups first, then both readings of the clock, then both writes
    refine step rfl (lookup _) ?_
    refine step rfl (lookup _) ?_
    refine step rfl rfl ?_
    refine step rfl rfl ?_
    refine step rfl rfl ?_
    refine step rfl rfl ?_
    exact ⟨_, rfl⟩
  refine ⟨distinct, wins, fun p verified => ?_⟩
  have once := (Running.one_verification_succeeds Sample.issuer Sample.mail Sample.race distinct Sample.tokenA.text).1
  exact once p 1 verified wins

end Accounts
