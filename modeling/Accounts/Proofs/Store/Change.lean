import Accounts.Store.Memory
/-! What a call can do to the tables in memory. All that is proved about states of the store is proved by cases over
these changes. -/
namespace Accounts
open Time

/-- A token once another one is issued at the instant `now`: an active one of that user is spent. -/
def VerificationToken.supersede (userId : Int) (now : Instant) (old : VerificationToken) : VerificationToken :=
  if old.userId = userId && old.isActive now then old.spend now else old

def OutboxEvent.settle (status : OutboxStatus) (now : Instant) (e : OutboxEvent) : OutboxEvent :=
  { e with
    status
    updatedAt := now
    processedAt := if status = .processed then some now else e.processedAt }

def StoreCall.writes : StoreCall → Bool
  | updateProfile _ _ | updatePassword _ _ | deleteUser _ | create .. | rotate .. | verifyWithToken ..
  | updateStatus _ _ => true
  | _ => false

namespace Tables

/-- A call that is refused changes nothing, and one that succeeds makes all of its writes, under the conditions that
it has checked. -/
inductive Change (now : Instant) (t : Tables) : StoreCall → Bool → Tables → Prop
  | refused (c : StoreCall) : Change now t c false t
  | read {c : StoreCall} (reads : c.writes = false) : Change now t c true t
  | updateProfile {username : String} {p : Profile} {u v : User} (named : t.userByName? username = some u)
      (free : t.emailTaken p.email (some u.id) = false) (stored : t.users.get? u.id = some v) :
      Change now t (.updateProfile username p) true { t with users := t.users.adjust v.id (User.withProfile p now) }
  | updatePassword {userId : Int} {hash : String} (known : (t.hashes.lookup userId).isSome = true) :
      Change now t (.updatePassword userId hash) true (t.setHash userId hash)
  | deleteUser {username : String} {u : User} (named : t.userByName? username = some u) :
      Change now t (.deleteUser username) true { t with
        users := t.users.erase u.id
        hashes := t.hashes.filter fun (id, _) => id ≠ u.id
        tokens := t.tokens.keep fun token => token.userId ≠ u.id }
  | create {n : NewUser} {hash : String} {token : NewToken} {event : NewEvent}
      (unnamed : t.userByName? n.username = .none) (free : t.emailTaken n.profile.email .none = false) :
      Change now t (.create n hash token event) true
        (((({ t with users := t.users.push (User.fresh n token.issuedAt) } : Tables).setHash t.users.next
          hash).pushToken t.users.next token).pushEvent t.users.next event token.issuedAt)
  | rotate {userId : Int} {token : NewToken} {event : NewEvent} (known : t.users.has userId = true) :
      Change now t (.rotate userId token event) true
        ((({ t with tokens := t.tokens.map (VerificationToken.supersede userId token.issuedAt) } :
          Tables).pushToken userId token).pushEvent userId event token.issuedAt)
  | verifyWithToken {tokenId userId : Int} {at_ : Instant} {u : User} {token : VerificationToken}
      (stored : t.users.get? userId = some u) (found : t.tokens.get? tokenId = some token)
      (live : token.isConsumed = false) :
      Change now t (.verifyWithToken tokenId userId at_) true { t with
        tokens := t.tokens.adjust tokenId (VerificationToken.spend at_)
        users := t.users.adjust userId (User.markVerified at_) }
  | updateStatus {id : Int} {status : OutboxStatus} {event : OutboxEvent}
      (found : t.outbox.get? id = some event) (can : event.status.canBecome status = true) :
      Change now t (.updateStatus id status) true
        { t with outbox := t.outbox.adjust id (OutboxEvent.settle status now) }
  /-- The event was settled before. -/
  | settled {id : Int} {status : OutboxStatus} {event : OutboxEvent}
      (found : t.outbox.get? id = some event) (cannot : event.status.canBecome status = false) :
      Change now t (.updateStatus id status) true t

theorem answer_change (now : Instant) (c : StoreCall) (t : Tables) :
    Change now t c (answer now c t).1.isOk (answer now c t).2 := by
  cases c with
  | updateProfile username p =>
    simp only [answer, updateProfile]
    split
    · exact .refused _
    · next u named =>
      split
      · exact .refused _
      · next free =>
        split
        · exact .refused _
        · next v stored => exact .updateProfile named (by simpa using free) stored
  | updatePassword userId hash =>
    simp only [answer, updatePassword]
    split
    · next known => exact .updatePassword known
    · exact .refused _
  | deleteUser username =>
    simp only [answer, deleteUser]
    split
    · exact .refused _
    · next u named => exact .deleteUser named
  | create n hash token event =>
    simp only [answer, create]
    split
    · exact .refused _
    · next free =>
      simp only [Bool.or_eq_true, not_or, Bool.not_eq_true, Option.isSome_eq_false_iff,
        Option.isNone_iff_eq_none] at free
      exact .create free.1 free.2
  | rotate userId token event =>
    simp only [answer, rotate]
    split
    · next known => exact .rotate known
    · exact .refused _
  | verifyWithToken tokenId userId at_ =>
    simp only [answer, verifyWithToken]
    split
    · exact .refused _
    · next u stored =>
      split
      · exact .refused _
      · next token found =>
        split
        · exact .refused _
        · next live => exact .verifyWithToken stored found (by simpa using live)
  | updateStatus id status =>
    simp only [answer, updateStatus]
    split
    · exact .refused _
    · next event found =>
      split
      · next can => exact .updateStatus found can
      · next cannot => exact .settled found (by simpa using cannot)
  | findToken token =>
    simp only [answer, findToken]
    split <;> exact .read rfl
  | _ => exact .read rfl

variable {now : Instant} {c : StoreCall} {t : Tables}

theorem Change.eq_of_reads {ok : Bool} {t' : Tables} (h : Change now t c ok t') (reads : c.writes = false) : t' = t := by
  cases h with
  | refused | read | settled => rfl
  | _ => cases reads

theorem answer_findToken (now : Instant) (text : String) (t : Tables) : answer now (.findToken text) t =
    (.ok ((t.tokens.find? fun row => row.token = text).bind fun found =>
      (t.users.get? found.userId).map fun u => (found, u)), t) := by
  simp only [answer, findToken]
  split
  · next absent => rw [absent]; rfl
  · next found stored => rw [stored]; rfl

theorem answer_refused {e : ServiceError} (h : (answer now c t).1 = .error e) : (answer now c t).2 = t := by
  have step := answer_change now c t
  rw [h] at step
  generalize (answer now c t).2 = t' at step
  cases step with
  | refused => rfl

theorem answer_accepted {a : c.Answer} (h : (answer now c t).1 = .ok a) : Change now t c true (answer now c t).2 := by
  have step := answer_change now c t
  rwa [h] at step

/-- The tables after calls, each answered at its instant. -/
def after (calls : List (Instant × StoreCall)) (t : Tables) : Tables :=
  calls.foldl (fun t (now, c) => (answer now c t).2) t

theorem after_append (calls more : List (Instant × StoreCall)) (t : Tables) :
    after (calls ++ more) t = after more (after calls t) := List.foldl_append

/-- What every change keeps holds after all calls. -/
theorem after_induction {P : Tables → Prop} (step : ∀ {now t c ok t'}, Change now t c ok t' → P t → P t')
    (calls : List (Instant × StoreCall)) {t : Tables} (start : P t) : P (after calls t) := by
  induction calls generalizing t with
  | nil => exact start
  | cons call calls ih => exact ih (step (answer_change call.1 call.2 t) start)

end Tables
end Accounts
