import Accounts.Proofs.Http.Paths
import Accounts.Proofs.Password.Hash
/-! Sessions that outlast their accounts. A token tells the id and the name of its user, but it opens whatever account
has the name. Main statement: the bearer of a token changes the account of its user or, when that is gone, a later one
of the same name. -/
namespace Accounts
open Time

namespace UseCase
variable {issuer : Issuer} {now : Instant} {mail : MailAction}

/-- A login or a refresh issues these tokens to the user. -/
inductive Opens (issuer : Issuer) (now : Instant) (mail : MailAction) (w : World) : UseCase → User → IssuedTokens → Prop
  | login {jti username password : String} {user : User} {tokens : IssuedTokens}
      (answered : (perform issuer now mail (.login jti username password) w).1 = .ok (user, tokens)) :
      Opens issuer now mail w (.login jti username password) user tokens
  | refresh {jti token : String} {who : Identity} {user : User} {tokens : IssuedTokens}
      (held : issuer.checkRefresh now w.denied token = .ok who) (found : w.tables.userByName? who.username = some user)
      (answered : (perform issuer now mail (.refresh jti token) w).1 = .ok tokens) :
      Opens issuer now mail w (.refresh jti token) user tokens

variable {t : Tables} {denied : Issuer.DenyList} {user : User} {tokens : IssuedTokens}

theorem issued_of_login {jti username password : String}
    (answered : (perform issuer now mail (.login jti username password) ⟨.memory t, denied⟩).1 = .ok (user, tokens)) :
    user ∈ t.users.values ∧ tokens = issuer.issue now user jti := by
  rw [perform_eq_pursue (n := 0)] at answered
  obtain ⟨named, -, k, made⟩ := granted_of_login answered
  exact ⟨(Tables.userByName?_eq_some named).1, made⟩

theorem issued_of_refresh {jti token : String} {who : Identity} (held : issuer.checkRefresh now denied token = .ok who)
    (found : t.userByName? who.username = some user)
    (answered : (perform issuer now mail (.refresh jti token) ⟨.memory t, denied⟩).1 = .ok tokens) :
    tokens = issuer.issue now user jti := by
  rw [perform_eq_pursue (n := 0)] at answered
  obtain ⟨whose, named, checked, k, made⟩ := granted_of_refresh answered
  obtain rfl := Except.ok.inj (held.symm.trans checked)
  obtain rfl : user = whose := Option.some.inj (found.symm.trans named)
  exact made

/-- The user is stored, and the tokens are made for just that user. -/
theorem Opens.issued {u : UseCase} (h : u.Opens issuer now mail ⟨.memory t, denied⟩ user tokens) :
    user ∈ t.users.values ∧ ∃ jti, tokens = issuer.issue now user jti := by
  cases h with
  | login answered =>
    obtain ⟨stored, made⟩ := issued_of_login answered
    exact ⟨stored, _, made⟩
  | refresh held found answered =>
    exact ⟨(Tables.userByName?_eq_some found).1, _, issued_of_refresh held found answered⟩

theorem Commits.spares {t t' : Tables} (h : t.Consistent) {u : UseCase} {c : StoreCall} (commits : u.Commits now t c)
    (change : Tables.Change now t c true t') {name : String} (subject : u.subject? = some name) {user : User}
    (stored : user ∈ t.users.values) (other : user.username ≠ name) : t.Spares t' user := by
  refine change.spares h stored (fun about => ?_) fun verifies => ?_
  · exact other (Option.some.inj ((commits.subject h stored about).symm.trans subject))
  · cases commits with
    | verify => cases subject
    | _ => exact verifies.elim

end UseCase

namespace Http

section
variable (service : Service) (issuer : Issuer) (mail : MailAction)

/-- The visit issues these tokens to the user. -/
def Visit.Opens (v : Visit) (w : World) (user : User) (tokens : IssuedTokens) : Prop :=
  ∃ u, v.wants service issuer = .ok u ∧ u.Opens issuer v.now mail w user tokens

/-- What the service is after visits, one after the other. -/
def served (visits : List Visit) (w : World) : World :=
  visits.foldl (fun w v => (v.serve service issuer mail w).2) w

theorem served_append (visits more : List Visit) (w : World) :
    served service issuer mail (visits ++ more) w = served service issuer mail more (served service issuer mail visits w) :=
  List.foldl_append

theorem served_cons (v : Visit) (visits : List Visit) (w : World) : served service issuer mail (v :: visits) w =
    served service issuer mail visits (v.serve service issuer mail w).2 := rfl

/-- A store in memory stays in memory, and visits keep what single calls keep. -/
theorem served_memory (visits : List Visit) {t : Tables} (h : t.Consistent) (denied : Issuer.DenyList) :
    ∃ t' denied', served service issuer mail visits ⟨.memory t, denied⟩ = ⟨.memory t', denied'⟩ ∧
      t'.Consistent ∧ Tables.Continues t t' := by
  induction visits generalizing t denied with
  | nil => exact ⟨t, denied, rfl, h, .refl t⟩
  | cons v visits ih =>
    obtain ⟨response, mid, denied', serve, serves⟩ := v.serve_serves service issuer mail t denied
    obtain ⟨c, change⟩ := serves.change
    obtain ⟨t', denied'', rest, consistent, continues⟩ := ih (h.change change) denied'
    refine ⟨t', denied'', ?_, consistent, change.continues.trans continues⟩
    rw [served_cons, serve]
    exact rest

theorem served_start (visits : List Visit) : ∃ denied, served service issuer mail visits .start =
      ⟨.memory (served service issuer mail visits .start).tables, denied⟩ ∧
    (served service issuer mail visits .start).tables.Consistent := by
  obtain ⟨t, denied, world, consistent, -⟩ := served_memory service issuer mail visits Tables.consistent_empty []
  change served service issuer mail visits .start = _ at world
  rw [world]
  exact ⟨denied, rfl, consistent⟩

theorem continues_served (visits more : List Visit) : Tables.Continues
    (served service issuer mail visits .start).tables (served service issuer mail (visits ++ more) .start).tables := by
  obtain ⟨denied, world, consistent⟩ := served_start service issuer mail visits
  obtain ⟨t, denied', world', -, continues⟩ := served_memory service issuer mail more consistent denied
  rw [served_append, world, world']
  exact continues

theorem serves_served (visits : List Visit) (v : Visit) : v.Serves service issuer
    (served service issuer mail visits .start).tables (served service issuer mail (visits ++ [v]) .start).tables := by
  obtain ⟨denied, world, -⟩ := served_start service issuer mail visits
  obtain ⟨response, t, denied', serve, serves⟩ :=
    v.serve_serves service issuer mail (served service issuer mail visits .start).tables denied
  rw [← world] at serve
  have next : served service issuer mail (visits ++ [v]) .start = ⟨.memory t, denied'⟩ := by
    rw [served_append]
    exact congrArg Prod.snd serve
  rw [next]
  exact serves

end

/-! ### Names and ids -/

/-- An account that has the name of an earlier user is that user's, or that one is gone and this one is new. -/
theorem id_of_username_eq {t t' : Tables} (before : t.Consistent) (after : t'.Consistent)
    (continues : Tables.Continues t t') {user other : User} (stored : user ∈ t.users.values)
    (there : other ∈ t'.users.values) (named : other.username = user.username) :
    other.id = user.id ∨ user.id ∉ t'.users.keys ∧ user.id < other.id := by
  -- Rows keep their names, so an account that was there before is the user's; others have ids of their own.
  rcases continues.users.mem_values before.users after.users there with ⟨old, first, same, origin⟩ | ⟨late, -⟩
  · left
    have name : old.username = other.username := congrArg Prod.fst origin
    rw [← same, before.eq_of_username_eq first stored (name.trans named)]
  · by_cases kept : user.id ∈ t'.users.keys
    · left
      obtain ⟨row, mem, same⟩ := after.users.mem_keys_iff.1 kept
      have origin := continues.users.origin_eq before.users after.users stored mem same.symm
      have name : user.username = row.username := congrArg Prod.fst origin
      rw [after.eq_of_username_eq there mem (named.trans name)]
      exact same
    · exact .inr ⟨kept, Int.lt_of_le_of_lt (before.users.le_last stored) late⟩

/-- Whom an issued access token names. -/
theorem Visit.caller_of_issued {issuer : Issuer} {v : Visit} {issued : Instant} {user : User} {jti : String}
    (bears : v.request.bearer? = some (issuer.issue issued user jti).access) {who : Identity}
    (known : v.caller issuer = .ok who) : who = ⟨user.id, user.username⟩ := by
  rw [caller, identify, bears] at known
  exact (Issuer.checkAccess_access.1 known).2.2

/-- Where owners only are served, the bearer of an access token that was issued to a user touches no account but the
user's own or, if that is gone by then, one that was registered later under the same name. -/
theorem session_touches (service : Service) (issuer : Issuer) (mail : MailAction) (before between : List Visit)
    {login later : Visit} {user : User} {tokens : IssuedTokens}
    (opens : login.Opens service issuer mail (served service issuer mail before .start) user tokens)
    (bears : later.request.bearer? = some tokens.access) {e : Endpoint} (routed : route later.request = .endpoint e)
    (owners : e.forOwners = true) :
    let t := (served service issuer mail (before ++ login :: between) .start).tables
    let t' := (served service issuer mail (before ++ login :: between ++ [later]) .start).tables
    ∀ other ∈ t.users.values, ¬ t.Spares t' other → other.username = user.username ∧
      (other.id = user.id ∨ user.id ∉ t.users.keys ∧ user.id < other.id) := by
  intro t t' other there touched
  obtain ⟨denied, world, consistent⟩ := served_start service issuer mail before
  obtain ⟨-, -, consistent'⟩ := served_start service issuer mail (before ++ login :: between)
  obtain ⟨u, asks, opens⟩ := opens
  rw [world] at opens
  obtain ⟨stored, jti, made⟩ := opens.issued
  rw [made] at bears
  have serves : later.Serves service issuer t t' := serves_served service issuer mail (before ++ login :: between) later
  clear_value t'
  cases serves with
  | nothing => exact absurd (consistent'.spares_refl there) touched
  | commits wants commits change =>
    obtain ⟨who, known, subject⟩ := Visit.subject_of_wants wants routed owners
    obtain rfl := Visit.caller_of_issued bears known
    -- The request is checked for the name only; that no name has two accounts at once brings the id back in.
    have named : other.username = user.username := by
      by_contra apart
      exact touched (commits.spares consistent' change subject there apart)
    have continues := continues_served service issuer mail before (login :: between)
    exact ⟨named, id_of_username_eq consistent consistent' continues stored there named⟩

/-! ### A name that is taken again -/

namespace Sample
open Accounts.Sample Json

def salt : Bytes := List.replicate 16 0

def posted (target : String) (body : List (String × Value)) : Request where
  method := "POST"
  target
  headers := [("content-type", "application/json")]
  body := (Value.object body).render

/-- Somebody registers as ann. -/
def registering (token : DrawnToken) : Visit := ⟨1000000000, token, salt, "0", posted "/users"
  [("username", .string "ann"), ("password", .string "secret"), ("email", .string "ann@x"), ("name", .string "Ann")]⟩

def verifying : Visit := ⟨1000000000, tokenB, salt, "0", posted "/users/verify" [("token", .string tokenA.text)]⟩

def entering : Visit :=
  ⟨1000000000, tokenB, salt, "1", posted "/auth/login" [("username", .string "ann"), ("password", .string "secret")]⟩

/-- The first ann deletes the account of that name. -/
def deleting : Visit := asking "DELETE" "ann" "/users/ann"

theorem body_posted {α : Type} {read : Bytes → Except Fault α} {a : α} {target : String} {body : List (String × Value)}
    (fits : (Value.object body).render.length ≤ Handler.maxBody) (reads : read (Value.object body).render = .ok a) :
    Handler.body (posted target body) read = .ok a := by
  have typed : Handler.hasJson (posted "" []) = true := by decide +kernel
  exact body_eq_ok typed fits reads

theorem wants_registering (token : DrawnToken) :
    (registering token).wants service issuer = .ok (.register service.tokenTtl salt token registration) := by
  have at_ : route (registering tokenA).request = .endpoint .register := by decide +kernel
  have given : Handler.body (registering token).request Body.registration = .ok registration :=
    body_posted (by decide +kernel) (by decide +kernel)
  have at_ : route (registering token).request = .endpoint .register := at_
  rw [Visit.wants_of_route service issuer at_, Endpoint.demand, given]
  rfl

theorem wants_verifying : verifying.wants service issuer = .ok (.verify tokenA.text) := by
  have at_ : route verifying.request = .endpoint .verifyBody := by decide +kernel
  have given : Handler.body verifying.request Body.token = .ok tokenA.text := body_posted (by decide +kernel) (by decide +kernel)
  rw [Visit.wants_of_route service issuer at_, Endpoint.demand, given]
  rfl

theorem wants_entering : entering.wants service issuer = .ok (.login "1" "ann" "secret") := by
  have at_ : route entering.request = .endpoint .login := by decide +kernel
  have given : Handler.body entering.request Body.login = .ok ("ann", "secret") := body_posted (by decide +kernel) (by decide +kernel)
  rw [Visit.wants_of_route service issuer at_, Endpoint.demand, given]
  rfl

theorem wants_deleting : deleting.wants service issuer = .ok (.deleteAccount "ann") := by
  have known : deleting.caller issuer = .ok ⟨1, "ann"⟩ := caller_asking _ _ _
  have asks : Asks deleting (Percent.segment (Bytes.ofText "ann")) "ann" (.deleteAccount "ann") :=
    .delete rfl (by decide +kernel)
  exact wants_of_asks known (by decide) (Percent.spells_segment _) asks (.inl (by decide +kernel))

def create (token : DrawnToken) (hash : String) : StoreCall :=
  let (row, event) := Action.issueToken "ann@x" token.text .register 1000000000 service.tokenTtl
  .create ⟨"ann", registration.profile⟩ hash row event

/-- The tables after each change: ann registers, proves the address, deletes the account, and somebody else registers
as ann. -/
def registered (hash : String) : Tables := (Tables.answer 1000000000 (create tokenA hash) .empty).2

def verified (hash : String) : Tables := (Tables.answer 1000000000 (.verifyWithToken 1 1 1000000000) (registered hash)).2

def deleted (hash : String) : Tables := (Tables.answer 1000000000 (.deleteUser "ann") (verified hash)).2

def registeredAgain (hash : String) : Tables := (Tables.answer 1000000000 (create tokenB hash) (deleted hash)).2

/-- The first ann, verified. -/
def ann : User := (user "ann").markVerified 1000000000

def annTokens : IssuedTokens := issuer.issue 1000000000 ann "1"

/-- An access token says nothing of the verification. -/
theorem access_annTokens : annTokens.access = (issuer.issue 1000000000 (user "ann") "1").access := by
  have claims : issuer.accessClaims 1000000000 ann = issuer.accessClaims 1000000000 (user "ann") := rfl
  rw [annTokens, Issuer.access_issue, Issuer.access_issue, claims]

theorem bearer_deleting : deleting.request.bearer? = some annTokens.access := by
  rw [access_annTokens]
  exact bearer_asking _ _ _

theorem serve_deleting (t : Tables) : (deleting.serve service issuer noMail ⟨.memory t, []⟩).2 =
    ⟨.memory (Tables.answer 1000000000 (.deleteUser "ann") t).2, []⟩ := by
  rw [Visit.serve_of_wants noMail wants_deleting]
  exact congrArg Prod.snd (UseCase.perform_deleteAccount (by decide))

section
variable {t : Tables} {hash : String} (made : Password.hash salt registration.password = .ok hash)
include made

theorem serve_registering (token : DrawnToken) :
    ((registering token).serve service issuer noMail ⟨.memory t, []⟩).2 =
      ⟨.memory (Tables.answer 1000000000 (create token hash) t).2, []⟩ := by
  rw [Visit.serve_of_wants noMail (wants_registering token)]
  exact congrArg Prod.snd (UseCase.perform_register (by decide) (by decide) (by decide) made)

theorem served_verifying : served service issuer noMail [registering tokenA, verifying] .start =
    ⟨.memory (verified hash), []⟩ := by
  have first : served service issuer noMail [registering tokenA] .start = ⟨.memory (registered hash), []⟩ :=
    serve_registering made tokenA
  rw [← List.singleton_append, served_append, first, served_cons, Visit.serve_of_wants noMail wants_verifying]
  rfl

theorem perform_entering : UseCase.perform issuer 1000000000 noMail (.login "1" "ann" "secret")
    ⟨.memory (verified hash), []⟩ = (.ok (ann, annTokens), ⟨.memory (verified hash), []⟩) := by
  have right : Password.verify "secret" hash = .ok true := Password.verify_hash (by decide) (by decide) made
  exact UseCase.perform_login (by decide) (by decide) rfl rfl right rfl

theorem serve_entering : (entering.serve service issuer noMail ⟨.memory (verified hash), []⟩).2 =
    ⟨.memory (verified hash), []⟩ := by
  rw [Visit.serve_of_wants noMail wants_entering]
  exact congrArg Prod.snd (perform_entering made)

theorem served_deleting : served service issuer noMail
    ([registering tokenA, verifying] ++ entering :: [deleting]) .start = ⟨.memory (deleted hash), []⟩ := by
  rw [served_append, served_verifying made, served_cons, serve_entering made, served_cons, serve_deleting]
  rfl

theorem served_again : served service issuer noMail
    ([registering tokenA, verifying] ++ entering :: [deleting, registering tokenB]) .start =
      ⟨.memory (registeredAgain hash), []⟩ := by
  have before := served_deleting made
  have split : [registering tokenA, verifying] ++ entering :: [deleting, registering tokenB] =
      [registering tokenA, verifying] ++ entering :: [deleting] ++ [registering tokenB] := rfl
  rw [split, served_append, before]
  exact serve_registering made tokenB

end

theorem opens_entering :
    entering.Opens service issuer noMail (served service issuer noMail [registering tokenA, verifying] .start) ann
      annTokens := by
  obtain ⟨hash, made⟩ := exists_hash salt
  refine ⟨_, wants_entering, .login ?_⟩
  rw [served_verifying made]
  exact congrArg Prod.fst (perform_entering made)

/-- Somebody else who registers as ann. -/
def otherAnn : User := User.fresh ⟨"ann", registration.profile⟩ 1000000000 2

theorem session_touches_again :
    entering.Opens service issuer noMail (served service issuer noMail [registering tokenA, verifying] .start) ann
      annTokens ∧
    deleting.request.bearer? = some annTokens.access ∧
    route deleting.request = .endpoint (.deleteUser (Bytes.ofText "ann")) ∧
    (Endpoint.deleteUser (Bytes.ofText "ann")).forOwners = true ∧
    let t := (served service issuer noMail
      ([registering tokenA, verifying] ++ entering :: [deleting, registering tokenB]) .start).tables
    let t' := (served service issuer noMail
      ([registering tokenA, verifying] ++ entering :: [deleting, registering tokenB] ++ [deleting]) .start).tables
    ∀ other ∈ t.users.values, ¬ t.Spares t' other → other.username = ann.username ∧
      (other.id = ann.id ∨ ann.id ∉ t.users.keys ∧ ann.id < other.id) := by
  have routed : route deleting.request = .endpoint (.deleteUser (Bytes.ofText "ann")) := by decide +kernel
  exact ⟨opens_entering, bearer_deleting, routed, rfl,
    session_touches service issuer noMail _ _ opens_entering bearer_deleting routed rfl⟩

/-- The token of the first ann, whose account is gone, deletes that of the other one. -/
theorem session_outlives_account :
    entering.Opens service issuer noMail (served service issuer noMail [registering tokenA, verifying] .start) ann
      annTokens ∧
    deleting.request.bearer? = some annTokens.access ∧
    route deleting.request = .endpoint (.deleteUser (Bytes.ofText "ann")) ∧
    otherAnn.id ≠ ann.id ∧
    otherAnn ∈ (served service issuer noMail
      ([registering tokenA, verifying] ++ entering :: [deleting, registering tokenB]) .start).tables.users.values ∧
    (served service issuer noMail ([registering tokenA, verifying] ++
      entering :: [deleting, registering tokenB] ++ [deleting]) .start).tables.users.get? otherAnn.id = none := by
  obtain ⟨hash, made⟩ := exists_hash salt
  have routed : route deleting.request = .endpoint (.deleteUser (Bytes.ofText "ann")) := by decide +kernel
  refine ⟨opens_entering, bearer_deleting, routed, by decide, ?_, ?_⟩
  · rw [served_again made]
    exact List.mem_singleton_self _
  · rw [served_append, served_again made, served_cons, serve_deleting]
    rfl

end Sample

end Http
end Accounts
