import Accounts.Proofs.Http.Access
import Accounts.Proofs.Run.History
import Accounts.Proofs.Text.Percent
/-! Paths to accounts. Main statement: an owner's request reaches the account under every spelling of its name but
one, which is that of a fixed path. -/
namespace Accounts.Http
open Time

namespace Request

/-- The path of an account whose name is spelled like this. -/
def accountPath (escaped : Bytes) : Bytes := Bytes.ofText "/users/" ++ escaped

variable {r : Request} {escaped : Bytes} {bytes : Bytes}

theorem segments_account (at_ : r.path = accountPath escaped) (spells : Percent.Spells escaped bytes) :
    r.segments = [Bytes.ofText "users", escaped] := by
  have slash : '/'.toUInt8 ∉ escaped := spells.notMem (by decide) (by decide)
  have users : '/'.toUInt8 ∉ Bytes.ofText "users" := by decide
  have whole : accountPath escaped = '/'.toUInt8 :: (Bytes.ofText "users" ++ '/'.toUInt8 :: escaped) := rfl
  rw [segments, at_, whole]
  simp only [if_true]
  rw [Bytes.splitAt_append users, Bytes.splitAt_of_notMem slash]

theorem segments_password (at_ : r.path = accountPath escaped ++ Bytes.ofText "/password")
    (spells : Percent.Spells escaped bytes) :
    r.segments = [Bytes.ofText "users", escaped, Bytes.ofText "password"] := by
  have slash : '/'.toUInt8 ∉ escaped := spells.notMem (by decide) (by decide)
  have users : '/'.toUInt8 ∉ Bytes.ofText "users" := by decide
  have password : '/'.toUInt8 ∉ Bytes.ofText "password" := by decide
  have whole : accountPath escaped ++ Bytes.ofText "/password" =
      '/'.toUInt8 :: (Bytes.ofText "users" ++ '/'.toUInt8 :: (escaped ++ '/'.toUInt8 :: Bytes.ofText "password")) := by
    simp [accountPath]
    rfl
  rw [segments, at_, whole]
  simp only [if_true]
  rw [Bytes.splitAt_append users, Bytes.splitAt_append slash, Bytes.splitAt_of_notMem password]

end Request

/-! ### Resources -/

/-- The name that is a fixed path, too. -/
def taken : Bytes := Bytes.ofText "verify"

theorem fixed_users : ∀ entry ∈ fixed, entry.1.length = 2 → entry.1.head? = some "users" → entry.1 = ["users", "verify"] := by
  decide

theorem fixed_three : ∀ entry ∈ fixed, entry.1.length = 3 → entry.1.getLast? = some "resend" := by decide

theorem fixed_find?_eq_none {segments : List Bytes} (apart : ∀ entry ∈ fixed, entry.1.map Bytes.ofText ≠ segments) :
    (fixed.find? fun (path, _) => path.map Bytes.ofText == segments) = none := by
  rw [List.find?_eq_none]
  intro entry mem same
  exact apart entry mem (beq_iff_eq.1 same)

theorem resource?_account {escaped : Bytes} (some_ : escaped ≠ []) (free : escaped ≠ taken) :
    resource? [Bytes.ofText "users", escaped] = some (account escaped) := by
  have apart : ∀ entry ∈ fixed, entry.1.map Bytes.ofText ≠ [Bytes.ofText "users", escaped] := by
    intro entry mem same
    obtain ⟨first, rest, path⟩ := List.exists_cons_of_ne_nil (l := entry.1) fun empty => by simp [empty] at same
    have users : first = "users" := Bytes.ofText_inj (by simpa [path] using congrArg List.head? same)
    have size : entry.1.length = 2 := by simpa using congrArg List.length same
    have verify := fixed_users entry mem size (by rw [path, users]; rfl)
    rw [verify] at same
    exact free (List.cons.inj (List.cons.inj same).2).1.symm
  obtain ⟨b, name, rfl⟩ := List.exists_cons_of_ne_nil some_
  rw [resource?, fixed_find?_eq_none apart]
  exact if_pos rfl

theorem resource?_password (escaped : Bytes) : resource? [Bytes.ofText "users", escaped, Bytes.ofText "password"] =
    some [(.put, .changePassword escaped)] := by
  have apart : ∀ entry ∈ fixed,
      entry.1.map Bytes.ofText ≠ [Bytes.ofText "users", escaped, Bytes.ofText "password"] := by
    intro entry mem same
    have last := congrArg List.getLast? same
    rw [List.getLast?_map, fixed_three entry mem (by simpa using congrArg List.length same)] at last
    have last : some (Bytes.ofText "resend") = some (Bytes.ofText "password") := last
    exact absurd last (by decide)
  rw [resource?, fixed_find?_eq_none apart]
  exact if_pos (by decide)

theorem resource?_taken : resource? [Bytes.ofText "users", taken] = some [(.post, .verifyBody), (.get, .verifyLink)] := by
  decide

/-! ### What an owner asks for -/

/-- The requests about the account of this name, its path spelled like this, and what each asks for. -/
inductive Asks (v : Visit) (escaped : Bytes) (username : String) : UseCase → Prop
  | read (method : v.request.method = "GET") (path : v.request.path = Request.accountPath escaped) :
      Asks v escaped username (.getUser username)
  | update (method : v.request.method = "PATCH") (path : v.request.path = Request.accountPath escaped)
      (typed : Handler.hasJson v.request = true) (fits : v.request.body.length ≤ Handler.maxBody) {profile : Profile}
      (body : Body.profile v.request.body = .ok profile) : Asks v escaped username (.updateProfile username profile)
  | delete (method : v.request.method = "DELETE") (path : v.request.path = Request.accountPath escaped) :
      Asks v escaped username (.deleteAccount username)
  | password (method : v.request.method = "PUT")
      (path : v.request.path = Request.accountPath escaped ++ Bytes.ofText "/password")
      (typed : Handler.hasJson v.request = true) (fits : v.request.body.length ≤ Handler.maxBody) {current new : String}
      (body : Body.passwords v.request.body = .ok (current, new)) :
      Asks v escaped username (.changePassword v.salt username current new)

section
variable {service : Service} {issuer : Issuer} {v : Visit} {escaped : Bytes} {username : String} {u : UseCase}

theorem username_of_spells (spells : Percent.Spells escaped (Bytes.ofText username)) :
    Handler.username escaped = .ok username := by
  rw [Handler.username, spells.decode, Bytes.text?_ofText]

theorem body_eq_ok {α : Type} {r : Request} {read : Bytes → Except Json.Fault α} {a : α}
    (typed : Handler.hasJson r = true) (fits : r.body.length ≤ Handler.maxBody) (body : read r.body = .ok a) :
    Handler.body r read = .ok a := by
  rw [Handler.body, typed, body, if_neg (Nat.not_lt.2 fits)]
  rfl

theorem body_eq_error {α : Type} {r : Request} {read : Bytes → Except Json.Fault α} (typed : Handler.hasJson r = true)
    (large : Handler.maxBody < r.body.length) : Handler.body r read = .error (.rejected 413) := by
  rw [Handler.body, typed, if_pos large]
  rfl

theorem route_of_resource {r : Request} {segments : List Bytes} (at_ : r.segments = segments) {resource : Resource}
    (found : resource? segments = some resource) {m : Method} (method : Method.ofText? r.method = some m) {e : Endpoint}
    (listed : resource.lookup m = some e) : route r = .endpoint e := by
  simp [route, at_, found, method, listed]

theorem wants_of_known {e : Endpoint} (at_ : route v.request = .endpoint e) {who : Identity}
    (known : v.caller issuer = .ok who) : v.wants service issuer = e.demand service v (.ok who) := by
  rw [Visit.wants_of_route service issuer at_, known]
  rfl

/-- Under every free spelling the four requests are dispatched as they should be. -/
theorem wants_of_asks {who : Identity} (known : v.caller issuer = .ok who) (named : who.username ≠ "")
    (spells : Percent.Spells escaped (Bytes.ofText who.username)) (asks : Asks v escaped who.username u)
    (free : escaped ≠ taken ∨ v.request.method = "PUT") : v.wants service issuer = .ok u := by
  have name := username_of_spells spells
  have some_ : escaped ≠ [] := spells.ne_nil fun empty => named (Bytes.ofText_inj empty)
  have routed (path : v.request.path = Request.accountPath escaped) (free : escaped ≠ taken) {m : Method} {e : Endpoint}
      (method : Method.ofText? v.request.method = some m) (listed : (account escaped).lookup m = some e) :
      route v.request = .endpoint e :=
    route_of_resource (Request.segments_account path spells) (resource?_account some_ free) method listed
  cases asks with
  | read method path =>
    have at_ := routed path (free.resolve_right (by rw [method]; decide)) (congrArg Method.ofText? method) rfl
    rw [wants_of_known at_ known, Endpoint.demand, name]
    rfl
  | update method path typed fits body =>
    have at_ := routed path (free.resolve_right (by rw [method]; decide)) (congrArg Method.ofText? method) rfl
    rw [wants_of_known at_ known, Endpoint.demand, name, body_eq_ok typed fits body]
    exact owner_bind_eq_ok.2 ⟨rfl, rfl⟩
  | delete method path =>
    have at_ := routed path (free.resolve_right (by rw [method]; decide)) (congrArg Method.ofText? method) rfl
    rw [wants_of_known at_ known, Endpoint.demand, name]
    exact owner_bind_eq_ok.2 ⟨rfl, rfl⟩
  | password method path typed fits body =>
    have at_ : route v.request = .endpoint (.changePassword escaped) :=
      route_of_resource (Request.segments_password path spells) (resource?_password escaped) (by rw [method]; rfl) rfl
    rw [wants_of_known at_ known, Endpoint.demand, name, body_eq_ok typed fits body]
    exact owner_bind_eq_ok.2 ⟨rfl, rfl⟩

theorem route_of_none {r : Request} {segments : List Bytes} (at_ : r.segments = segments) {resource : Resource}
    (found : resource? segments = some resource) {m : Method} (method : Method.ofText? r.method = some m)
    (unlisted : resource.lookup m = none) : route r = .notAllowed (allowText resource) := by
  simp [route, at_, found, method, unlisted]

/-- Under the spelling that is taken, reading the account is taken for a verification link, and changing or deleting
it is not allowed. -/
theorem wants_of_taken (spells : Percent.Spells taken (Bytes.ofText username)) (asks : Asks v taken username u)
    (method : v.request.method ≠ "PUT") : v.wants service issuer =
      if v.request.method = "GET" then Handler.queryToken v.request >>= fun token => .ok (.verify token)
      else .error { Response.empty 405 with allow := some "POST,GET,HEAD" } := by
  cases asks with
  | read get path =>
    have at_ : route v.request = .endpoint .verifyLink :=
      route_of_resource (Request.segments_account path spells) resource?_taken (by rw [get]; rfl) rfl
    rw [if_pos get, Visit.wants_of_route service issuer at_]
    rfl
  | update patch path =>
    have at_ : route v.request = .notAllowed "POST,GET,HEAD" :=
      route_of_none (Request.segments_account path spells) resource?_taken (by rw [patch]; rfl) rfl
    rw [if_neg (by rw [patch]; decide), Visit.wants, Visit.demand, at_]
  | delete delete path =>
    have at_ : route v.request = .notAllowed "POST,GET,HEAD" :=
      route_of_none (Request.segments_account path spells) resource?_taken (by rw [delete]; rfl) rfl
    rw [if_neg (by rw [delete]; decide), Visit.wants, Visit.demand, at_]
  | password put => exact absurd put method

end

/-! ### What an owner gets -/

/-- What has to hold of the store and of the request's body, apart from its form. -/
def Allowed (t : Tables) (user : User) : UseCase → Prop
  | .updateProfile _ p => p.email ≠ "" ∧ p.name ≠ "" ∧ t.emailTaken p.email (some user.id) = false
  | .changePassword salt _ current new =>
    new ≠ "" ∧ (∃ old, t.hashes.lookup user.id = some old ∧ Password.verify current old = .ok true) ∧
      ∃ hash, Password.hash salt new = .ok hash
  | _ => True

/-- What the four use cases answer and bring about. -/
inductive Grants (now : Instant) (user : User) (t t' : Tables) : (u : UseCase) → u.Answer → Prop
  | read (same : t' = t) : Grants now user t t' (.getUser user.username) user
  | update {profile : Profile} (set : t'.users.get? user.id = some (user.withProfile profile now)) :
      Grants now user t t' (.updateProfile user.username profile) (user.withProfile profile now)
  | delete (gone : t'.users.get? user.id = none) : Grants now user t t' (.deleteAccount user.username) ()
  | password {salt : Bytes} {current new hash : String} (hashed : Password.hash salt new = .ok hash)
      (set : t'.hashes.lookup user.id = some hash) :
      Grants now user t t' (.changePassword salt user.username current new) ()

section
variable {issuer : Issuer} {now : Instant} {mail : MailAction} {t : Tables} {denied : Issuer.DenyList} {user : User}

theorem run_store (c : StoreCall) : Program.run (World.answer issuer now mail) (Action.store c).run ⟨.memory t, denied⟩ =
    ((Tables.answer now c t).1, ⟨.memory (Tables.answer now c t).2, denied⟩) := rfl

variable (issuer now mail denied) in
theorem perform_granted (h : t.Consistent) (found : t.userByName? user.username = some user) (named : user.username ≠ "")
    {v : Visit} {escaped : Bytes} {u : UseCase} (asks : Asks v escaped user.username u) (allowed : Allowed t user u) :
    ∃ a t', u.perform issuer now mail ⟨.memory t, denied⟩ = (.ok a, ⟨.memory t', denied⟩) ∧ Grants now user t t' u a := by
  obtain ⟨stored, -⟩ := Tables.userByName?_eq_some found
  have there := h.get?_of_mem stored
  cases asks with
  | read => exact ⟨user, t, UseCase.perform_getUser found, .read rfl⟩
  | @update method path typed fits profile body =>
    obtain ⟨addressed, called, free⟩ := allowed
    refine ⟨user.withProfile profile now, { t with users := t.users.adjust user.id (User.withProfile profile now) }, ?_,
      .update ?_⟩
    · rw [UseCase.perform_updateProfile named addressed called]
      simp [Tables.answer, Tables.updateProfile, found, free, there]
    · rw [Table.get?_adjust_self, there]
      rfl
  | delete =>
    refine ⟨(), (Tables.answer now (.deleteUser user.username) t).2, ?_, .delete ?_⟩
    · rw [UseCase.perform_deleteAccount named]
      simp [Tables.answer, Tables.deleteUser, found]
    · simp only [Tables.answer, Tables.deleteUser, found]
      exact Table.get?_erase_self t.users user.id
  | @password method path typed fits current new body =>
    obtain ⟨guarded, ⟨old, known, right⟩, hash, hashed⟩ := allowed
    refine ⟨(), t.setHash user.id hash, ?_, .password hashed ?_⟩
    · refine (Program.run_nonempty_given named _).trans ?_
      refine (Program.run_nonempty_given guarded _).trans ?_
      refine (Program.run_read_ok (.getUser user.username) rfl _).trans ?_
      refine (Program.run_require_some found _).trans ?_
      refine (Program.run_read_ok (.getCredentials user.id) rfl _).trans ?_
      refine (Program.run_require_some (congrArg (Option.map _) known) _).trans ?_
      refine (Program.run_lift_ok right _).trans ?_
      refine (Program.run_guard_free (by decide) _).trans ?_
      refine (Program.run_lift_ok hashed _).trans ?_
      rw [run_store]
      simp [Tables.answer, Tables.updatePassword, known]
    · exact t.lookup_setHash_self user.id hash

end

/-- A caller's four requests about the own account are dispatched as they should be, with just that name, unless the
path is spelled like that of the fixed resource and the request is not for a new password. Then each has its effect. -/
theorem account_reached_iff (service : Service) (issuer : Issuer) (mail : MailAction) {v : Visit} {who : Identity}
    (known : v.caller issuer = .ok who) (named : who.username ≠ "") {escaped : Bytes}
    (spells : Percent.Spells escaped (Bytes.ofText who.username)) {u : UseCase} (asks : Asks v escaped who.username u) :
    (v.wants service issuer = .ok u ↔ escaped ≠ taken ∨ v.request.method = "PUT") ∧
    (escaped ≠ taken ∨ v.request.method = "PUT" →
      ∀ (calls : List (Instant × StoreCall)) (denied : Issuer.DenyList) (user : User),
        (Tables.after calls .empty).userByName? who.username = some user → Allowed (Tables.after calls .empty) user u →
        ∃ a t', v.serve service issuer mail ⟨.memory (Tables.after calls .empty), denied⟩ =
            (finish v.request (response u a), ⟨.memory t', denied⟩) ∧
          Grants v.now user (Tables.after calls .empty) t' u a) := by
  have reached : escaped ≠ taken ∨ v.request.method = "PUT" → v.wants service issuer = .ok u :=
    wants_of_asks known named spells asks
  refine ⟨⟨fun wants => ?_, reached⟩, fun free calls denied user found allowed => ?_⟩
  · by_contra shadowed
    obtain ⟨same, method⟩ := not_or.1 shadowed
    obtain rfl : escaped = taken := Classical.not_not.1 same
    rw [wants_of_taken spells asks method] at wants
    split at wants
    · obtain ⟨token, -, same⟩ := bind_eq_ok wants
      obtain rfl := Except.ok.inj same
      cases asks
    · cases wants
  · have same := (Tables.userByName?_eq_some found).2
    obtain ⟨a, t', performed, grants⟩ := perform_granted issuer v.now mail denied (Tables.consistent_after calls)
      (same.symm ▸ found) (same.symm ▸ named) (same.symm ▸ asks) allowed
    refine ⟨a, t', ?_, grants⟩
    rw [Visit.serve_of_wants mail (reached free), performed]
    rfl

/-! ### A name that is hard to spell, and the one that is taken -/

namespace Sample
open Accounts.Sample

def user (name : String) : User := User.fresh ⟨name, registration.profile⟩ 1000000000 1

/-- The first user sends a request without a body. -/
def asking (method name target : String) : Visit where
  now := 1000000000
  token := tokenA
  salt := []
  jti := "2"
  request := {
    method
    target
    headers := [("authorization", "Bearer " ++ (issuer.issue 1000000000 (user name) "1").access)]
    body := [] }

theorem bearer_asking (method name target : String) : (asking method name target).request.bearer? =
    some (issuer.issue 1000000000 (user name) "1").access := by
  have header : (asking method name target).request.header? "authorization" =
      some ("Bearer " ++ (issuer.issue 1000000000 (user name) "1").access) := by
    have lower : "authorization".map Char.toLower = "authorization" := by decide +kernel
    simp [Request.header?, asking, lower]
  exact Request.bearer?_of_header header (Session.Token.sign_ne_empty _ _) (Session.Token.space_notMem_sign _ _)

theorem caller_asking (method name target : String) : (asking method name target).caller issuer = .ok ⟨1, name⟩ := by
  rw [Visit.caller, Visit.identify, bearer_asking]
  have id : Json.IsInt64 1 := ⟨by decide, by decide⟩
  have issued : Json.IsInt64 (wholeSeconds 1000000000) := ⟨by decide, by decide⟩
  have ends : Json.IsInt64 (wholeSeconds (1000000000 + issuer.settings.accessTtl)) := ⟨by decide, by decide⟩
  have live : Issuer.Live 1000000000 (wholeSeconds (1000000000 + issuer.settings.accessTtl)) :=
    ⟨by decide, by decide, by decide⟩
  exact Issuer.checkAccess_access.2 ⟨⟨id, issued, ends⟩, live, rfl⟩

/-- The user is stored. -/
def calls (name : String) : List (Instant × StoreCall) :=
  let (row, event) := Action.issueToken "ann@x" tokenA.text .register 1000000000 1000000
  [(1000000000, .create ⟨name, registration.profile⟩ "" row event)]

theorem found_calls (name : String) : (Tables.after (calls name) .empty).userByName? name = some (user name) := by
  have values : (Tables.after (calls name) .empty).users.values = [user name] := rfl
  rw [Tables.userByName?, Table.find?, values]
  simp [user, User.fresh]

def service : Service := ⟨1000000, 60000000⟩

def noMail : MailAction := fun _ store => (true, store)

/-- A slash, a percent sign and a question mark are in it, and the word that is taken. -/
def hardName : String := "verify/100%?"

def hard : Visit := asking "GET" hardName "/users/verify%2F100%25%3F"

theorem account_reached_iff_hard :
    hard.caller issuer = .ok ⟨1, hardName⟩ ∧ hardName ≠ "" ∧
    Percent.Spells (Percent.segment (Bytes.ofText hardName)) (Bytes.ofText hardName) ∧
    Asks hard (Percent.segment (Bytes.ofText hardName)) hardName (.getUser hardName) ∧
    ∃ (a : User) (t' : Tables), hard.serve service issuer noMail ⟨.memory (Tables.after (calls hardName) .empty), []⟩ =
        (finish hard.request (response (.getUser hardName) a), ⟨.memory t', []⟩) ∧
      Grants 1000000000 (user hardName) (Tables.after (calls hardName) .empty) t' (.getUser hardName) a := by
  have known : hard.caller issuer = .ok ⟨1, hardName⟩ := caller_asking _ _ _
  have named : hardName ≠ "" := by decide
  have spells := Percent.spells_segment (Bytes.ofText hardName)
  have asks : Asks hard (Percent.segment (Bytes.ofText hardName)) hardName (.getUser hardName) :=
    .read rfl (by decide +kernel)
  have free : Percent.segment (Bytes.ofText hardName) ≠ taken := by decide +kernel
  have reached := (account_reached_iff service issuer noMail known named spells asks).2 (.inl free)
  exact ⟨known, named, spells, asks, reached _ _ _ (found_calls hardName) trivial⟩

def reading : Visit := asking "GET" "verify" "/users/verify"

/-- The user of the name that is taken is stored and has a good access token, but the request for the own account is
refused as one for a verification without a token. -/
theorem taken_name_unreachable :
    (Tables.after (calls "verify") .empty).userByName? "verify" = some (user "verify") ∧
    reading.caller issuer = .ok ⟨1, "verify"⟩ ∧
    Percent.segment (Bytes.ofText "verify") = taken ∧
    Asks reading taken "verify" (.getUser "verify") ∧
    reading.serve service issuer noMail ⟨.memory (Tables.after (calls "verify") .empty), []⟩ =
      (finish reading.request (Handler.refusal (.invalidInput "token is required")),
        ⟨.memory (Tables.after (calls "verify") .empty), []⟩) := by
  have spells : Percent.Spells taken (Bytes.ofText "verify") := Percent.spells_segment (Bytes.ofText "verify")
  have asks : Asks reading taken "verify" (.getUser "verify") :=
    .read rfl (by decide +kernel)
  have wants : reading.wants service issuer = .ok (.verify "") := by
    have none : Percent.pairs reading.request.query = [] := by decide +kernel
    rw [wants_of_taken spells asks (by decide)]
    refine (if_pos rfl).trans ?_
    rw [Handler.queryToken, none]
    rfl
  refine ⟨found_calls "verify", caller_asking _ _ _, by decide +kernel, asks, ?_⟩
  rw [Visit.serve_of_wants noMail wants]
  rfl

end Sample

end Accounts.Http
