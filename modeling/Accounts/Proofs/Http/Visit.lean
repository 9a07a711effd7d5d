import Accounts.Http.Handler
import Accounts.Proofs.Run.UseCase
/-! Requests as use cases. A request is answered at once, or it asks for one use case and is answered by what comes of
that. Main statement: serving a request is just this. -/
namespace Accounts.Http
open Handler Time

/-- A request, what is drawn for it, and the instant at which it is served. -/
structure Visit where
  now : Instant
  token : DrawnToken
  salt : Bytes
  jti : String
  request : Request

theorem Request.bearer?_of_header {r : Request} {token : String}
    (sent : r.header? "authorization" = some ("Bearer " ++ token)) (given : token ≠ "") (tight : ' ' ∉ token.toList) :
    r.bearer? = some token := by
  obtain ⟨c, cs, letters⟩ := List.exists_cons_of_ne_nil (l := token.toList) (by simpa using given)
  have first : c ≠ ' ' := fun same => tight (by rw [letters, same]; exact List.mem_cons_self)
  have chars : ("Bearer " ++ token).toList = 'B' :: 'e' :: 'a' :: 'r' :: 'e' :: 'r' :: ' ' :: c :: cs := by
    rw [String.toList_append, letters]
    rfl
  have whole : String.ofList (c :: cs) = token := by rw [← letters, String.ofList_toList]
  rw [bearer?, sent, Option.bind_some, chars]
  simp [first, whole]

namespace Visit

def draws (v : Visit) : Draws := ⟨v.token.text, v.salt, v.jti⟩

/-- Who calls, if `check` knows the access token that is sent along. -/
def identify (v : Visit) (check : String → Except ServiceError Identity) : Except ServiceError Identity :=
  match v.request.bearer? with
  | none => .error .invalidToken
  | some token => check token

/-- Who calls at that instant. -/
def caller (issuer : Issuer) (v : Visit) : Except ServiceError Identity := v.identify (issuer.checkAccess v.now)

end Visit

/-- The response if the use case succeeds. -/
def response : (u : UseCase) → u.Answer → Response
  | .register .., user => .ofJson 201 user.toJson
  | .resend .., _ => .empty 202
  | .verify _, user => .ofJson 200 user.toJson
  | .getUser _, user => .ofJson 200 user.toJson
  | .listUsers _, page => .ofJson 200 (pageJson page)
  | .updateProfile _ _, user => .ofJson 200 user.toJson
  | .changePassword .., _ => .empty 204
  | .deleteAccount _, _ => .empty 204
  | .login .., (user, tokens) => .ofJson 200 (.object (("user", user.toJson) :: tokenMembers tokens))
  | .refresh _ _, tokens => .ofJson 200 (.object (tokenMembers tokens))
  | .logout _, _ => .empty 204

def reply (u : UseCase) : Except ServiceError u.Answer → Response
  | .ok a => response u a
  | .error e => refusal e

/-- What a request for this endpoint asks for, when `who` calls; or the response that it gets at once. A store in
memory is always ready. -/
def Endpoint.demand (s : Service) (v : Visit) (who : Except Response Identity) : Endpoint → Except Response UseCase
  | .healthz => .error (.empty 200)
  | .readyz => .error (.empty 200)
  | .register => do return .register s.tokenTtl v.salt v.token (← body v.request Body.registration)
  | .listUsers => do
    let _ ← who
    return .listUsers (← queryPage v.request)
  | .resend => do return .resend s.tokenTtl s.cooldown v.token (← body v.request Body.email)
  | .verifyBody => do return .verify (← body v.request Body.token)
  | .verifyLink => do return .verify (← queryToken v.request)
  | .login => do
    let (username, password) ← body v.request Body.login
    return .login v.jti username password
  | .refresh => do return .refresh v.jti (← body v.request Body.refreshToken)
  | .logout => do return .logout (← body v.request Body.refreshToken)
  | .getUser escaped => do
    let _ ← who
    return .getUser (← username escaped)
  | .updateUser escaped => do
    let who ← who
    let username ← username escaped
    let profile ← body v.request Body.profile
    owner who username
    return .updateProfile username profile
  | .changePassword escaped => do
    let who ← who
    let username ← username escaped
    let (current, new) ← body v.request Body.passwords
    owner who username
    return .changePassword v.salt username current new
  | .deleteUser escaped => do
    let who ← who
    let username ← username escaped
    owner who username
    return .deleteAccount username

def Visit.demand (s : Service) (check : String → Except ServiceError Identity) (v : Visit) : Except Response UseCase :=
  match route v.request with
  | .notFound => .error (.empty 404)
  | .notAllowed allow => .error { Response.empty 405 with allow := some allow }
  | .endpoint e => e.demand s v ((v.identify check).mapError refusal)

/-! ### Serving -/

/-- The response, early or not. -/
def settled {σ : Type} : Except Response Response × σ → Response × σ
  | (.ok r, s) => (r, s)
  | (.error r, s) => (r, s)

/-- Carries out what is demanded and answers with what comes of it. -/
def meet (demand : Except Response UseCase) : Handler Response := do
  let u ← demand
  return response u (← act u.action)

theorem meet_bind {α : Type} (x : Except Response α) (f : α → Except Response UseCase) :
    meet (x >>= f) = (liftM x >>= fun a => meet (f a) : Handler Response) := by cases x <;> rfl

section
variable {σ : Type} {answer : (e : Effect) → σ → e.Reply × σ} {s : σ}

theorem run_act {α : Type} (a : Action α) :
    Program.run answer (act a).run s = ((Program.run answer a.run s).1.mapError refusal, (Program.run answer a.run s).2) :=
  Program.run_bind answer a.run _ s

theorem settled_meet (u : UseCase) : settled (Program.run answer (meet (.ok u)).run s) =
    (reply u (Program.run answer u.action.run s).1, (Program.run answer u.action.run s).2) := by
  change settled (Program.run answer (act u.action >>= fun a => pure (response u a)).run s) = _
  rw [Program.run_except_bind, run_act]
  rcases Program.run answer u.action.run s with ⟨_ | _, _⟩ <;> rfl

variable {check : String → Except ServiceError Identity} (knows : ∀ token, answer (.checkAccess token) s = (check token, s))
include knows

theorem run_caller (v : Visit) :
    Program.run answer (caller v.request).run s = ((v.identify check).mapError refusal, s) := by
  rw [caller, run_act, Visit.identify]
  cases v.request.bearer? with
  | none => rfl
  | some token =>
    change ((answer (.checkAccess token) s).1.mapError refusal, (answer (.checkAccess token) s).2) = _
    rw [knows]

theorem run_called {v : Visit} {f : Identity → Handler Response} {g : Identity → Except Response UseCase}
    (same : ∀ who, f who = meet (g who)) : Program.run answer (caller v.request >>= f).run s =
      Program.run answer (meet ((v.identify check).mapError refusal >>= g)).run s := by
  rw [Program.run_except_bind, run_caller knows]
  cases (v.identify check).mapError refusal with
  | error r => rfl
  | ok who => exact congrArg (Program.run answer ·.run s) (same who)

variable (ready : answer (.store .ping) s = (.ok (), s)) (service : Service) (v : Visit)
include ready

/-- Each endpoint first finds out what is demanded and then does it. -/
theorem settled_endpoint (e : Endpoint) :
    settled (Program.run answer (endpoint service v.draws v.request e).run s) =
      settled (Program.run answer (meet (e.demand service v ((v.identify check).mapError refusal))).run s) := by
  cases e with
  | healthz => rfl
  | readyz =>
    change settled (Program.run answer (Program.ask (.store .ping) fun r => _) s) = _
    rw [Program.run, ready]
    rfl
  | register | resend | verifyBody | verifyLink | login | refresh | logout =>
    rw [Endpoint.demand, meet_bind]
    rfl
  | listUsers | getUser escaped => exact congrArg settled (run_called knows fun who => by rw [meet_bind]; rfl)
  | updateUser escaped | changePassword escaped | deleteUser escaped =>
    exact congrArg settled (run_called knows fun who => by simp only [meet_bind]; rfl)

omit knows ready in
theorem run_finish (r : Request) (handler : Handler Response) :
    Program.run answer (do
      match ← handler.run with
      | .ok response => return finish r response
      | .error response => return finish r response) s =
      (finish r (settled (Program.run answer handler.run s)).1, (settled (Program.run answer handler.run s)).2) := by
  rw [Program.run_bind]
  rcases Program.run answer handler.run s with ⟨_ | _, _⟩ <;> rfl

/-- A request is answered at once, or by what comes of the use case that it asks for. -/
theorem run_respond : Program.run answer (respond service v.draws v.request) s =
    match v.demand service check with
    | .error r => (finish v.request r, s)
    | .ok u => (finish v.request (reply u (Program.run answer u.action.run s).1), (Program.run answer u.action.run s).2) := by
  unfold respond Visit.demand
  cases route v.request with
  | notFound => rfl
  | notAllowed allow => rfl
  | endpoint e =>
    refine (run_finish v.request (endpoint service v.draws v.request e)).trans ?_
    rw [settled_endpoint knows ready service v e]
    dsimp only
    cases e.demand service v ((v.identify check).mapError refusal) with
    | error r => rfl
    | ok u => rw [settled_meet]

end

namespace Visit
variable (service : Service) (issuer : Issuer) (mail : MailAction) (v : Visit)

/-- The response and what the service is then. -/
def serve (w : World) : Response × World :=
  Program.run (World.answer issuer v.now mail) (respond service v.draws v.request) w

/-- What is asked for at that instant, or the response that is given at once. -/
def wants : Except Response UseCase := v.demand service (issuer.checkAccess v.now)

variable {v} in
theorem wants_of_route {e : Endpoint} (at_ : route v.request = .endpoint e) :
    v.wants service issuer = e.demand service v ((v.caller issuer).mapError refusal) := by
  rw [wants, demand, at_]
  rfl

theorem serve_memory (t : Tables) (denied : Issuer.DenyList) : v.serve service issuer mail ⟨.memory t, denied⟩ =
    match v.wants service issuer with
    | .error r => (finish v.request r, ⟨.memory t, denied⟩)
    | .ok u =>
      let (result, after) := u.perform issuer v.now mail ⟨.memory t, denied⟩
      (finish v.request (reply u result), after) :=
  run_respond (fun _ => rfl) rfl service v

variable {service issuer v} in
theorem serve_of_wants {u : UseCase} (asks : v.wants service issuer = .ok u) (t : Tables) (denied : Issuer.DenyList) :
    v.serve service issuer mail ⟨.memory t, denied⟩ =
      (finish v.request (reply u (u.perform issuer v.now mail ⟨.memory t, denied⟩).1),
        (u.perform issuer v.now mail ⟨.memory t, denied⟩).2) := by
  rw [serve_memory, asks]

end Visit
end Accounts.Http
