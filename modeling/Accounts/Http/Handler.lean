import Accounts.Action.Account
import Accounts.Action.Session
import Accounts.Http.Body
import Accounts.Http.MediaType
import Accounts.Http.Route
import Accounts.Text.Decimal
/-! What is done for each endpoint. First the caller is known, then the path is read, then the query or body;
only then anything happens. -/
namespace Accounts.Http
open Json Time

/-- How long tokens live, and how often they are sent again. -/
structure Service where
  tokenTtl : Span
  cooldown : Span

/-- What has been drawn at random for a request. -/
structure Draws where
  token : String
  salt : Bytes
  jti : String

/-- A program that may end early with a response. -/
abbrev Handler := ExceptT Response Program

namespace Handler

def refusal (e : ServiceError) : Response := .ofJson e.status e.body

/-- Refusals are answered with their status and body. -/
def act {α : Type} (a : Action α) : Handler α :=
  ExceptT.mk (a.run >>= fun r => pure (r.mapError refusal))

def caller (r : Request) : Handler Identity :=
  act (match r.bearer? with
    | none => throw .invalidToken
    | some token => Action.checkAccess token)

def username (escaped : Bytes) : Except Response String :=
  match Bytes.text? (Percent.decode escaped) with
  | some s => .ok s
  | none => .error (.rejected 400)

def hasJson (r : Request) : Bool :=
  ((r.header? "content-type").bind MediaType.parse?).any MediaType.isJson

/-- How many bytes a body may have that is read. -/
def maxBody : Nat := 2097152

def body {α : Type} (r : Request) (read : Bytes → Except Fault α) : Except Response α :=
  if !hasJson r then .error (.rejected 415)
  else if maxBody < r.body.length then .error (.rejected 413)
  else match read r.body with
    | .ok a => .ok a
    | .error .malformed => .error (.rejected 400)
    | .error .mismatched => .error (.rejected 422)

/-- A value of a query that may be given once. -/
def queryValue (pairs : List (String × String)) (name : String) : Except Response (Option String) :=
  match pairs.filter fun (n, _) => n = name with
  | [] => .ok none
  | [(_, v)] => .ok (some v)
  | _ => .error (.rejected 400)

def queryNumber (pairs : List (String × String)) (name : String) (default : Nat) : Except Response Nat := do
  match ← queryValue pairs name with
  | none => return default
  | some s =>
    match Decimal.natural Decimal.maxU32 s with
    | .ok n => return n
    | .error _ => throw (.rejected 400)

def queryPage (r : Request) : Except Response Page := do
  let pairs := Percent.pairs r.query
  let number ← queryNumber pairs "page" Page.default.number
  let size ← queryNumber pairs "page_size" Page.default.size
  return ⟨number, size⟩

def queryToken (r : Request) : Except Response String := do
  return (← queryValue (Percent.pairs r.query) "token").getD ""

/-- Nobody may act on another's account. -/
def owner (who : Identity) (username : String) : Except Response Unit :=
  if who.username = username then .ok () else .error (refusal .forbidden)

def tokenMembers (t : IssuedTokens) : List (String × Value) := [
  ("access_token", .string t.access),
  ("access_expires_at", .string (instantText t.accessExpiresAt)),
  ("refresh_token", .string t.refresh),
  ("refresh_expires_at", .string (instantText t.refreshExpiresAt))]

def pageJson (p : Action.UserPage) : Value :=
  .object [("users", .array (p.users.map User.toJson)), ("total", .nat p.total),
    ("page", .nat p.page.number), ("page_size", .nat p.page.size)]

def healthz : Handler Response := pure (.empty 200)

def readyz : Handler Response :=
  ExceptT.lift do
    match ← (Action.store .ping).run with
    | .ok _ => return .empty 200
    | .error _ => return .empty 503

def register (s : Service) (d : Draws) (r : Request) : Handler Response := do
  let registration ← body r Body.registration
  return .ofJson 201 (← act (Action.register s.tokenTtl d.salt d.token registration)).toJson

def listUsers (r : Request) : Handler Response := do
  let _ ← caller r
  let page ← queryPage r
  return .ofJson 200 (pageJson (← act (Action.listUsers page)))

def resend (s : Service) (d : Draws) (r : Request) : Handler Response := do
  let email ← body r Body.email
  act (Action.resend s.tokenTtl s.cooldown d.token email)
  return .empty 202

def verify (token : String) : Handler Response :=
  return .ofJson 200 (← act (Action.verify token)).toJson

def verifyBody (r : Request) : Handler Response := do verify (← body r Body.token)

def verifyLink (r : Request) : Handler Response := do verify (← queryToken r)

def login (d : Draws) (r : Request) : Handler Response := do
  let (username, password) ← body r Body.login
  let (user, tokens) ← act (Action.login d.jti username password)
  return .ofJson 200 (.object (("user", user.toJson) :: tokenMembers tokens))

def refresh (d : Draws) (r : Request) : Handler Response := do
  let token ← body r Body.refreshToken
  return .ofJson 200 (.object (tokenMembers (← act (Action.refresh d.jti token))))

def logout (r : Request) : Handler Response := do
  act (Action.logout (← body r Body.refreshToken))
  return .empty 204

def getUser (escaped : Bytes) (r : Request) : Handler Response := do
  let _ ← caller r
  let username ← username escaped
  return .ofJson 200 (← act (Action.getUser username)).toJson

def updateUser (escaped : Bytes) (r : Request) : Handler Response := do
  let who ← caller r
  let username ← username escaped
  let profile ← body r Body.profile
  owner who username
  return .ofJson 200 (← act (Action.updateProfile username profile)).toJson

def changePassword (escaped : Bytes) (d : Draws) (r : Request) : Handler Response := do
  let who ← caller r
  let username ← username escaped
  let (current, new) ← body r Body.passwords
  owner who username
  act (Action.changePassword d.salt username current new)
  return .empty 204

def deleteUser (escaped : Bytes) (r : Request) : Handler Response := do
  let who ← caller r
  let username ← username escaped
  owner who username
  act (Action.deleteAccount username)
  return .empty 204

def endpoint (s : Service) (d : Draws) (r : Request) : Endpoint → Handler Response
  | .healthz => healthz
  | .readyz => readyz
  | .register => register s d r
  | .listUsers => listUsers r
  | .resend => resend s d r
  | .verifyBody => verifyBody r
  | .verifyLink => verifyLink r
  | .login => login d r
  | .refresh => refresh d r
  | .logout => logout r
  | .getUser username => getUser username r
  | .updateUser username => updateUser username r
  | .deleteUser username => deleteUser username r
  | .changePassword username => changePassword username d r

end Handler

/-- A response as sent: one to a HEAD request has no body, and the request's name comes back. -/
def finish (r : Request) (response : Response) : Response :=
  { response with
    body := if r.method = "HEAD" then .empty else response.body
    requestId := r.header? "x-request-id" }

def respond (s : Service) (d : Draws) (r : Request) : Program Response :=
  match route r with
  | .notFound => pure (finish r (.empty 404))
  | .notAllowed allow => pure (finish r { Response.empty 405 with allow := some allow })
  | .endpoint e => do
    match ← (Handler.endpoint s d r e).run with
    | .ok response => return finish r response
    | .error response => return finish r response

end Accounts.Http
