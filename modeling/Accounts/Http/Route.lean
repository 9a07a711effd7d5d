import Accounts.Http.Request
/-! Which endpoint a request is for. Fixed paths win over those with a user's name in them. -/
namespace Accounts.Http

/-- What is done for a request; the user's name is still escaped. -/
inductive Endpoint
  | healthz
  | readyz
  | register
  | listUsers
  | resend
  | verifyBody
  | verifyLink
  | login
  | refresh
  | logout
  | getUser (username : Bytes)
  | updateUser (username : Bytes)
  | deleteUser (username : Bytes)
  | changePassword (username : Bytes)
  deriving DecidableEq, Repr

inductive Method
  | get
  | post
  | put
  | patch
  | delete
  deriving DecidableEq, Repr

namespace Method

def ofText? (s : String) : Option Method :=
  match s with
  | "GET" => some get
  | "HEAD" => some get
  | "POST" => some post
  | "PUT" => some put
  | "PATCH" => some patch
  | "DELETE" => some delete
  | _ => none

/-- As listed among the allowed methods. What can be got has a head, too. -/
def text : Method → String
  | get => "GET,HEAD"
  | post => "POST"
  | put => "PUT"
  | patch => "PATCH"
  | delete => "DELETE"

end Method

/-- The endpoints of one path, by method. -/
abbrev Resource := List (Method × Endpoint)

def account (username : Bytes) : Resource :=
  [(.get, .getUser username), (.patch, .updateUser username), (.delete, .deleteUser username)]

def fixed : List (List String × Resource) := [
  (["healthz"], [(.get, .healthz)]),
  (["readyz"], [(.get, .readyz)]),
  (["users"], [(.post, .register), (.get, .listUsers)]),
  (["users", "verification", "resend"], [(.post, .resend)]),
  (["users", "verify"], [(.post, .verifyBody), (.get, .verifyLink)]),
  (["auth", "login"], [(.post, .login)]),
  (["auth", "refresh"], [(.post, .refresh)]),
  (["auth", "logout"], [(.post, .logout)])]

/-- The resource at a path. At its end a name may not be empty. -/
def resource? (segments : List Bytes) : Option Resource :=
  match fixed.find? fun (path, _) => path.map Bytes.ofText == segments with
  | some (_, resource) => some resource
  | none =>
    match segments with
    | [users, b :: name] => if users = Bytes.ofText "users" then some (account (b :: name)) else none
    | [users, name, last] =>
      if users = Bytes.ofText "users" && last = Bytes.ofText "password" then some [(.put, .changePassword name)]
      else none
    | _ => none

inductive Route
  | endpoint (e : Endpoint)
  | notFound
  | notAllowed (allow : String)
  deriving DecidableEq, Repr

def allowText (r : Resource) : String := ",".intercalate (r.map fun (m, _) => m.text)

def route (r : Request) : Route :=
  match resource? r.segments with
  | none => .notFound
  | some resource =>
    match (Method.ofText? r.method).bind fun m => resource.lookup m with
    | some e => .endpoint e
    | none => .notAllowed (allowText resource)

end Accounts.Http
