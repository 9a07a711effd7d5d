import Accounts.Password.Hash
import Accounts.Program
/-! Logging in and out. -/
namespace Accounts.Action

/-- Session tokens for a verified user who knows the password. -/
def login (jti username password : String) : Action (User × IssuedTokens) := do
  if username.isEmpty || password.isEmpty then throw .invalidCredentials
  let user ← require .invalidCredentials (← store (.getUser username))
  let credentials ← require .invalidCredentials (← store (.getCredentials user.id))
  if !(← (Password.verify password credentials.hash : Except ServiceError Bool)) then
    throw .invalidCredentials
  if !user.verified then throw .notVerified
  return (user, ← issue user jti)

/-- New session tokens for a refresh token, which is spent. The user has to be the one it was issued to. -/
def refresh (jti token : String) : Action IssuedTokens := do
  let identity ← checkRefresh token
  let user ← require .invalidToken
    ((← store (.getUser identity.username)).filter fun u => u.id = identity.userId)
  revoke token
  issue user jti

def logout (token : String) : Action Unit := revoke token

end Accounts.Action
