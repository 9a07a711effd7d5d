import Accounts.Password.Hash
import Accounts.Program
/-! Reading, changing and deleting accounts. -/
namespace Accounts.Action

def getUser (username : String) : Action User := do
  require .userNotFound (← store (.getUser username))

structure UserPage where
  users : List User
  total : Nat
  page : Page
  deriving DecidableEq, Repr

/-- The users on a page, by name, and how many there are in all. -/
def listUsers (page : Page) : Action UserPage := do
  let page := page.clamped
  let (users, total) ← store (.listUsers page)
  return ⟨users, total, page⟩

def updateProfile (username : String) (profile : Profile) : Action User := do
  nonempty "username" username
  nonempty "email" profile.email
  nonempty "name" profile.name
  store (.updateProfile username profile)

/-- Replaces the password of a user who knows the current one. -/
def changePassword (salt : Bytes) (username current new : String) : Action Unit := do
  nonempty "username" username
  nonempty "new password" new
  let user ← require .userNotFound (← store (.getUser username))
  let credentials ← require .invalidCredentials (← store (.getCredentials user.id))
  if !(← (Password.verify current credentials.hash : Except ServiceError Bool)) then
    throw .invalidCredentials
  let hash ← (Password.hash salt new : Except ServiceError String)
  store (.updatePassword user.id hash)

def deleteAccount (username : String) : Action Unit := do
  nonempty "username" username
  store (.deleteUser username)

end Accounts.Action
