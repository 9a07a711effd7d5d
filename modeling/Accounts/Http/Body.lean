import Accounts.Action.Verification
import Accounts.Time.Lenient
/-! The records that request bodies hold. -/
namespace Accounts.Http.Body
open Json Time

def timestamp : Reader Timestamp := Reader.text.refine Lenient.parse?

def optionalText (name : String) : Json.Field String := .withDefault name .text ""

def detailFields :=
  Record.cons (optionalText "document_id") <|
  .cons (.nullable "birthday" timestamp) <|
  .cons (.withDefault "gender" .flag false) <|
  .cons (optionalText "permanent_address") <|
  .cons (optionalText "phone_number") .nil

def registerFields :=
  Record.cons (.required "username" .text) <|
  .cons (.required "password" .text) <|
  .cons (.required "email" .text) <|
  .cons (optionalText "name") detailFields

def updateFields :=
  Record.cons (.required "email" .text) <|
  .cons (.required "name" .text) detailFields

def passwordFields :=
  Record.cons (.required "current_password" .text) <|
  .cons (.required "new_password" .text) .nil

def loginFields :=
  Record.cons (.required "username" .text) <|
  .cons (.required "password" .text) .nil

def refreshFields := Record.cons (.required "refresh_token" .text) .nil

def resendFields := Record.cons (.required "email" .text) .nil

def verifyFields := Record.cons (optionalText "token") .nil

def registration (text : Bytes) : Except Fault Action.Registration :=
  (registerFields.parse text).map
    fun (username, password, email, name, documentId, birthday, gender, address, phone, _) =>
      ⟨username, password, ⟨email, name, documentId, birthday, gender, address, phone⟩⟩

def profile (text : Bytes) : Except Fault Profile :=
  (updateFields.parse text).map fun (email, name, documentId, birthday, gender, address, phone, _) =>
    ⟨email, name, documentId, birthday, gender, address, phone⟩

def passwords (text : Bytes) : Except Fault (String × String) :=
  (passwordFields.parse text).map fun (current, new, _) => (current, new)

def login (text : Bytes) : Except Fault (String × String) :=
  (loginFields.parse text).map fun (username, password, _) => (username, password)

def refreshToken (text : Bytes) : Except Fault String := (refreshFields.parse text).map (·.1)

def email (text : Bytes) : Except Fault String := (resendFields.parse text).map (·.1)

def token (text : Bytes) : Except Fault String := (verifyFields.parse text).map (·.1)

end Accounts.Http.Body
