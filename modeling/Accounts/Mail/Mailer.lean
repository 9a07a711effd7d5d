import Accounts.Mail.Mailbox
import Accounts.Program
import Accounts.Text.Percent
/-! Verification mails: what is written in one, and the mailer that sends them. -/
namespace Accounts.Mail

structure SmtpSettings where
  host : String
  port : Nat
  username : Option String
  password : Option String
  sender : String
  useTls : Bool
  /-- Seconds. -/
  timeout : Nat
  /-- What the escaped token is added to. -/
  urlBase : Option String
  deriving DecidableEq, Repr

def defaultPort : Nat := 587

inductive MailFault
  | missingSetting (what : String)
  | address (fault : AddressFault)
  | transport
  deriving DecidableEq, Repr

def MailFault.message : MailFault → String
  | missingSetting what => "smtp " ++ what ++ " is required"
  | address fault => fault.message
  | transport => "smtp transport error"

/-- A mail server to send through, and as whom. -/
structure Mailer where
  sender : Address
  credentials : Option (String × String)
  useTls : Bool
  urlBase : Option String
  deriving DecidableEq, Repr

def given (s : Option String) : Option String := s.filter fun s => !s.isEmpty

def Mailer.ofSettings (s : SmtpSettings) : Except MailFault Mailer :=
  if s.host.isEmpty then .error (.missingSetting "host")
  else if s.sender.isEmpty then .error (.missingSetting "from address")
  else match Address.parse s.sender with
    | .error fault => .error (.address fault)
    | .ok sender =>
      .ok ⟨sender, (given s.username).map fun user => (user, s.password.getD ""), s.useTls, given s.urlBase⟩

structure Message where
  sender : Address
  recipient : Address
  subject : String
  body : String
  deriving DecidableEq, Repr

def subject (purpose : String) : String :=
  if purpose.isEmpty || purpose = "register" then "Verify your account"
  else "User verification (" ++ purpose ++ ")"

def linkToken (token : String) : String :=
  (Bytes.text? (Percent.encode (Bytes.ofText token))).getD ""

def link (base token : String) : String := base ++ linkToken token

def linkLine (token : String) (base : Option String) : String :=
  base.elim "" fun base => "Link: " ++ link base token

def body (token : String) (base : Option String) : String :=
  "Hello,\n\nPlease verify your account using the information below:\n\nToken: " ++ token ++ "\n" ++
  linkLine token base ++ "\n\nThank you.\n"

def Mailer.compose (m : Mailer) (l : Letter) : Except MailFault Message :=
  match Address.parse l.recipient with
  | .error fault => .error (.address fault)
  | .ok recipient => .ok ⟨m.sender, recipient, subject l.purpose, body l.token m.urlBase⟩

/-- Where a server breaks off. -/
inductive Refusal
  | connect
  | greeting
  | auth
  | mail
  | rcpt
  | data
  | message
  deriving DecidableEq, Repr

/-- What a server that speaks no TLS gets, unless it breaks off. Credentials are sent only if there are any. -/
def Mailer.deliver (m : Mailer) (refusal : Option Refusal) (l : Letter) : Except MailFault Message :=
  match m.compose l with
  | .error fault => .error fault
  | .ok message =>
    if m.useTls then .error .transport
    else match refusal with
      | none => .ok message
      | some .auth => if m.credentials.isSome then .error .transport else .ok message
      | some _ => .error .transport

end Accounts.Mail
