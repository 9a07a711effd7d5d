import Accounts.Action.Verification
import Accounts.Mail.Mailer
import Accounts.Session.Issuer
import Accounts.Text.Decimal
/-! The service's settings, read from named text values as an environment has them. -/
namespace Accounts
open Time

inductive Provider
  | noop
  | smtp
  deriving DecidableEq, Repr

def Provider.text : Provider → String
  | noop => "noop"
  | smtp => "smtp"

inductive SettingValue
  | text (s : String)
  | number (n : Int)
  | flag (b : Bool)
  | provider (p : Provider)
  deriving DecidableEq, Repr

inductive SettingKind
  | text
  | port
  | seconds
  | integer
  | flag
  | provider
  deriving DecidableEq, Repr

inductive SettingsFault
  | missing (field : String)
  | duplicate (field : String)
  | badNumber (fault : Decimal.Fault) (value key : String)
  | badFlag (value key : String)
  | badProvider (value : String)
  | outOfRange (key : String)
  deriving DecidableEq, Repr

def numberFaultText : Decimal.Fault → String
  | .empty => "cannot parse integer from empty string"
  | .badDigit => "invalid digit found in string"
  | .tooLarge => "number too large to fit in target type"
  | .tooSmall => "number too small to fit in target type"

/-- Where a value that cannot be read comes from. -/
def sourceText (value key : String) : String :=
  " while parsing value '" ++ value ++ "' provided by " ++ key

def SettingsFault.message : SettingsFault → String
  | missing field => "missing value for field " ++ field
  | duplicate field => "duplicate field \x60" ++ field ++ "\x60"
  | badNumber fault value key => numberFaultText fault ++ sourceText value key
  | badFlag value key => "provided string was not \x60true\x60 or \x60false\x60" ++ sourceText value key
  | badProvider value => "unknown variant \x60" ++ value ++ "\x60, expected \x60noop\x60 or \x60smtp\x60"
  | outOfRange key => key ++ " is out of range"

namespace SettingKind

def number (r : Except Decimal.Fault Int) (key value : String) : Except SettingsFault SettingValue :=
  match r with
  | .ok n => .ok (.number n)
  | .error fault => .error (.badNumber fault value key)

def read (kind : SettingKind) (key value : String) : Except SettingsFault SettingValue :=
  match kind with
  | text => .ok (.text value)
  | port => number ((Decimal.natural Decimal.maxU16 value).map Int.ofNat) key value
  | seconds => number ((Decimal.natural Decimal.maxU64 value).map Int.ofNat) key value
  | integer => number (Decimal.int64 value) key value
  | flag =>
    if value = "true" then .ok (.flag true)
    else if value = "false" then .ok (.flag false)
    else .error (.badFlag value key)
  | provider =>
    if value = "noop" then .ok (.provider .noop)
    else if value = "smtp" then .ok (.provider .smtp)
    else .error (.badProvider value)

end SettingKind

structure Settings where
  databaseUrl : Option String
  port : Int
  tokenTtlSeconds : Int
  cooldownSeconds : Int
  brokerUrl : Option String
  stream : String
  subject : String
  consumerGroup : String
  provider : Provider
  smtpHost : String
  smtpPort : Int
  smtpUsername : Option String
  smtpPassword : Option String
  smtpSender : String
  smtpTls : Bool
  smtpTimeout : Int
  urlBase : Option String
  accessSecret : String
  refreshSecret : String
  accessTtlMinutes : Int
  refreshTtlMinutes : Int
  issuer : String
  audience : String
  deriving DecidableEq, Repr

namespace Settings

def known : List (String × SettingKind) := [
  ("database_url", .text), ("users_port", .port),
  ("verification_token_ttl_secs", .integer), ("resend_cooldown_secs", .integer),
  ("nats_url", .text), ("outbox_stream", .text), ("outbox_subject", .text),
  ("outbox_consumer_group", .text), ("email_provider", .provider),
  ("smtp_host", .text), ("smtp_port", .port), ("smtp_username", .text), ("smtp_password", .text),
  ("smtp_from", .text), ("smtp_tls", .flag), ("smtp_timeout_secs", .seconds),
  ("verification_url_base", .text),
  ("access_token_secret", .text), ("refresh_token_secret", .text),
  ("access_token_ttl_minutes", .integer), ("refresh_token_ttl_minutes", .integer),
  ("token_issuer", .text), ("token_audience", .text)]

/-- The lower case of a letter. Outside ASCII only the Kelvin sign has one that is a letter of a known name. -/
def lower (c : Char) : Char := if c = '\u212A' then 'k' else c.toLower

abbrev Values := List (String × SettingValue)

/-- Reads one more value. Names are known in any case; an unknown one is passed over. -/
def readPair (values : Values) (pair : String × String) : Except SettingsFault Values :=
  let (key, value) := pair
  let name := String.ofList (key.toList.map lower)
  match known.lookup name with
  | none => .ok values
  | some kind =>
    if (values.lookup name).isSome then .error (.duplicate name)
    else (kind.read key value).map fun v => values ++ [(name, v)]

def text? (values : Values) (name : String) : Option String :=
  match values.lookup name with
  | some (.text s) => some s
  | _ => none

def number (values : Values) (name : String) (default : Int) : Int :=
  match values.lookup name with
  | some (.number n) => n
  | _ => default

def required (values : Values) (name : String) : Except SettingsFault String :=
  match text? values name with
  | some s => .ok s
  | none => .error (.missing name)

def ofValues (values : Values) : Except SettingsFault Settings := do
  let accessSecret ← required values "access_token_secret"
  let refreshSecret ← required values "refresh_token_secret"
  let text (name default : String) : String := (text? values name).getD default
  return {
    databaseUrl := text? values "database_url"
    port := number values "users_port" 8080
    tokenTtlSeconds := number values "verification_token_ttl_secs" 86400
    cooldownSeconds := number values "resend_cooldown_secs" 60
    brokerUrl := text? values "nats_url"
    stream := text "outbox_stream" "USER_OUTBOX"
    subject := text "outbox_subject" "outbox.user"
    consumerGroup := text "outbox_consumer_group" "email-service"
    provider := if values.lookup "email_provider" = some (.provider .smtp) then .smtp else .noop
    smtpHost := text "smtp_host" ""
    smtpPort := number values "smtp_port" Mail.defaultPort
    smtpUsername := text? values "smtp_username"
    smtpPassword := text? values "smtp_password"
    smtpSender := text "smtp_from" ""
    smtpTls := values.lookup "smtp_tls" = some (.flag true)
    smtpTimeout := number values "smtp_timeout_secs" 10
    urlBase := text? values "verification_url_base"
    accessSecret
    refreshSecret
    accessTtlMinutes := number values "access_token_ttl_minutes" 15
    refreshTtlMinutes := number values "refresh_token_ttl_minutes" 4320
    issuer := text "token_issuer" "tradedesk"
    audience := text "token_audience" "tradedesk-clients" }

/-- The settings that these pairs give. Pairs are read in order; missing values are looked for last. -/
def load (pairs : List (String × String)) : Except SettingsFault Settings := do
  ofValues (← pairs.foldlM readPair [])

def maxSeconds : Int := 10 * 365 * 24 * 60 * 60

/-- The longest time that can be told, in seconds. -/
def longest : Int := 9223372036854775

def bounded (key : String) (n : Int) : Except SettingsFault Span :=
  if -longest ≤ n && n ≤ maxSeconds then .ok (seconds n) else .error (.outOfRange key)

/-- Whether the default is used for the lifetime of a token. -/
def usesDefaultTtl (s : Settings) : Bool := s.tokenTtlSeconds ≤ 0

def tokenTtl (s : Settings) : Except SettingsFault Span :=
  if s.usesDefaultTtl then .ok Action.defaultTokenTtl
  else bounded "VERIFICATION_TOKEN_TTL_SECS" s.tokenTtlSeconds

def cooldown (s : Settings) : Except SettingsFault Span :=
  bounded "RESEND_COOLDOWN_SECS" (max s.cooldownSeconds 0)

def session (s : Settings) : Except SettingsFault SessionSettings := do
  let accessTtl ← bounded "ACCESS_TOKEN_TTL_MINUTES" (s.accessTtlMinutes * 60)
  let refreshTtl ← bounded "REFRESH_TOKEN_TTL_MINUTES" (s.refreshTtlMinutes * 60)
  return ⟨s.accessSecret, s.refreshSecret, s.issuer, s.audience, accessTtl, refreshTtl⟩

def smtp (s : Settings) : Mail.SmtpSettings :=
  ⟨s.smtpHost, s.smtpPort.toNat, s.smtpUsername, s.smtpPassword, s.smtpSender, s.smtpTls,
    s.smtpTimeout.toNat, s.urlBase⟩

end Settings
end Accounts
