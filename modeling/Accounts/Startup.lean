import Accounts.Log
import Accounts.Relay.Broker
import Accounts.Settings
import Accounts.Text.Visible
/-! Starting the service: each part is set up in turn, and the first fault ends the start. -/
namespace Accounts.Startup
open Log Json Relay

/-- Who writes log lines. -/
def mainTarget : String := "users"

def configTarget : String := "tradedesk_users::config"

def brokerTarget : String := "tradedesk_users::infra::broker"

def relayTarget : String := "tradedesk_users::relay"

inductive StartFault
  | settings (fault : SettingsFault)
  | database
  | mail (fault : Mail.MailFault)
  | range (fault : SettingsFault)
  | session (fault : SessionFault)
  | broker (fault : BrokerError)

namespace StartFault

def message : StartFault → String
  | settings _ => "load users config"
  | database => "connect to database"
  | mail fault => fault.message
  | range fault => fault.message
  | session fault => fault.message
  | broker (.connect _) => "connect to broker"
  | broker fault => fault.message

/-- The reason behind it, where it is told. -/
def cause? : StartFault → Option String
  | settings fault => some fault.message
  | _ => none

end StartFault

/-- What is reported where settings are all that is asked for. -/
def settingsReport (fault : SettingsFault) : String :=
  "failed to load config from environment: " ++
  match fault with
  | .missing field => "MissingValue(" ++ Visible.quoted field ++ ")"
  | fault => "Custom(" ++ Visible.quoted fault.message ++ ")"

/-- Whether a database can be opened; only one in memory is always there. -/
def opensDatabase (url : String) : Bool := url = "sqlite::memory:" || url = "sqlite://:memory:"

def brokerSettings (s : Settings) (url : String) : BrokerSettings :=
  ⟨url, s.stream, s.subject, s.consumerGroup⟩

/-- A service ready to listen, with what has been logged. -/
structure Started where
  port : Int
  store : Store
  issuer : Issuer
  tokenTtl : Time.Span
  cooldown : Time.Span
  server : Option Server
  lines : List Line

def line (level : Level) (target message : String) (fields : List (String × Value)) : Line :=
  ⟨level, target, message, fields⟩

def openStore (s : Settings) : Except StartFault Store :=
  match s.databaseUrl with
  | none => .ok .empty
  | some url => if opensDatabase url then .ok (.database ⟨true, none, .empty⟩) else .error .database

def checkMailer (s : Settings) : Except StartFault Unit :=
  match s.provider with
  | .noop => .ok ()
  | .smtp => match Mail.Mailer.ofSettings s.smtp with
    | .ok _ => .ok ()
    | .error fault => .error (.mail fault)

/-- The broker at the address in the settings is `server`. -/
def connectBroker (s : Settings) (server : Server) : Except StartFault (Option Server × Line) :=
  match s.brokerUrl with
  | none => .ok (none, line .info mainTarget "NATS_URL not set, outbox relay disabled" [])
  | some url =>
    match (connect (brokerSettings s url) server).1 with
    | .error fault => .error (.broker fault)
    | .ok () => .ok (some server, line .info brokerTarget "jetstream consumer ready"
        [("stream", .string s.stream), ("subject", .string s.subject), ("consumer", .string s.consumerGroup)])

/-- Sets up everything that comes before the port. -/
def start (env : List (String × String)) (server : Server) : Except StartFault Started := do
  let s ← (Settings.load env).mapError .settings
  let store ← openStore s
  checkMailer s
  let session ← s.session.mapError .range
  let issuer ← (Issuer.ofSettings session).mapError .session
  let (server, brokerLine) ← connectBroker s server
  let tokenTtl ← s.tokenTtl.mapError .range
  let cooldown ← s.cooldown.mapError .range
  let warnings := if s.usesDefaultTtl then [line .warn configTarget
    "non-positive VERIFICATION_TOKEN_TTL_SECS, using default" [("value", .int s.tokenTtlSeconds)]] else []
  return {
    port := s.port
    store, issuer, tokenTtl, cooldown, server
    lines := [line .info mainTarget "user store ready" [("backend", .string store.backend)],
      line .info mainTarget "verification mailer ready" [("provider", .string s.provider.text)],
      brokerLine] ++ warnings }

/-- What is logged about one message. -/
def handledLines : Except HandleError Handled → List Line
  | .error _ => [line .error relayTarget "outbox message handling failed" []]
  | .ok h =>
    let event := [("event_id", Value.int h.eventId)]
    match h.outcome with
    | .skipped .undeliverable =>
      [line .warn relayTarget "outbox payload missing email or token, skipping" event, done "Skipped"]
    | .skipped .echoed => [line .debug relayTarget "terminal outbox row echoed, skipping" event, done "Skipped"]
    | .skipped (.settled status) =>
      [line .debug relayTarget "outbox row already settled, skipping"
        (event ++ [("status", .string status.text)]), done "Skipped"]
    | .skipped .missing => [line .warn relayTarget "outbox row not found, skipping" event, done "Skipped"]
    | .processed => [done "Processed"]
    | .failed => [done "Failed"]
where
  done (outcome : String) : Line :=
    line .debug relayTarget "outbox message handled" [("outcome", .string outcome)]

def stepLines : Step → List Line
  | .arrived _ => []
  | .handled _ result => handledLines result
  | .committed _ true => []
  | .committed _ false => [line .error relayTarget "outbox message commit failed" []]

def loopLines (e : LoopEnd) : List Line :=
  line .info relayTarget "outbox relay started" [] :: e.steps.flatMap stepLines ++
  match e.result with
  | .ok () => []
  | .error _ => [line .error relayTarget "outbox fetch failed" []]

/-- How a started service came to its end. -/
inductive Stop
  | interrupted
  | relayFailed

def listening (port : Int) : Line :=
  line .info mainTarget ("users service listening on 0.0.0.0:" ++ toString port) []

def Stop.line : Stop → Line
  | .interrupted => Startup.line .info mainTarget "shutdown requested" []
  | .relayFailed => Startup.line .error mainTarget "outbox relay failed, shutting down" []

/-- What the relay of a started service does with all that arrives, if every letter is sent. -/
def relayRun (s : Started) (now : Time.Instant) : Option LoopEnd :=
  s.server.map fun server =>
    ((loop (fun _ => true) 1 server.arrivals).run
      (World.answer s.issuer now fun _ store => (true, store)) ⟨s.store, []⟩).1

end Accounts.Startup
