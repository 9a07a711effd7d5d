import Accounts.Relay.BrokerUrl
import Accounts.Relay.Loop
/-! The broker that messages come from: a durable consumer on a stream is looked up, or made if it is missing, and
then pulled from. -/
namespace Accounts.Relay

structure BrokerSettings where
  url : String
  stream : String
  subject : String
  consumerGroup : String
  deriving DecidableEq, Repr

/-- The subject that a consumer is made for; an empty one is none. -/
def BrokerSettings.filter (s : BrokerSettings) : Option String :=
  if s.subject.isEmpty then none else some s.subject

inductive Presence
  | missing
  | present
  | forbidden
  /-- A consumer that cannot be pulled from. -/
  | push
  deriving DecidableEq, Repr

/-- How a pull ends after its messages. -/
inductive PullEnd
  | deleted
  | push
  | noResponders
  | unknown
  deriving DecidableEq, Repr

structure Server where
  refuses : Bool
  stream : Presence
  consumer : Presence
  mayCreateStream : Bool
  mayCreateConsumer : Bool
  messages : List Bytes
  ending : Option PullEnd
  deriving DecidableEq, Repr

inductive BrokerCall
  | streamInfo (stream : String)
  | streamCreate (stream subject : String)
  | consumerInfo (stream group : String)
  | consumerCreate (stream group : String) (subject : Option String)
  | pull (stream group : String)
  deriving DecidableEq, Repr

/-- White space, points and wildcards may not stand in the name of a stream. -/
def isStreamName (s : String) : Bool :=
  !s.isEmpty && s.toList.all fun c =>
    !(c = ' ' || c = '\t' || c = '\n' || c = '\r' || c = '\x0c' || c = '.' || c = '*' || c = '>')

def ensureStream (s : BrokerSettings) (server : Server) : Except BrokerError Unit × List BrokerCall :=
  let fault := BrokerError.setup ("stream " ++ s.stream)
  if !isStreamName s.stream then (.error fault, [])
  else match server.stream with
    | .missing =>
      (if server.mayCreateStream then .ok () else .error fault,
        [.streamInfo s.stream, .streamCreate s.stream s.subject])
    | .present => (.ok (), [.streamInfo s.stream])
    | _ => (.error fault, [.streamInfo s.stream])

def ensureConsumer (s : BrokerSettings) (server : Server) : Except BrokerError Unit × List BrokerCall :=
  let fault := BrokerError.setup ("consumer " ++ s.consumerGroup)
  match server.consumer with
  | .missing =>
    (if server.mayCreateConsumer then .ok () else .error fault,
      [.consumerInfo s.stream s.consumerGroup, .consumerCreate s.stream s.consumerGroup s.filter])
  | .present => (.ok (), [.consumerInfo s.stream s.consumerGroup])
  | _ => (.error fault, [.consumerInfo s.stream s.consumerGroup])

/-- Sets up the consumer, step by step until one fails. -/
def connect (s : BrokerSettings) (server : Server) : Except BrokerError Unit × List BrokerCall :=
  if server.refuses || !BrokerUrl.isUsable s.url then (.error (.connect ""), [])
  else match ensureStream s server with
    | (.error e, calls) => (.error e, calls)
    | (.ok (), calls) =>
      match ensureConsumer s server with
      | (.error e, more) => (.error e, calls ++ more)
      | (.ok (), more) => (.ok (), calls ++ more ++ [.pull s.stream s.consumerGroup])

/-- What waiting for messages brings. Some endings close the source after the failure. -/
def Server.arrivals (server : Server) : List Arrival :=
  server.messages.map .message ++
  match server.ending with
  | none => []
  | some .deleted => [.fault (.fetch ""), .closed]
  | some .push => [.fault (.fetch ""), .closed]
  | some .noResponders => [.fault (.fetch "")]
  | some .unknown => [.fault (.fetch "")]

inductive Last
  | limit
  | closed
  | failed
  deriving DecidableEq, Repr

/-- What at most so many fetches bring. A failure ends them if nothing comes after it. -/
def fetch : Nat → List Arrival → List (Except BrokerError Bytes) × Last
  | 0, _ => ([], .limit)
  | n + 1, .message body :: rest =>
    let (more, last) := fetch n rest
    (.ok body :: more, last)
  | _ + 1, [.fault e] => ([.error e], .failed)
  | n + 1, .fault e :: rest =>
    let (more, last) := fetch n rest
    (.error e :: more, last)
  | _ + 1, _ => ([], .closed)

end Accounts.Relay
