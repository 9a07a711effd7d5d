import Accounts.Relay.Handle
/-! The relay's loop: messages are handled in the order they arrive, and each is acknowledged once it is handled,
whatever came of it. -/
namespace Accounts.Relay

inductive BrokerError
  | connect (cause : String)
  | setup (cause : String)
  | fetch (cause : String)
  | commit (cause : String)
  deriving DecidableEq, Repr

def BrokerError.message : BrokerError → String
  | connect cause => "connect to broker: " ++ cause
  | setup cause => "set up consumer: " ++ cause
  | fetch cause => "fetch message: " ++ cause
  | commit cause => "acknowledge message: " ++ cause

/-- What waiting for the next message ends with. -/
inductive Arrival
  | message (body : Bytes)
  | closed
  | fault (e : BrokerError)
  | cancelled
  deriving DecidableEq, Repr

/-- What the loop does, in order. -/
inductive Step
  /-- A wait for the next message has ended. -/
  | arrived (arrival : Arrival)
  | handled (number : Nat) (result : Except HandleError Handled)
  /-- An acknowledgement was tried, and succeeded or not. -/
  | committed (number : Nat) (accepted : Bool)

structure LoopEnd where
  result : Except BrokerError Unit
  steps : List Step

/-- Handles what arrives, until the source is closed or fails or the loop is cancelled. Messages are numbered
from `number` on; `accepts` says whose acknowledgement succeeds. -/
def loop (accepts : Nat → Bool) (number : Nat) : List Arrival → Program LoopEnd
  | [] => pure ⟨.ok (), []⟩
  | .closed :: _ => pure ⟨.ok (), [.arrived .closed]⟩
  | .cancelled :: _ => pure ⟨.ok (), [.arrived .cancelled]⟩
  | .fault e :: _ => pure ⟨.error e, [.arrived (.fault e)]⟩
  | .message body :: rest => do
    let result ← (handle body).run
    let last ← loop accepts (number + 1) rest
    return ⟨last.result,
      .arrived (.message body) :: .handled number result :: .committed number (accepts number) :: last.steps⟩

def LoopEnd.commits (e : LoopEnd) : List Nat :=
  e.steps.filterMap fun
    | .committed number true => some number
    | _ => none

end Accounts.Relay
