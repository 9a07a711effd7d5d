import Accounts.Text.DomainName
import Accounts.Text.Percent
/-! Addresses of brokers: a scheme, a place and what follows it. The place is a host, with a user before it and a port
after it if they are given. -/
namespace Accounts.Relay.BrokerUrl

/-- The digits' number, if it is at most `max`. -/
def number? (base max : Nat) (cs : List Char) : Option Nat :=
  (cs.mapM fun c => (Hex.value? c.toUInt8).filter fun d => c.toNat < 128 && d.toNat < base).bind fun ds =>
    let n := ds.foldl (fun n d => n * base + d.toNat) 0
    if n ≤ max then some n else none

/-- A part of a host that is written in numbers: a zero in front makes it octal, and `0x` hexadecimal. -/
def hostNumber? (cs : List Char) : Option Nat :=
  match cs with
  | [] => none
  | '0' :: 'x' :: ds => number? 16 4294967295 ds
  | '0' :: d :: ds => number? 8 4294967295 (d :: ds)
  | cs => number? 10 4294967295 cs

/-- The parts of a host between points; a point at its end counts for nothing. -/
def hostParts (host : List Char) : List (List Char) :=
  let parts := Parts.splitAt '.' host
  if 1 < parts.length && parts.getLast? = some [] then parts.dropLast else parts

/-- Whether a host's last part looks like a number, so that the host has to be written in numbers. -/
def endsInNumber (host : List Char) : Bool :=
  (hostParts host).getLast?.any fun part =>
    part ≠ [] && (part.all Char.isDigit ||
      (part.take 2 = ['0', 'x'] && (part.drop 2).all fun c => (number? 16 15 [c]).isSome))

/-- One to four numbers of 32 bits in all. All but the last are of 8 bits, and the last takes up the rest. -/
def isIpv4 (host : List Char) : Bool :=
  let parts := hostParts host
  match parts.mapM hostNumber? with
  | none => false
  | some ns =>
    1 ≤ ns.length && ns.length ≤ 4 && ns.dropLast.all (· ≤ 255) &&
    ns.getLast?.any fun last => last < Nat.pow 256 (5 - ns.length)

/-- Four decimal numbers of 8 bits without zeros in front. -/
def isDotted (cs : List Char) : Bool :=
  let parts := Parts.splitAt '.' cs
  parts.length = 4 && parts.all fun part =>
    part ≠ [] && (part.length = 1 || part.head? ≠ some '0') && (number? 10 255 part).isSome

/-- How many groups of 16 bits stand between colons. The last two may be written as four numbers. -/
def groups? (cs : List Char) : Option Nat :=
  if cs = [] then some 0
  else
    let parts := Parts.splitAt ':' cs
    let isGroup (part : List Char) : Bool := part ≠ [] && part.length ≤ 4 && (number? 16 65535 part).isSome
    if parts.all isGroup then some parts.length
    else if parts.dropLast.all isGroup && parts.getLast?.any isDotted then some (parts.length + 1)
    else none

/-- What stands before the first two colons in a row, and what after them. -/
def splitGap : List Char → Option (List Char × List Char)
  | ':' :: ':' :: rest => some ([], rest)
  | c :: rest => (splitGap rest).map fun (before, after) => (c :: before, after)
  | [] => none

/-- Eight groups; two colons in a row stand for those that are missing. -/
def isIpv6 (cs : List Char) : Bool :=
  match splitGap cs with
  | none => groups? cs = some 8
  | some (before, after) =>
    !before.contains '.' &&
    match groups? before, groups? after with
    | some m, some n => m + n ≤ 7
    | _, _ => false

/-- A character that may not stand in a host. -/
def isForbidden (c : Char) : Bool := "\x00\t\n\r #/:<>?@[\\]^|".toList.contains c

/-- The schemes whose addresses are read like those of the web. -/
def isWeb (scheme : String) : Bool := scheme = "ws" || scheme = "wss"

/-- A name that can be written in ASCII, or numbers. -/
def isWebHost (host : List Char) : Bool :=
  match Bytes.text? (Percent.decode (Bytes.ofText (String.ofList host))) with
  | none => false
  | some s =>
    match DomainName.ascii? s.toList with
    | none => false
    | some name =>
      name ≠ [] && (name.all fun c => !(isForbidden c || c = '%' || c.toNat < 32 || c.toNat = 127)) &&
      (!endsInNumber name || isIpv4 name)

def isHost (scheme : String) (host : List Char) : Bool :=
  match host with
  | [] => false
  | '[' :: cs => cs.getLast? = some ']' && isIpv6 cs.dropLast
  | cs => if isWeb scheme then isWebHost cs else !cs.any isForbidden

/-- Nothing, or a port of 16 bits after a colon. A backslash ends it. -/
def isPort : List Char → Bool
  | [] => true
  | ':' :: ds => (number? 10 65535 (ds.takeWhile (· ≠ '\\'))).isSome
  | _ => false

/-- A host up to the first colon that is not in brackets, and what follows it. -/
def splitHost (bracketed : Bool) : List Char → List Char × List Char
  | [] => ([], [])
  | c :: rest =>
    if c = ':' && !bracketed then ([], c :: rest)
    else
      let (host, port) := splitHost (if c = '[' then true else if c = ']' then false else bracketed) rest
      (c :: host, port)

/-- What an address has after its user. -/
def isPlace (scheme : String) (cs : List Char) : Bool :=
  let (host, port) := splitHost false cs
  isHost scheme host && isPort port

/-- The place that comes after the scheme's colon; a web address may have any number of slashes there. -/
def place? (scheme : String) (rest : List Char) : Option (List Char) :=
  let ends (c : Char) : Bool := c = '/' || c = '?' || c = '#' || (isWeb scheme && c = '\\')
  let upToEnd (cs : List Char) : List Char := cs.takeWhile fun c => !ends c
  if isWeb scheme then some (upToEnd (rest.dropWhile fun c => c = '/' || c = '\\'))
  else match rest with
    | '/' :: '/' :: rest => some (upToEnd rest)
    | _ => none

/-- Without the spaces and controls around it, and without tabs and line ends anywhere. -/
def trimmed (url : String) : List Char :=
  let drop (cs : List Char) : List Char := cs.dropWhile (· ≤ ' ')
  (drop (drop url.toList).reverse).reverse.filter fun c => c ≠ '\t' && c ≠ '\n' && c ≠ '\r'

/-- Whether a text is the address of a broker that can be reached without encryption. A text without a scheme is a
place. -/
def isUsable (url : String) : Bool :=
  let cs := trimmed (if 1 < (url.splitOn "://").length then url else "nats://" ++ url)
  let scheme := String.ofList ((cs.takeWhile (· ≠ ':')).map Char.toLower)
  ["nats", "ws", "wss"].contains scheme &&
  (place? scheme ((cs.dropWhile (· ≠ ':')).drop 1)).any fun place =>
    isPlace scheme (place.reverse.takeWhile (· ≠ '@')).reverse

end Accounts.Relay.BrokerUrl
