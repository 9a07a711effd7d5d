import Accounts.Hash.Sha256
import Accounts.Json.Record
import Accounts.Text.Base64
/-! Signed tokens: a header, claims and an HMAC-SHA256 signature over both, each in base64. -/
namespace Accounts.Session
open Json

structure Claims where
  subject : String
  userId : Int
  issuer : String
  audience : String
  issuedAt : Int
  /-- The second after which the token is no longer good. -/
  expiresAt : Int
  tokenId : Option String
  deriving DecidableEq, Repr

namespace Claims

def toJson (c : Claims) : Value :=
  .object ([
    ("sub", .string c.subject),
    ("uid", .int c.userId),
    ("iss", .string c.issuer),
    ("aud", .string c.audience),
    ("iat", .int c.issuedAt),
    ("exp", .int c.expiresAt)] ++
    match c.tokenId with
    | none => []
    | some id => [("jti", .string id)])

/-- A value that is not looked at but has to be simple: any scalar will do, and so will empty brackets. -/
def loose : Reader Unit where
  read
    | .openArray :: .closeArray :: rest => .ok ((), rest)
    | .openObject :: .closeObject :: rest => .ok ((), rest)
    | ts => (Reader.scalar simple).read ts
  shorter := by
    intro ts a rest h
    split at h
    · simp only [Except.ok.injEq, Prod.mk.injEq, true_and] at h
      subst h
      simp only [List.length_cons]; omega
    · simp only [Except.ok.injEq, Prod.mk.injEq, true_and] at h
      subst h
      simp only [List.length_cons]; omega
    · exact Reader.shorter _ h
where
  simple : Token → Except Fault Unit
    | .null => .ok ()
    | .bool _ => .ok ()
    | .number l => if l.overruns then .error .malformed else .ok ()
    | .string inside =>
      if (Quoted.unescape? inside).isSome || Quoted.endsInHalf inside then .ok () else .error .malformed
    | t => .error t.mismatch

def fields :=
  Record.cons (.required "sub" .text) <|
  .cons (.required "uid" .int64) <|
  .cons (.required "iss" .text) <|
  .cons (.required "aud" .text) <|
  .cons (.required "iat" .int64) <|
  .cons (.required "exp" .int64) <|
  .cons (.nullable "jti" .text) <|
  .cons (.withDefault "nbf" loose ()) .nil

def ofJson? (text : Bytes) : Option Claims :=
  match fields.parseObject text with
  | .ok (subject, userId, issuer, audience, issuedAt, expiresAt, tokenId, _) =>
    some ⟨subject, userId, issuer, audience, issuedAt, expiresAt, tokenId⟩
  | .error _ => none

end Claims

namespace Header

def text : Bytes := (Value.object [("typ", .string "JWT"), ("alg", .string "HS256")]).render

def isText : Value → Bool
  | .string _ => true
  | _ => false

def isNull : Value → Bool
  | .null => true
  | _ => false

/-- A list of texts. -/
def isTexts : Value → Bool
  | .array items => items.all isText
  | _ => false

/-- Whether a value names one of these, as a text or as the only member of an object, which is null. -/
def isOneOf (names : List String) : Value → Bool
  | .string s => names.contains s
  | .object [(name, .null)] => names.contains name
  | _ => false

/-- Whether a value names anything, in the same way; the member may be an empty object, too. -/
def isName : Value → Bool
  | .string _ => true
  | .object [(_, .null)] => true
  | .object [(_, .object [])] => true
  | _ => false

/-- The members of a key that any type of key may have, and their values, which may be null. -/
def keyMembers : List (String × (Value → Bool)) :=
  [("use", isText), ("key_ops", isTexts), ("alg", isName), ("kid", isText), ("x5u", isText), ("x5c", isTexts),
    ("x5t", isText), ("x5t#S256", isText)]

def curves : List String := ["P-256", "P-384", "P-521", "Ed25519"]

/-- The types of keys, each by the members that it has to have. -/
def keyTypes : List (List (String × (Value → Bool))) :=
  let kty (name : String) := ("kty", isOneOf [name])
  let crv := ("crv", isOneOf curves)
  [[kty "EC", crv, ("x", isText), ("y", isText)],
    [kty "RSA", ("n", isText), ("e", isText)],
    [kty "oct", ("k", isText)],
    [kty "OKP", crv, ("x", isText)]]

/-- The values of all members of this name. -/
def valuesOf (name : String) (members : List (String × Value)) : List Value :=
  members.filterMap fun (n, v) => if n = name then some v else none

/-- At most one member of this name, and that as it may be or null. -/
def atMostOnce (members : List (String × Value)) (name : String) (allows : Value → Bool) : Bool :=
  match valuesOf name members with
  | [] => true
  | [v] => isNull v || allows v
  | _ => false

def exactlyOnce (members : List (String × Value)) (name : String) (allows : Value → Bool) : Bool :=
  match valuesOf name members with
  | [v] => allows v
  | _ => false

/-- Whether a value is a key of some type. -/
def isKey : Value → Bool
  | .object members =>
    (keyMembers.all fun (name, allows) => atMostOnce members name allows) &&
    keyTypes.any fun type => type.all fun (name, allows) => exactlyOnce members name allows
  | _ => false

/-- The optional members of a header and their values. -/
def known : List (String × (Value → Bool)) :=
  [("typ", isText), ("cty", isText), ("jku", isText), ("jwk", isKey), ("kid", isText), ("x5u", isText),
    ("x5c", isTexts), ("x5t", isText), ("x5t#S256", isText), ("crit", isTexts), ("enc", isText), ("zip", isText),
    ("url", isText), ("nonce", isText)]

/-- Whether this is a header for a token signed as here. Members without a meaning are texts. -/
def isGood (text : Bytes) : Bool :=
  match Value.parseAll? text with
  | some (.object members) =>
    exactlyOnce members "alg" (isOneOf ["HS256"]) &&
    (known.all fun (name, allows) => atMostOnce members name allows) &&
    members.all fun (name, v) => name = "alg" || (known.any fun (n, _) => n = name) || isText v
  | _ => false

end Header

namespace Token

def dot : UInt8 := '.'.toUInt8

def toText (b : Bytes) : String := (Bytes.text? b).getD ""

/-- Header and claims, to which the signature is added. -/
def body (claims : Claims) : Bytes :=
  Base64.encode .urlSafe Header.text ++ dot :: Base64.encode .urlSafe claims.toJson.render

def sign (secret : Bytes) (claims : Claims) : String :=
  toText (body claims ++ dot :: Base64.encode .urlSafe (Hash.Sha256.hmac secret (body claims)))

/-- The claims of a token with a sound signature. -/
def open? (secret : Bytes) (token : String) : Option Claims :=
  match Bytes.splitAt dot (Bytes.ofText token) with
  | [header, claims, signature] => do
    let signature ← Base64.decode? .urlSafe signature
    if Hash.Sha256.hmac secret (header ++ dot :: claims) ≠ signature then none
    else if !Header.isGood (← Base64.decode? .urlSafe header) then none
    else Claims.ofJson? (← Base64.decode? .urlSafe claims)
  | _ => none

end Token
end Accounts.Session
