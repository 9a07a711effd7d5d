import Accounts.Proofs.Json.Record
import Accounts.Proofs.Text.Base64
import Accounts.Session.Token
/-! What is read from a signed token. Main statement: under any key a token opens exactly if that key gives its body
the tag that it carries, and what it says is then what was signed. -/
namespace Accounts.Session
open Json
namespace Claims

theorem ofBytes_toJson (c : Claims) : Token.ofBytes c.toJson.render = c.toJson.tokens := by
  have ends : Literal.Ends ['}'.toUInt8] := Value.ends_cons (by decide)
  have close : Token.ofBytes ['}'.toUInt8] = [.closeObject] := by
    have last : Token.split? ['}'.toUInt8] = some (.closeObject, []) := rfl
    rw [Token.ofBytes_of_split? last, Value.ofBytes_nil]
  have opening (rest : Bytes) : Token.ofBytes ('{'.toUInt8 :: rest) = .openObject :: Token.ofBytes rest :=
    Token.ofBytes_of_split? rfl
  rcases c with ⟨sub, uid, iss, aud, iat, exp, _ | id⟩
  · simp only [toJson, Value.render, Value.renderMembers, Value.tokens, Value.tokensOfMembers, Value.int, Number.text,
      List.cons_append, List.nil_append, List.append_assoc, opening, Value.ofBytes_encode, Value.ofBytes_colon,
      Value.ofBytes_comma, Token.ofBytes_int (Value.ends_comma _), Token.ofBytes_int ends, close]
  · simp only [toJson, Value.render, Value.renderMembers, Value.tokens, Value.tokensOfMembers, Value.int, Number.text,
      List.cons_append, List.nil_append, List.append_assoc, opening, Value.ofBytes_encode, Value.ofBytes_colon,
      Value.ofBytes_comma, Token.ofBytes_int (Value.ends_comma _), close]

/-- The numbers that can be read back. -/
structure Fits (c : Claims) : Prop where
  userId : IsInt64 c.userId
  issuedAt : IsInt64 c.issuedAt
  expiresAt : IsInt64 c.expiresAt

/-- What follows the number of the end. -/
def endTokens : Option String → List Token
  | none => [.closeObject]
  | some id => [.comma, .ofText "jti", .colon, .ofText id, .closeObject]

theorem tokens_toJson (c : Claims) : c.toJson.tokens =
    .openObject :: .ofText "sub" :: .colon :: .ofText c.subject :: .comma ::
    .ofText "uid" :: .colon :: .number (Literal.ofInt c.userId) :: .comma ::
    .ofText "iss" :: .colon :: .ofText c.issuer :: .comma ::
    .ofText "aud" :: .colon :: .ofText c.audience :: .comma ::
    .ofText "iat" :: .colon :: .number (Literal.ofInt c.issuedAt) :: .comma ::
    .ofText "exp" :: .colon :: .number (Literal.ofInt c.expiresAt) :: endTokens c.tokenId := by
  rcases c with ⟨sub, uid, iss, aud, iat, exp, _ | id⟩
  · rfl
  · rfl

section
open Record Reader

theorem members_end {c : Claims} (small : IsInt64 c.expiresAt) :
    members fields (some c.subject, some c.userId, some c.issuer, some c.audience, some c.issuedAt, none, none, none, ())
      (.ofText "exp" :: .colon :: .number (Literal.ofInt c.expiresAt) :: endTokens c.tokenId) =
    .ok ((some c.subject, some c.userId, some c.issuer, some c.audience, some c.issuedAt, some c.expiresAt,
      c.tokenId.map some, none, ()), []) := by
  rcases c with ⟨sub, uid, iss, aud, iat, exp, _ | id⟩
  · exact members_close rfl (read_map (read_map (read_map (read_map (read_map (read_map (read_int64 small _)))))))
  · refine (members_comma rfl
      (read_map (read_map (read_map (read_map (read_map (read_map (read_int64 small _)))))))).trans ?_
    exact members_close rfl
      (read_map (read_map (read_map (read_map (read_map (read_map (read_map (read_nullable_text _ _))))))))

theorem complete_toJson (c : Claims) : complete fields (some c.subject, some c.userId, some c.issuer, some c.audience,
    some c.issuedAt, some c.expiresAt, c.tokenId.map some, none, ()) =
    some (c.subject, c.userId, c.issuer, c.audience, c.issuedAt, c.expiresAt, c.tokenId, (), ()) := by
  rcases c with ⟨sub, uid, iss, aud, iat, exp, _ | id⟩
  · rfl
  · rfl

theorem read_toJson {c : Claims} (fits : c.Fits) : read fields c.toJson.tokens =
    .ok ((c.subject, c.userId, c.issuer, c.audience, c.issuedAt, c.expiresAt, c.tokenId, (), ()), []) := by
  rw [tokens_toJson]
  refine read_object ?_ (complete_toJson c)
  refine (members_comma rfl (read_map (read_text _ _))).trans ?_
  refine (members_comma rfl (read_map (read_map (read_int64 fits.userId _)))).trans ?_
  refine (members_comma rfl (read_map (read_map (read_map (read_text _ _))))).trans ?_
  refine (members_comma rfl (read_map (read_map (read_map (read_map (read_text _ _)))))).trans ?_
  refine (members_comma rfl (read_map (read_map (read_map (read_map (read_map (read_int64 fits.issuedAt _))))))).trans ?_
  exact members_end fits.expiresAt

theorem read_toJson_error {c : Claims} (large : ¬ c.Fits) : ∃ e, read fields c.toJson.tokens = .error e := by
  rw [tokens_toJson]
  refine read_object_error (members_comma_error rfl (read_map (read_text _ _)) ?_)
  by_cases userId : IsInt64 c.userId
  case neg => exact members_error rfl (read_map_error (read_map_error (read_int64_error userId _)))
  refine members_comma_error rfl (read_map (read_map (read_int64 userId _))) ?_
  refine members_comma_error rfl (read_map (read_map (read_map (read_text _ _)))) ?_
  refine members_comma_error rfl (read_map (read_map (read_map (read_map (read_text _ _))))) ?_
  by_cases issuedAt : IsInt64 c.issuedAt
  case neg =>
    exact members_error rfl (read_map_error (read_map_error (read_map_error (read_map_error (read_map_error
      (read_int64_error issuedAt _))))))
  refine members_comma_error rfl (read_map (read_map (read_map (read_map (read_map (read_int64 issuedAt _)))))) ?_
  have expiresAt : ¬ IsInt64 c.expiresAt := fun small => large ⟨userId, issuedAt, small⟩
  exact members_error rfl (read_map_error (read_map_error (read_map_error (read_map_error (read_map_error (read_map_error
    (read_int64_error expiresAt _)))))))

end

/-- Claims are read back as they were written, if their numbers can be. -/
theorem ofJson?_toJson {c d : Claims} : ofJson? c.toJson.render = some d ↔ c.Fits ∧ c = d := by
  have object : fields.parseObject c.toJson.render = fields.parse c.toJson.render := by
    rw [Record.parseObject, ofBytes_toJson, tokens_toJson]
  rw [ofJson?, object]
  by_cases fits : c.Fits
  · rw [Record.parse_of_read (ofBytes_toJson c) (read_toJson fits)]
    simp [fits]
  · obtain ⟨e, error⟩ := read_toJson_error fits
    rw [Record.parse, ofBytes_toJson, error]
    simp [fits]

theorem isInt64_of_ofJson? {text : Bytes} {c : Claims} (h : ofJson? text = some c) : IsInt64 c.userId := by
  have small {ts rest : List Token} {m : Int} (read : Reader.int64.read ts = .ok (m, rest)) (n : Int)
      (known : some m = some n) : IsInt64 n := Option.some.inj known ▸ Reader.isInt64_of_read read
  have keeps : fields.Keeps fun slots => True ∧ (∀ n, slots.2.1 = some n → IsInt64 n) ∧ True :=
    Record.keeps_cons (P := fun _ => True) (fun _ => trivial)
      (Record.keeps_cons (P := fun slot => ∀ n, slot = some n → IsInt64 n) (Q := fun _ => True) small
        fun _ _ _ _ _ _ _ _ => id)
  rw [ofJson?] at h
  split at h
  · next parsed =>
    cases h
    obtain ⟨⟨subject, userId, others⟩, ⟨-, kept, -⟩, whole⟩ :=
      keeps.parseObject ⟨trivial, (fun _ none => nomatch none), trivial⟩ parsed
    have known := (Record.complete_cons (Record.complete_cons whole).2).1
    exact kept _ (by simpa [Field.required] using known)
  · cases h

end Claims

namespace Header

theorem appends_all : Value.Appends fun key v members => members ++ [(key, v)] := fun _ _ _ _ => rfl

theorem isGood_text : isGood text = true := by
  have parsed : Value.parseAll? text = some (.object [("typ", .string "JWT"), ("alg", .string "HS256")]) :=
    Value.read?_render appends_all ⟨by decide, trivial, trivial, trivial⟩ (by decide)
  rw [isGood, parsed]
  decide +kernel

end Header

namespace Token

theorem isText_encode (bs : Bytes) : Bytes.IsText (Base64.encode .urlSafe bs) :=
  Bytes.isText_of_ascii fun _ mem => Base64.forall_mem_encode (P := fun b => b.toNat ≤ 127) (by decide) mem

theorem dot_notMem_encode (bs : Bytes) : dot ∉ Base64.encode .urlSafe bs := fun mem =>
  Base64.forall_mem_encode (P := fun b => b ≠ dot) (by decide) mem rfl

theorem ofText_sign (secret : Bytes) (c : Claims) : Bytes.ofText (sign secret c) =
    Base64.encode .urlSafe Header.text ++ dot :: (Base64.encode .urlSafe c.toJson.render ++ dot ::
      Base64.encode .urlSafe (Hash.Sha256.hmac secret (body c))) := by
  have text : Bytes.IsText [dot] := Bytes.isText_ofText "."
  have whole := (((isText_encode Header.text).append (text.append (isText_encode c.toJson.render))).append
    (text.append (isText_encode (Hash.Sha256.hmac secret (body c))))).ofText_text?
  simpa [sign, toText, body] using whole

/-- What holds of every digit and of the dot holds of all that a token is made of. -/
theorem forall_mem_sign {P : UInt8 → Prop} (digits : ∀ i : Fin 64, P (Base64.Alphabet.urlSafe.digit (UInt8.ofNat i)))
    (between : P dot) (secret : Bytes) (c : Claims) : ∀ b ∈ Bytes.ofText (sign secret c), P b := by
  intro b mem
  simp only [ofText_sign, List.mem_append, List.mem_cons] at mem
  rcases mem with header | rfl | claims | rfl | signature
  · exact Base64.forall_mem_encode digits header
  · exact between
  · exact Base64.forall_mem_encode digits claims
  · exact between
  · exact Base64.forall_mem_encode digits signature

theorem space_notMem_sign (secret : Bytes) (c : Claims) : ' ' ∉ (sign secret c).toList := by
  have ascii := forall_mem_sign (P := fun b => b.toNat ≤ 127) (by decide) (by decide) secret c
  have tight := forall_mem_sign (P := fun b => Char.ofUInt8 b ≠ ' ') (by decide) (by decide) secret c
  have letters := Bytes.ofText_inj (Bytes.ofText_ofList_ascii ascii)
  rw [← letters, String.toList_ofList]
  intro mem
  obtain ⟨b, among, space⟩ := List.mem_map.1 mem
  exact tight b among space

theorem sign_ne_empty (secret : Bytes) (c : Claims) : sign secret c ≠ "" := by
  intro empty
  have bytes := ofText_sign secret c
  rw [empty] at bytes
  exact absurd bytes.symm (List.append_ne_nil_of_right_ne_nil _ (List.cons_ne_nil _ _))

/-- A token opens with the keys that give its body the same tag. -/
theorem open?_sign {key secret : Bytes} {c d : Claims} : open? key (sign secret c) = some d ↔
    Hash.Sha256.hmac key (body c) = Hash.Sha256.hmac secret (body c) ∧ c.Fits ∧ c = d := by
  have pieces : Bytes.splitAt dot (Bytes.ofText (sign secret c)) = [Base64.encode .urlSafe Header.text,
      Base64.encode .urlSafe c.toJson.render, Base64.encode .urlSafe (Hash.Sha256.hmac secret (body c))] := by
    rw [ofText_sign, Bytes.splitAt_append (dot_notMem_encode _), Bytes.splitAt_append (dot_notMem_encode _),
      Bytes.splitAt_of_notMem (dot_notMem_encode _)]
  have read (bs : Bytes) := Base64.decode?_encode Base64.sound_urlSafe bs
  have opened : open? key (sign secret c) =
      if Hash.Sha256.hmac key (body c) = Hash.Sha256.hmac secret (body c) then Claims.ofJson? c.toJson.render
      else none := by
    simp only [open?, pieces, read, Header.isGood_text, Option.bind_eq_bind, Option.bind_some, ite_not]
    rfl
  rw [opened]
  split_ifs with same
  · simp [same, Claims.ofJson?_toJson]
  · simp [same]

theorem isInt64_of_open? {secret : Bytes} {token : String} {c : Claims} (h : open? secret token = some c) :
    IsInt64 c.userId := by
  unfold open? at h
  split at h
  · obtain ⟨signature, -, h⟩ := Option.bind_eq_some_iff.1 h
    split at h
    · cases h
    · obtain ⟨header, -, h⟩ := Option.bind_eq_some_iff.1 h
      split at h
      · cases h
      · obtain ⟨claims, -, h⟩ := Option.bind_eq_some_iff.1 h
        exact Claims.isInt64_of_ofJson? h
  · cases h

end Token
end Accounts.Session
