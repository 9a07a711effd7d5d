import Accounts.Mail.Mailer
import Accounts.Proofs.Http.Paths
import Accounts.Proofs.Json.Record
import Accounts.Proofs.Json.Texts
import Accounts.Proofs.Text.Form
import Mathlib.Data.List.TakeWhile
/-! The link in a mail. Main statement: its query holds the token that was mailed, whichever characters this has, and
to follow the link is to post the token. -/
namespace Accounts
open Json

/-! ### The query of a link -/

theorem Bytes.notMem_ofText {c : Char} (ascii : c.toNat ≤ 127) {s : String} (free : c ∉ s.toList) :
    c.toUInt8 ∉ ofText s := by
  rw [ofText_eq_flatMap, List.mem_flatMap]
  rintro ⟨d, mem, byte⟩
  have same : c.toUInt8.toNat = c.toNat := toNat_toUInt8 ascii
  by_cases plain : d.toNat ≤ 127
  · rw [encodeChar_of_le plain, List.mem_singleton] at byte
    have : c.toNat = d.toNat := by
      rw [← same, byte, UInt8.toNat_ofNat']
      omega
    exact free (Char.toNat_inj.1 this ▸ mem)
  · have := toNat_of_mem_encodeChar (by omega) byte
    omega

namespace Mail

/-- What stands in a link between its first question mark and a fragment. -/
def linkQuery (link : String) : Bytes :=
  (((Bytes.ofText link).takeWhile (· ≠ '#'.toUInt8)).dropWhile (· ≠ '?'.toUInt8)).drop 1

theorem ofText_linkToken (token : String) : Bytes.ofText (linkToken token) = Percent.encode (Bytes.ofText token) :=
  (Percent.isText_encode _).ofText_text?

theorem body_link (base token : String) : body token (some base) =
    "Hello,\n\nPlease verify your account using the information below:\n\nToken: " ++ token ++ "\n" ++
      "Link: " ++ link base token ++ "\n\nThank you.\n" :=
  congrArg (· ++ "\n\nThank you.\n") String.append_assoc.symm

variable {place : String} (noQuery : '?' ∉ place.toList) (noFragment : '#' ∉ place.toList) (token : String)
include noQuery noFragment

theorem linkQuery_link :
    linkQuery (link (place ++ "?token=") token) = Bytes.ofText "token=" ++ Percent.encode (Bytes.ofText token) := by
  have unmarked : ∀ b ∈ Bytes.ofText place, decide (b ≠ '?'.toUInt8) = true := fun b mem =>
    decide_eq_true fun same => Bytes.notMem_ofText (by decide) noQuery (same ▸ mem)
  have unended : ∀ b ∈ Bytes.ofText place ++ (Bytes.ofText "?token=" ++ Percent.encode (Bytes.ofText token)),
      decide (b ≠ '#'.toUInt8) = true := by
    intro b mem
    refine decide_eq_true ?_
    rintro rfl
    rcases List.mem_append.1 mem with mem | mem
    · exact Bytes.notMem_ofText (by decide) noFragment mem
    · rcases List.mem_append.1 mem with mem | mem
      · exact absurd mem (by decide)
      · exact (Percent.mem_encode mem).2 (by decide)
  have spelled : Bytes.ofText (link (place ++ "?token=") token) =
      Bytes.ofText place ++ (Bytes.ofText "?token=" ++ Percent.encode (Bytes.ofText token)) := by
    rw [link, Bytes.ofText_append, Bytes.ofText_append, ofText_linkToken, List.append_assoc]
  rw [linkQuery, spelled, List.takeWhile_eq_self_iff.2 unended, List.dropWhile_append_of_pos unmarked]
  rfl

end Mail

namespace Http
open Handler

/-- How many bytes the target of a request may have. -/
def maxTarget : Nat := 65534

/-- A request for the page that a link leads to. -/
structure Follows (link : String) (r : Request) : Prop where
  method : r.method = "GET"
  path : r.path = Bytes.ofText "/users/verify"
  query : r.query = Mail.linkQuery link

/-- A request with this token in its body. -/
structure Posts (token : String) (r : Request) : Prop where
  method : r.method = "POST"
  path : r.path = Bytes.ofText "/users/verify"
  typed : hasJson r = true
  fits : r.body.length ≤ maxBody
  body : (Value.object [("token", .string token)]).Text r.body

section
variable {r : Request} {link token : String}

theorem segments_verify (path : r.path = Bytes.ofText "/users/verify") : r.segments = [Bytes.ofText "users", taken] := by
  rw [Request.segments, path]
  rfl

theorem Follows.route (h : Follows link r) : Http.route r = .endpoint .verifyLink :=
  route_of_resource (segments_verify h.path) resource?_taken (by rw [h.method]; rfl) rfl

theorem Posts.route (h : Posts token r) : Http.route r = .endpoint .verifyBody :=
  route_of_resource (segments_verify h.path) resource?_taken (by rw [h.method]; rfl) rfl

theorem token_of_text {text : Bytes} (h : (Value.object [("token", .string token)]).Text text) :
    Body.token text = .ok token := by
  obtain ⟨name, inside, named, read, tokens⟩ := h.writes.tokens_string
  have members : Record.members Body.verifyFields (Record.vacant Body.verifyFields)
      [.string name, .colon, .string inside, .closeObject] = .ok ((some token, ()), []) :=
    Record.members_last named rfl (Reader.read_map (Reader.read_string read _))
  have parsed := Record.parse_of_read tokens (Record.read_object members rfl)
  rw [Body.token, parsed]
  rfl

/-- The token of a link that can be followed fits into a body. -/
theorem length_render_token_le {place : String} (short : (Bytes.ofText (Mail.link place token)).length ≤ maxTarget) :
    (Value.object [("token", .string token)]).render.length ≤ maxBody := by
  have linked : (Percent.encode (Bytes.ofText token)).length ≤ maxTarget := by
    rw [Mail.link, Bytes.ofText_append, Mail.ofText_linkToken, List.length_append] at short
    omega
  have spelled : (Value.object [("token", .string token)]).render =
      '{'.toUInt8 :: (Quoted.encode "token" ++ ':'.toUInt8 :: Quoted.encode token) ++ ['}'.toUInt8] := rfl
  have name : (Quoted.encode "token").length = 7 := by decide
  have value : (Quoted.encode token).length ≤ 6 * maxTarget + 2 := by
    have escaped := Quoted.length_escape_le (Bytes.ofText token)
    have plain := Percent.length_le_encode (Bytes.ofText token)
    rw [Quoted.length_encode]
    omega
  have sizes : 6 * maxTarget + 12 ≤ maxBody := by decide
  rw [spelled]
  simp only [List.length_append, List.length_cons, List.length_nil, name]
  omega

theorem queryToken_of_query (query : r.query = Bytes.ofText "token=" ++ Percent.encode (Bytes.ofText token)) :
    queryToken r = .ok token := by
  have pairs : Percent.pairs r.query = [("token", token)] := by
    have field := Percent.pairs_encode (Bytes.ofText "token") (Bytes.ofText token)
    rw [Bytes.lossyText_ofText, Bytes.lossyText_ofText] at field
    rw [query]
    exact field
  rw [queryToken, pairs]
  rfl

variable {σ : Type} (answer : (e : Effect) → σ → e.Reply × σ) (service : Service) (draws : Draws) (s : σ)

/-- The response to whoever brings the token, and what it brings about. -/
def verified (token : String) : Response × σ := settled (Program.run answer (verify token).run s)

theorem run_respond_of_verify {e : Endpoint} (at_ : route r = .endpoint e)
    (asks : endpoint service draws r e = verify token) (whole : r.method ≠ "HEAD") :
    Program.run answer (respond service draws r) s =
      ({ (verified answer s token).1 with requestId := r.header? "x-request-id" }, (verified answer s token).2) := by
  unfold respond
  rw [at_]
  refine (run_finish r (endpoint service draws r e)).trans ?_
  rw [asks, finish, if_neg whole]
  rfl

theorem Follows.run_respond (h : Follows link r) (query : queryToken r = .ok token) :
    Program.run answer (respond service draws r) s =
      ({ (verified answer s token).1 with requestId := r.header? "x-request-id" }, (verified answer s token).2) := by
  have asks : endpoint service draws r .verifyLink = verify token := by
    rw [endpoint, verifyLink, query]
    rfl
  exact run_respond_of_verify answer service draws s h.route asks (by rw [h.method]; decide)

theorem Posts.run_respond (h : Posts token r) :
    Program.run answer (respond service draws r) s =
      ({ (verified answer s token).1 with requestId := r.header? "x-request-id" }, (verified answer s token).2) := by
  have asks : endpoint service draws r .verifyBody = verify token := by
    rw [endpoint, verifyBody, body_eq_ok h.typed h.fits (token_of_text h.body)]
    rfl
  exact run_respond_of_verify answer service draws s h.route asks (by rw [h.method]; decide)

end

/-- The mail holds the link, the query of the link holds the token, and whoever follows the link gets what whoever
posts the token gets, whatever each step answers. The token of any link that can be followed can be posted. -/
theorem followed_as_posted {place : String} (noQuery : '?' ∉ place.toList) (noFragment : '#' ∉ place.toList)
    (token : String) :
    (∃ before, Mail.body token (some (place ++ "?token=")) =
      before ++ "Link: " ++ Mail.link (place ++ "?token=") token ++ "\n\nThank you.\n") ∧
    (∀ r : Request, r.query = Mail.linkQuery (Mail.link (place ++ "?token=") token) → queryToken r = .ok token) ∧
    (∀ follow post : Request, Follows (Mail.link (place ++ "?token=") token) follow → Posts token post →
      ∀ {σ : Type} (answer : (e : Effect) → σ → e.Reply × σ) (service : Service) (draws draws' : Draws) (s : σ),
        ∃ (response : Response) (after : σ),
          Program.run answer (respond service draws follow) s =
            ({ response with requestId := follow.header? "x-request-id" }, after) ∧
          Program.run answer (respond service draws' post) s =
            ({ response with requestId := post.header? "x-request-id" }, after)) ∧
    ((Bytes.ofText (Mail.link (place ++ "?token=") token)).length ≤ maxTarget →
      (Value.object [("token", .string token)]).render.length ≤ maxBody) := by
  have read (r : Request) (query : r.query = Mail.linkQuery (Mail.link (place ++ "?token=") token)) :
      queryToken r = .ok token := queryToken_of_query (query.trans (Mail.linkQuery_link noQuery noFragment token))
  refine ⟨⟨_, Mail.body_link (place ++ "?token=") token⟩, read,
    fun follow post follows posts σ answer service draws draws' s => ?_, length_render_token_le⟩
  exact ⟨_, _, follows.run_respond answer service draws s (read follow follows.query),
    posts.run_respond answer service draws' s⟩

namespace Sample

def place : String := "https://app.example.com/users/verify"

def hardToken : String := "a b+c&d=%#\"é"

/-- The address in full, as a proxy gets it. -/
def follow : Request := ⟨"GET", Mail.link (place ++ "?token=") hardToken, [], []⟩

def post : Request :=
  ⟨"POST", "/users/verify", [("content-type", "application/json")],
    (Json.Value.object [("token", .string hardToken)]).render⟩

end Sample

theorem followed_as_posted_hard :
    '?' ∉ Sample.place.toList ∧ '#' ∉ Sample.place.toList ∧ queryToken Sample.follow = .ok Sample.hardToken ∧
    ∃ response after,
      Program.run (World.answer Sample.issuer 0 Sample.noMail) (respond Sample.service ⟨"", [], ""⟩ Sample.follow)
        ⟨.memory .empty, []⟩ = (response, after) ∧
      Program.run (World.answer Sample.issuer 0 Sample.noMail) (respond Sample.service ⟨"", [], ""⟩ Sample.post)
        ⟨.memory .empty, []⟩ = (response, after) := by
  have noQuery : '?' ∉ Sample.place.toList := by decide
  have noFragment : '#' ∉ Sample.place.toList := by decide
  have follows : Follows (Mail.link (Sample.place ++ "?token=") Sample.hardToken) Sample.follow :=
    ⟨rfl, by decide +kernel, by decide +kernel⟩
  have posts : Posts Sample.hardToken Sample.post :=
    ⟨rfl, by decide +kernel, by decide +kernel, by decide +kernel, Json.Value.text_render ⟨by decide, trivial, trivial⟩ (by decide)⟩
  obtain ⟨-, read, same, -⟩ := followed_as_posted noQuery noFragment Sample.hardToken
  obtain ⟨response, after, first, second⟩ := same _ _ follows posts (World.answer Sample.issuer 0 Sample.noMail)
    Sample.service ⟨"", [], ""⟩ ⟨"", [], ""⟩ ⟨.memory .empty, []⟩
  have unnamed : Sample.post.header? "x-request-id" = Sample.follow.header? "x-request-id" := by decide +kernel
  rw [unnamed] at second
  exact ⟨noQuery, noFragment, read _ follows.query, _, _, first, second⟩

end Http
end Accounts
