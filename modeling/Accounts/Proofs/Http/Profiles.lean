import Accounts.Proofs.Http.Sessions
import Accounts.Proofs.Json.Objects
import Accounts.Proofs.Run.Profiles
import Accounts.Proofs.Run.Steps
import Accounts.Proofs.Time.Lenient
/-! Profiles that are read and written back. Main statement: the object that a user is answered with, sent back as the
new profile, changes nothing of the user but what the birthday has below a millisecond, and sent back once more it
changes nothing but the time of the change; unless it is longer than a body may be. -/
namespace Accounts
open Json Time

/-- The profile with its birthday in whole milliseconds. -/
def Profile.truncated (p : Profile) : Profile := { p with birthday := p.birthday.map Timestamp.truncated }

theorem Profile.truncated_truncated (p : Profile) : p.truncated.truncated = p.truncated := by
  have birthday :
      (p.birthday.map Timestamp.truncated).map Timestamp.truncated = p.birthday.map Timestamp.truncated := by
    rw [Option.map_map]
    exact congrArg (Option.map · p.birthday) (funext Timestamp.truncated_truncated)
  simp only [truncated, birthday]

theorem Profile.Sound.truncated {p : Profile} (h : p.Sound) : p.truncated.Sound where
  addressed := h.addressed
  dated d mem := by
    obtain ⟨d, given, rfl⟩ := Option.mem_map.1 mem
    exact Timestamp.isValid_truncated (h.dated d given)

/-- The user once the profile is written back. -/
def User.rewritten (now : Instant) (u : User) : User := u.withProfile u.profile.truncated now

theorem User.rewritten_rewritten (u : User) (now later : Instant) :
    (u.rewritten now).rewritten later = { u.rewritten now with updatedAt := later } := by
  have same : (u.rewritten now).profile.truncated = u.profile.truncated := u.profile.truncated_truncated
  rw [rewritten, same]
  rfl

/-- The state with this row in the place of the user's. -/
def World.withUser (w : World) (row : User) : World := ⟨.memory (w.tables.withUser row), w.denied⟩

namespace Http

/-! ### Profiles in bodies -/

namespace Body

theorem yields_birthday : (Field.nullable "birthday" timestamp).Yields fun o => ∀ d ∈ o, d.isValid = true where
  read := by
    rintro ts rest _ read d rfl
    obtain ⟨text, -, known⟩ := Reader.read_refine_eq_ok.1 (Reader.read_nullable_eq_ok read)
    exact Lenient.isValid_of_parse? known
  absent := by
    rintro _ ⟨⟩ d none
    cases none
  cut := nofun

theorem yields_details : detailFields.Yields fun c => ∀ d ∈ c.2.1, d.isValid = true :=
  (Record.yields_cons (Field.yields_any _) (Record.yields_cons yields_birthday (Record.yields_any _))).mono
    fun _ known => known.2.1

theorem dated_of_profile {text : Bytes} {p : Profile} (h : profile text = .ok p) : p.Dated := by
  have yields := Record.yields_cons (Field.yields_any (.required "email" .text)) <|
    Record.yields_cons (Field.yields_any (.required "name" .text)) yields_details
  obtain ⟨c, parsed, rfl⟩ := map_eq_ok h
  exact (yields.parse parsed).2.2

theorem dated_of_registration {text : Bytes} {r : Action.Registration} (h : registration text = .ok r) :
    r.profile.Dated := by
  have yields := Record.yields_cons (Field.yields_any (.required "username" .text)) <|
    Record.yields_cons (Field.yields_any (.required "password" .text)) <|
    Record.yields_cons (Field.yields_any (.required "email" .text)) <|
    Record.yields_cons (Field.yields_any (optionalText "name")) yields_details
  obtain ⟨c, parsed, rfl⟩ := map_eq_ok h
  exact (yields.parse parsed).2.2.2.2

/-- From a user's own object the profile is read, in whole milliseconds. -/
theorem profile_of_toJson {user : User} (dated : user.profile.Dated) {members sent : List (String × Value)}
    (told : user.toJson = .object members) (same : sent.Perm members) {body : Bytes}
    (text : (Value.object sent).Text body) : profile body = .ok user.profile.truncated := by
  obtain rfl := (Value.object.inj told).symm
  have told {m : String × Value} (mem : m ∈ _) : m ∈ sent := same.mem_iff.2 mem
  have once : (sent.map (·.1)).Nodup := (same.map _).nodup_iff.2 (by simp)
  have birthday : timestamp.nullable.Takes (.ofOption (fun t => .string t.text) user.profile.birthday)
      (user.profile.birthday.map Timestamp.truncated) := by
    cases known : user.profile.birthday with
    | none => exact Reader.takes_null _
    | some d =>
      have read : Lenient.parse? d.text = some d.truncated := Lenient.parse?_text (dated d known)
      exact ((Reader.takes_text d.text).refine read).nullable nofun
  have gives : Record.Gives sent updateFields (Record.vacant updateFields) (user.profile.email, user.profile.name,
      user.profile.documentId, user.profile.birthday.map Timestamp.truncated, user.profile.gender,
      user.profile.permanentAddress, user.profile.phoneNumber, ()) :=
    ⟨.member (told (by simp [Field.required])) (Reader.takes_text _),
      .member (told (by simp [Field.required])) (Reader.takes_text _),
      .member (told (by simp [optionalText, Field.withDefault])) (Reader.takes_text _),
      .member (told (by simp [Field.nullable])) birthday,
      .member (told (by simp [Field.withDefault])) (Reader.takes_flag _),
      .member (told (by simp [optionalText, Field.withDefault])) (Reader.takes_text _),
      .member (told (by simp [optionalText, Field.withDefault])) (Reader.takes_text _), trivial⟩
  have parsed := gives.parse (by decide) once text
  rw [profile, parsed]
  rfl

end Body

theorem read_of_body {α : Type} {r : Request} {read : Bytes → Except Fault α} {a : α}
    (h : Handler.body r read = .ok a) : read r.body = .ok a := by
  unfold Handler.body at h
  split at h
  · cases h
  · split at h
    · cases h
    · split at h
      · next given =>
        cases h
        exact given
      · cases h
      · cases h

theorem Endpoint.dated_of_demand {service : Service} {v : Visit} {who : Except Response Identity} {e : Endpoint}
    {u : UseCase} (wants : e.demand service v who = .ok u) : u.Dated := by
  cases e with
  | healthz | readyz => cases wants
  | register =>
    obtain ⟨r, given, wants⟩ := bind_eq_ok wants
    obtain rfl := Except.ok.inj wants
    exact Body.dated_of_registration (read_of_body given)
  | updateUser escaped =>
    obtain ⟨id, known, wants⟩ := bind_eq_ok wants
    obtain ⟨name, -, wants⟩ := bind_eq_ok wants
    obtain ⟨profile, given, wants⟩ := bind_eq_ok wants
    obtain ⟨-, rfl⟩ := owner_bind_eq_ok.1 wants
    exact Body.dated_of_profile (read_of_body given)
  | changePassword escaped =>
    obtain ⟨id, -, wants⟩ := bind_eq_ok wants
    obtain ⟨name, -, wants⟩ := bind_eq_ok wants
    obtain ⟨passwords, -, wants⟩ := bind_eq_ok wants
    obtain ⟨-, rfl⟩ := owner_bind_eq_ok.1 wants
    trivial
  | deleteUser escaped =>
    obtain ⟨id, -, wants⟩ := bind_eq_ok wants
    obtain ⟨name, -, wants⟩ := bind_eq_ok wants
    obtain ⟨-, rfl⟩ := owner_bind_eq_ok.1 wants
    trivial
  | listUsers | getUser =>
    obtain ⟨id, -, wants⟩ := bind_eq_ok wants
    obtain ⟨a, -, wants⟩ := bind_eq_ok wants
    obtain rfl := Except.ok.inj wants
    trivial
  | _ =>
    obtain ⟨a, -, wants⟩ := bind_eq_ok wants
    obtain rfl := Except.ok.inj wants
    trivial

/-- Every use case that was begun was asked for by a request. -/
def Visited (service : Service) (issuer : Issuer) (moves : List Move) : Prop :=
  ∀ u, .start u ∈ moves → ∃ v : Visit, v.wants service issuer = .ok u

theorem Visited.sound {service : Service} {issuer : Issuer} {mail : MailAction} {moves : List Move}
    (h : Visited service issuer moves) : (Running.run issuer mail moves).world.tables.Sound := by
  refine Running.sound_run fun u mem => ?_
  obtain ⟨v, wants⟩ := h u mem
  obtain ⟨e, -, demanded⟩ := Visit.demand_of_wants wants
  exact e.dated_of_demand demanded

/-! ### Reading and writing back -/

namespace Visit

/-- A request of anybody who is known for the user of this name. -/
structure Reads (issuer : Issuer) (v : Visit) (username : String) : Prop where
  known : ∃ who, v.caller issuer = .ok who
  routed : ∃ escaped, route v.request = .endpoint (.getUser escaped) ∧ Handler.username escaped = .ok username

/-- The owner's request to change the profile into what an answer tells: the object is spelled in any way, with its
members in any order. -/
structure WritesBack (issuer : Issuer) (v : Visit) (username : String) (answer : Response) : Prop where
  owner : ∃ who, v.caller issuer = .ok who ∧ who.username = username
  routed : ∃ escaped, route v.request = .endpoint (.updateUser escaped) ∧ Handler.username escaped = .ok username
  typed : Handler.hasJson v.request = true
  body : ∃ members sent, answer.body = .json (.object members) ∧ sent.Perm members ∧
    (Value.object sent).Text v.request.body

/-- What comes of a request that has the user's row rewritten. It is refused if its body is too long. -/
structure Rewrites (service : Service) (issuer : Issuer) (mail : MailAction) (w : World) (v : Visit) (row : User) :
    Prop where
  written : v.request.body.length ≤ Handler.maxBody →
    v.serve service issuer mail w = (finish v.request (.ofJson 200 row.toJson), w.withUser row)
  tooLong : Handler.maxBody < v.request.body.length →
    v.serve service issuer mail w = (finish v.request (.rejected 413), w)

end Visit

theorem json_of_finish {r : Request} {status : Nat} {json json' : Value}
    (h : (finish r (.ofJson status json)).body = .json json') : json = json' := by
  simp only [finish, Response.ofJson] at h
  split at h
  · cases h
  · exact Body.json.inj h

/-- Every request for the user is answered with this row, and changes nothing. -/
def Shows (service : Service) (issuer : Issuer) (mail : MailAction) (w : World) (user : User) : Prop :=
  ∀ v : Visit, v.Reads issuer user.username →
    v.serve service issuer mail w = (finish v.request (.ofJson 200 user.toJson), w)

/-- A user who is stored in memory, and whose profile may be written as it is. -/
structure Held (w : World) (user : User) : Prop where
  memory : w.store = .memory w.tables
  consistent : w.tables.Consistent
  stored : user ∈ w.tables.users.values
  sound : user.Sound
  called : user.profile.name ≠ ""

namespace Held
variable {w : World} {user : User} (h : Held w user)
include h

theorem rewritten (now : Instant) : Held (w.withUser (user.rewritten now)) (user.rewritten now) where
  memory := rfl
  consistent := h.consistent.withUser rfl h.stored
  stored := h.consistent.mem_withUser h.stored
  sound := ⟨h.sound.named, h.sound.profile.truncated⟩
  called := h.called

theorem exists_eq : ∃ t denied, w = ⟨.memory t, denied⟩ := ⟨w.tables, w.denied, by rw [← h.memory]⟩

variable (service : Service) {issuer : Issuer} (mail : MailAction)

theorem shows : Shows service issuer mail w user := by
  rintro v ⟨⟨who, known⟩, escaped, routed, named⟩
  obtain ⟨t, denied, rfl⟩ := h.exists_eq
  have found : t.userByName? user.username = some user := h.consistent.userByName?_of_mem h.stored
  have wants : v.wants service issuer = .ok (.getUser user.username) := by
    rw [wants_of_known routed known, Endpoint.demand, named]
    rfl
  rw [Visit.serve_of_wants mail wants, UseCase.perform_getUser found]
  rfl

/-- What an answer tells of the user is written, in whole milliseconds. -/
theorem rewrites {v : Visit} {answer : Response} (writes : v.WritesBack issuer user.username answer)
    (told : ∀ json, answer.body = .json json → user.toJson = json) :
    v.Rewrites service issuer mail w (user.rewritten v.now) := by
  obtain ⟨t, denied, rfl⟩ := h.exists_eq
  obtain ⟨⟨who, known, owns⟩, ⟨escaped, routed, named⟩, typed, body⟩ := writes
  refine ⟨fun fits => ?_, fun large => ?_⟩
  · obtain ⟨members, sent, answered, same, text⟩ := body
    have given : Body.profile v.request.body = .ok user.profile.truncated :=
      Body.profile_of_toJson h.sound.profile.dated (told _ answered) same text
    have wants : v.wants service issuer = .ok (.updateProfile user.username user.profile.truncated) := by
      rw [wants_of_known routed known, Endpoint.demand, named, body_eq_ok typed fits given]
      exact owner_bind_eq_ok.2 ⟨owns, rfl⟩
    have called : user.profile.truncated.name ≠ "" := h.called
    have accepted : Tables.answer v.now (.updateProfile user.username user.profile.truncated) t =
        (.ok (user.rewritten v.now), t.withUser (user.rewritten v.now)) :=
      h.consistent.answer_updateProfile rfl h.stored
    rw [Visit.serve_of_wants mail wants, UseCase.perform_updateProfile h.sound.named h.sound.profile.truncated.addressed
      called, accepted]
    rfl
  · have wants : v.wants service issuer = .error (.rejected 413) := by
      rw [wants_of_known routed known, Endpoint.demand, named, body_eq_error typed large]
      rfl
    rw [Visit.serve_memory, wants]

end Held

theorem Visited.held {service : Service} {issuer : Issuer} {mail : MailAction} {moves : List Move}
    (visited : Visited service issuer moves) {user : User}
    (stored : user ∈ (Running.run issuer mail moves).world.tables.users.values) (called : user.profile.name ≠ "") :
    Held (Running.run issuer mail moves).world user where
  memory := Running.world_run issuer mail moves
  consistent := Running.consistent_run issuer mail moves
  stored := stored
  sound := visited.sound user stored
  called := called

/-- A token tells an id that can be written. -/
theorem Visit.isInt64_of_caller {issuer : Issuer} {v : Visit} {who : Identity} (known : v.caller issuer = .ok who) :
    IsInt64 who.userId := by
  unfold caller identify at known
  split at known
  · cases known
  · obtain ⟨c, verified, rfl⟩ := Issuer.checkAccess_eq_ok.1 known
    exact Session.Token.isInt64_of_open? (Issuer.verify_eq_ok.1 verified).1

theorem text_toJson {user : User} (known : IsInt64 user.id) : user.toJson.Text user.toJson.render := by
  have id : InRange user.id := ⟨known.1, Int.le_trans known.2 (by decide)⟩
  have nullable {α : Type} (f : α → String) (o : Option α) :
      (Value.ofOption (fun a => .string (f a)) o).Plain ∧ (Value.ofOption (fun a => .string (f a)) o).depth = 0 := by
    cases o with
    | none => exact ⟨trivial, rfl⟩
    | some a => exact ⟨trivial, rfl⟩
  refine Value.text_render ⟨by simp, ?_⟩ ?_
  · exact ⟨id, trivial, trivial, trivial, trivial, (nullable _ _).1, trivial, trivial, trivial, trivial,
      (nullable _ _).1, trivial, trivial, trivial⟩
  · simp [User.toJson, Value.depth, Value.depthOfMembers, Value.int, (nullable _ _).2, Value.maxDepth]

/-- However the requests were interleaved that have led to this state, for every user with a name: the answer to a
request for the user is the user's object, and changes nothing. Every request of the owner that sends this object back,
whenever it comes and however it is spelled, succeeds and leaves of the user all as it was but the time of the change
and what the birthday has below a millisecond, and of the state all but this row. To send back the new answer changes
nothing more but the time of the change. Only a body that is too long is refused, with no effect. The answer's own bytes
are one way to spell it. And from the text of any timestamp that was read once, the same is read in whole
milliseconds. -/
theorem profile_written_back {service : Service} {issuer : Issuer} (mail : MailAction) {moves : List Move}
    (visited : Visited service issuer moves) {user : User}
    (stored : user ∈ (Running.run issuer mail moves).world.tables.users.values) (called : user.profile.name ≠ "") :
    let w := (Running.run issuer mail moves).world
    Shows service issuer mail w user ∧
    (∀ read patch : Visit, read.Reads issuer user.username →
      patch.WritesBack issuer user.username (read.serve service issuer mail w).1 →
      let row := user.rewritten patch.now
      let after := w.withUser row
      patch.Rewrites service issuer mail w row ∧ (patch.request.body.length ≤ Handler.maxBody →
        Shows service issuer mail after row ∧
        ∀ answer, (answer = (patch.serve service issuer mail w).1 ∨
            ∃ reread : Visit, reread.Reads issuer user.username ∧ answer = (reread.serve service issuer mail after).1) →
          ∀ again : Visit, again.WritesBack issuer user.username answer →
            again.Rewrites service issuer mail after { row with updatedAt := again.now })) ∧
    (∀ v : Visit, v.caller issuer = .ok ⟨user.id, user.username⟩ → user.toJson.Text user.toJson.render) ∧
    ∀ (text : String) (d : Timestamp), Lenient.parse? text = some d → Lenient.parse? d.text = some d.truncated := by
  intro w
  have held : Held w user := visited.held stored called
  refine ⟨held.shows service mail, fun read patch reads writes => ?_, fun v known => ?_, fun text d read =>
    Lenient.parse?_text (Lenient.isValid_of_parse? read)⟩
  · have later := held.rewritten patch.now
    rw [held.shows service mail read reads] at writes
    have patched := held.rewrites service mail writes fun json => json_of_finish
    refine ⟨patched, fun fits => ⟨later.shows service mail, fun answer answers again writes => ?_⟩⟩
    have told : ∀ json, answer.body = .json json → (user.rewritten patch.now).toJson = json := by
      rcases answers with rfl | ⟨reread, reads, rfl⟩
      · rw [patched.written fits]
        exact fun json => json_of_finish
      · rw [later.shows service mail reread reads]
        exact fun json => json_of_finish
    have served := later.rewrites service mail writes told
    rwa [User.rewritten_rewritten] at served
  · exact text_toJson (Visit.isInt64_of_caller known)

/-! ### A birthday inside a leap second -/

namespace Sample
open Accounts.Sample

/-- Somebody who was born between two days registers as ann. -/
def born : Visit := ⟨1000000000, tokenA, salt, "0", posted "/users"
  [("username", .string "ann"), ("password", .string "secret"), ("email", .string "ann@x"), ("name", .string "Ann"),
    ("birthday", .string "2016-12-31T23:59:60.9996Z")]⟩

def leapRegistration : Action.Registration :=
  { registration with profile := { registration.profile with birthday := some ⟨1483228799, 1999600000⟩ } }

def leapAnn : User := User.fresh ⟨"ann", leapRegistration.profile⟩ 1000000000 1

def leapMoves : List Move :=
  [.start (.register service.tokenTtl salt tokenA leapRegistration), .step 0 1000000000, .step 0 1000000000]

theorem wants_born : born.wants service issuer = .ok (.register service.tokenTtl salt tokenA leapRegistration) := by
  have at_ : route born.request = .endpoint .register := by decide +kernel
  have given : Handler.body born.request Body.registration = .ok leapRegistration := body_posted (by decide +kernel) (by decide +kernel)
  rw [Visit.wants_of_route service issuer at_, Endpoint.demand, given]
  rfl

theorem visited_leapMoves : Visited service issuer leapMoves := by
  intro u mem
  obtain rfl : u = .register service.tokenTtl salt tokenA leapRegistration := by simpa [leapMoves] using mem
  exact ⟨born, wants_born⟩

def profiled (p : Profile) : Action.Registration := { registration with profile := p }

/-- Whoever registers as ann with this profile is stored. -/
theorem stored_profiled {p : Profile} (addressed : p.email ≠ "") :
    User.fresh ⟨"ann", p⟩ 1000000000 1 ∈ (Running.run issuer noMail
      [.start (.register service.tokenTtl salt tokenA (profiled p)), .step 0 1000000000,
        .step 0 1000000000]).world.tables.users.values := by
  obtain ⟨hash, hashed⟩ := exists_hash salt
  have hashed : Password.hash salt (profiled p).password = .ok hash := hashed
  have named : registration.username ≠ "" ∧ registration.password ≠ "" := by decide
  change User.fresh ⟨"ann", p⟩ 1000000000 1 ∈ ([Move.step 0 1000000000, .step 0 1000000000].foldl
    (Running.after issuer noMail) ⟨⟨.memory .empty, []⟩, [⟨.register service.tokenTtl salt tokenA (profiled p),
      (UseCase.register service.tokenTtl salt tokenA (profiled p)).action.run⟩], [], []⟩).world.tables.users.values
  rw [UseCase.action_register (r := profiled p) named.1 named.2 addressed hashed]
  exact List.mem_singleton_self _

theorem stored_leapAnn : leapAnn ∈ (Running.run issuer noMail leapMoves).world.tables.users.values :=
  stored_profiled (p := leapRegistration.profile) (by decide)

def readingAnn : Visit := asking "GET" "ann" "/users/ann"

/-- Ann changes the profile. -/
def patching (now : Instant) (body : Bytes) : Visit where
  now
  token := tokenA
  salt := []
  jti := "3"
  request := {
    method := "PATCH"
    target := "/users/ann"
    headers := readingAnn.request.headers ++ [("content-type", "application/json")]
    body }

theorem reads_readingAnn : readingAnn.Reads issuer "ann" where
  known := ⟨_, caller_asking _ _ _⟩
  routed := ⟨Percent.segment (Bytes.ofText "ann"), by decide +kernel, username_of_spells (Percent.spells_segment _)⟩

theorem bearer_patching (now : Instant) (body : Bytes) :
    (patching now body).request.bearer? = readingAnn.request.bearer? := by
  have lower : "authorization".map Char.toLower = "authorization" := by decide +kernel
  have header : (patching now body).request.header? "authorization" =
      readingAnn.request.header? "authorization" := by
    simp [Request.header?, patching, readingAnn, asking, lower]
  rw [Request.bearer?, header]
  rfl

theorem hasJson_patching (now : Instant) (body : Bytes) : Handler.hasJson (patching now body).request = true := by
  have lower : "authorization".map Char.toLower = "authorization" ∧
      "content-type".map Char.toLower = "content-type" := by decide +kernel
  have header : (patching now body).request.header? "content-type" = some "application/json" := by
    simp [Request.header?, patching, readingAnn, asking, lower.1, lower.2]
  rw [Handler.hasJson, header]
  decide +kernel

theorem caller_patching {now : Instant} (live : Issuer.Live now (wholeSeconds (1000000000 + issuer.settings.accessTtl)))
    (body : Bytes) : (patching now body).caller issuer = .ok ⟨1, "ann"⟩ := by
  have bearer : readingAnn.request.bearer? = _ := bearer_asking "GET" "ann" "/users/ann"
  rw [Visit.caller, Visit.identify, bearer_patching, bearer]
  have id : IsInt64 1 := ⟨by decide, by decide⟩
  have issued : IsInt64 (wholeSeconds 1000000000) := ⟨by decide, by decide⟩
  have ends : IsInt64 (wholeSeconds (1000000000 + issuer.settings.accessTtl)) := ⟨by decide, by decide⟩
  exact Issuer.checkAccess_access.2 ⟨⟨id, issued, ends⟩, live, rfl⟩

theorem writesBack_patching {now : Instant}
    (live : Issuer.Live now (wholeSeconds (1000000000 + issuer.settings.accessTtl))) {answer : Response}
    {row : User} (answered : answer.body = .json row.toJson) (known : IsInt64 row.id) :
    (patching now row.toJson.render).WritesBack issuer "ann" answer where
  owner := ⟨_, caller_patching live _, rfl⟩
  routed := by
    have routed : route (patching 0 []).request = .endpoint (.updateUser (Percent.segment (Bytes.ofText "ann"))) := by
      decide +kernel
    exact ⟨_, routed, username_of_spells (Percent.spells_segment _)⟩
  typed := hasJson_patching now _
  body := ⟨_, _, answered, .refl _, text_toJson known⟩

/-- Ann after the profile is written back. -/
def roundAnn : User := leapAnn.rewritten 1001000000

theorem profile_written_back_leap :
    Visited service issuer leapMoves ∧ leapAnn ∈ (Running.run issuer noMail leapMoves).world.tables.users.values ∧
    leapAnn.profile.name ≠ "" ∧ leapAnn.profile.birthday = some ⟨1483228799, 1999600000⟩ ∧
    roundAnn.profile.birthday = some ⟨1483228799, 1999000000⟩ ∧
    let w := (Running.run issuer noMail leapMoves).world
    let patch := patching 1001000000 leapAnn.toJson.render
    let again := patching 1002000000 roundAnn.toJson.render
    let touched := { roundAnn with updatedAt := 1002000000 }
    readingAnn.serve service issuer noMail w = (finish readingAnn.request (.ofJson 200 leapAnn.toJson), w) ∧
    patch.serve service issuer noMail w = (finish patch.request (.ofJson 200 roundAnn.toJson), w.withUser roundAnn) ∧
    again.serve service issuer noMail (w.withUser roundAnn) =
      (finish again.request (.ofJson 200 touched.toJson), (w.withUser roundAnn).withUser touched) := by
  have called : leapAnn.profile.name ≠ "" := by decide
  have id : IsInt64 1 := ⟨by decide, by decide⟩
  obtain ⟨shows, written, -⟩ := profile_written_back noMail visited_leapMoves stored_leapAnn called
  have read := shows readingAnn reads_readingAnn
  have first : (patching 1001000000 leapAnn.toJson.render).WritesBack issuer "ann"
      (readingAnn.serve service issuer noMail (Running.run issuer noMail leapMoves).world).1 :=
    writesBack_patching ⟨by decide, by decide, by decide⟩ (by rw [read]; rfl) id
  obtain ⟨patched, more⟩ := written readingAnn _ reads_readingAnn first
  have patched := patched.written (by decide +kernel)
  have second : (patching 1002000000 roundAnn.toJson.render).WritesBack issuer "ann"
      ((patching 1001000000 leapAnn.toJson.render).serve service issuer noMail
        (Running.run issuer noMail leapMoves).world).1 :=
    writesBack_patching ⟨by decide, by decide, by decide⟩ (by rw [patched]; rfl) id
  have rewritten := (more (by decide +kernel)).2 _ (.inl rfl) _ second
  exact ⟨visited_leapMoves, stored_leapAnn, called, rfl, rfl, read, patched, rewritten.written (by decide +kernel)⟩

/-! ### A name that is too long to be sent back -/

def letters (n : Nat) : String := String.ofList (List.replicate n 'a')

/-- Somebody registers as ann, under this name. -/
def named (name : String) : Visit := ⟨1000000000, tokenA, salt, "0", posted "/users"
  [("username", .string "ann"), ("password", .string "secret"), ("email", .string "ann@x"), ("name", .string name)]⟩

def namedProfile (name : String) : Profile := { registration.profile with name }

def namedAnn (name : String) : User := User.fresh ⟨"ann", namedProfile name⟩ 1000000000 1

def namedMoves (name : String) : List Move :=
  [.start (.register service.tokenTtl salt tokenA (profiled (namedProfile name))), .step 0 1000000000,
    .step 0 1000000000]

theorem bytes_letters (n : Nat) : Bytes.ofText (letters n) = List.replicate n 'a'.toUInt8 := by
  rw [letters, Bytes.ofText_ofList]
  induction n with
  | zero => rfl
  | succ n ih =>
    rw [List.replicate_succ, List.flatMap_cons, ih]
    rfl

theorem escape_letters (n : Nat) : Quoted.escape (List.replicate n 'a'.toUInt8) = List.replicate n 'a'.toUInt8 := by
  induction n with
  | zero => rfl
  | succ n ih =>
    rw [Quoted.escape] at ih ⊢
    rw [List.replicate_succ, List.flatMap_cons, ih]
    rfl

theorem length_encode_letters (n : Nat) : (Quoted.encode (letters n)).length = (Quoted.encode "").length + n := by
  rw [Quoted.length_encode, Quoted.length_encode, bytes_letters, escape_letters, List.length_replicate]
  exact Nat.add_comm n 2

theorem length_named (n : Nat) :
    (named (letters n)).request.body.length = (named "").request.body.length + n := by
  simp only [named, posted, Value.render, Value.renderMembers, List.length_append, List.length_cons, List.length_nil,
    length_encode_letters]
  omega

theorem length_namedAnn (n : Nat) :
    (namedAnn (letters n)).toJson.render.length = (namedAnn "").toJson.render.length + n := by
  simp only [namedAnn, namedProfile, User.fresh, User.toJson, Value.render, Value.renderMembers, List.length_append,
    List.length_cons, List.length_nil, length_encode_letters]
  omega

theorem registration_named (name : String) :
    Body.registration (named name).request.body = .ok (profiled (namedProfile name)) := by
  have gives : Record.Gives
      [("username", .string "ann"), ("password", .string "secret"), ("email", .string "ann@x"), ("name", .string name)]
      Body.registerFields (Record.vacant Body.registerFields)
      ("ann", "secret", "ann@x", name, "", none, false, "", "", ()) :=
    ⟨.member (by simp [Field.required]) (Reader.takes_text _), .member (by simp [Field.required]) (Reader.takes_text _),
      .member (by simp [Field.required]) (Reader.takes_text _),
      .member (by simp [Body.optionalText, Field.withDefault]) (Reader.takes_text _),
      .absent (by simp [Body.optionalText, Field.withDefault]) rfl, .absent (by simp [Field.nullable]) rfl,
      .absent (by simp [Field.withDefault]) rfl, .absent (by simp [Body.optionalText, Field.withDefault]) rfl,
      .absent (by simp [Body.optionalText, Field.withDefault]) rfl, trivial⟩
  have text := Value.text_render (v := .object
    [("username", .string "ann"), ("password", .string "secret"), ("email", .string "ann@x"), ("name", .string name)])
    ⟨by simp, trivial, trivial, trivial, trivial, trivial⟩ (by simp [Value.depth, Value.depthOfMembers, Value.maxDepth])
  have parsed := gives.parse (by decide) (by simp) text
  rw [Body.registration, named, posted, parsed]
  rfl

theorem visited_namedMoves {name : String} (fits : (named name).request.body.length ≤ Handler.maxBody) :
    Visited service issuer (namedMoves name) := by
  intro u mem
  obtain rfl : u = .register service.tokenTtl salt tokenA (profiled (namedProfile name)) := by simpa [namedMoves] using mem
  have at_ : route (named "").request = .endpoint .register := by decide +kernel
  have at_ : route (named name).request = .endpoint .register := at_
  refine ⟨named name, ?_⟩
  rw [Visit.wants_of_route service issuer at_, Endpoint.demand]
  have given : Handler.body (named name).request Body.registration = .ok (profiled (namedProfile name)) :=
    body_posted fits (registration_named name)
  rw [given]
  rfl

theorem refused_of_long {name : String} (given : name ≠ "") (fits : (named name).request.body.length ≤ Handler.maxBody)
    (large : Handler.maxBody < (namedAnn name).toJson.render.length) :
    let w := (Running.run issuer noMail (namedMoves name)).world
    let patch := patching 1001000000 (namedAnn name).toJson.render
    namedAnn name ∈ w.tables.users.values ∧
    readingAnn.serve service issuer noMail w = (finish readingAnn.request (.ofJson 200 (namedAnn name).toJson), w) ∧
    patch.WritesBack issuer "ann" (readingAnn.serve service issuer noMail w).1 ∧
    patch.serve service issuer noMail w = (finish patch.request (.rejected 413), w) := by
  intro w patch
  have addressed : registration.profile.email ≠ "" := by decide
  have id : IsInt64 1 := ⟨by decide, by decide⟩
  have stored : namedAnn name ∈ w.tables.users.values := stored_profiled (p := namedProfile name) addressed
  have held : Held w (namedAnn name) := (visited_namedMoves fits).held stored given
  have read := held.shows service noMail readingAnn reads_readingAnn
  have writes : patch.WritesBack issuer "ann" (readingAnn.serve service issuer noMail w).1 :=
    writesBack_patching ⟨by decide, by decide, by decide⟩ (by rw [read]; rfl) id
  rw [read] at writes
  exact ⟨stored, read, read ▸ writes, (held.rewrites service noMail writes fun json => json_of_finish).tooLong large⟩

/-- The name came in a body that is just short enough. The answer tells more of the user, and is too long. -/
theorem long_name_not_written_back :
    let name := letters 2097000
    let w := (Running.run issuer noMail (namedMoves name)).world
    let patch := patching 1001000000 (namedAnn name).toJson.render
    Visited service issuer (namedMoves name) ∧ name ≠ "" ∧ namedAnn name ∈ w.tables.users.values ∧
    readingAnn.serve service issuer noMail w = (finish readingAnn.request (.ofJson 200 (namedAnn name).toJson), w) ∧
    patch.WritesBack issuer "ann" (readingAnn.serve service issuer noMail w).1 ∧
    patch.serve service issuer noMail w = (finish patch.request (.rejected 413), w) := by
  have given : letters 2097000 ≠ "" := by
    intro empty
    have size := congrArg (fun s => (Quoted.encode s).length) empty
    have longer : (Quoted.encode (letters 2097000)).length = (Quoted.encode "").length := size
    rw [length_encode_letters] at longer
    omega
  have fits : (named (letters 2097000)).request.body.length ≤ Handler.maxBody := by
    have short : (named "").request.body.length = 64 := by decide +kernel
    rw [length_named, short]
    decide
  have large : Handler.maxBody < (namedAnn (letters 2097000)).toJson.render.length := by
    have more : 153 ≤ (namedAnn "").toJson.render.length := by decide +kernel
    have limit : Handler.maxBody = 2097152 := rfl
    rw [length_namedAnn, limit]
    omega
  exact ⟨visited_namedMoves fits, given, refused_of_long given fits large⟩

end Sample

end Http
end Accounts
