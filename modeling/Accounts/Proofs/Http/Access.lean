import Accounts.Proofs.Http.Visit
import Accounts.Proofs.Session.Kinds
import Accounts.Proofs.Store.Accounts
/-! Who may touch an account. A request takes effect by one call at most, and by one about an account only if the
caller has the account's name. Main statement: requests without a good access token touch no account, and others only
that of their caller. -/
namespace Accounts
open Time

/-- The name of the user whose account a use case changes. -/
def UseCase.subject? : UseCase → Option String
  | updateProfile username _ => some username
  | changePassword _ username _ _ => some username
  | deleteAccount username => some username
  | _ => none

theorem UseCase.Commits.subject {now : Instant} {t : Tables} (h : t.Consistent) {u : UseCase} {c : StoreCall}
    (commits : u.Commits now t c) {user : User} (stored : user ∈ t.users.values) (about : c.IsAbout user) :
    u.subject? = some user.username := by
  cases commits with
  | register | resend | verify => exact about.elim
  | updateProfile | deleteAccount =>
    have named : user.username = _ := about
    rw [subject?, named]
  | @changePassword salt username current new old hash found named guarded known =>
    obtain ⟨mem, same⟩ := Tables.userByName?_eq_some known
    have own : user = found := h.users.eq_of_key_eq stored mem about
    rw [subject?, own, same]

namespace Http

/-- Whether it is for callers only. -/
def Endpoint.forCallers : Endpoint → Bool
  | .listUsers | .getUser _ | .updateUser _ | .changePassword _ | .deleteUser _ => true
  | _ => false

/-- Whether it is for the owner of an account only. -/
def Endpoint.forOwners : Endpoint → Bool
  | .updateUser _ | .changePassword _ | .deleteUser _ => true
  | _ => false

/-- What an owner only may do is reached by nobody else. -/
theorem owner_bind_eq_ok {who : Identity} {username : String} {u u' : UseCase} :
    (Handler.owner who username >>= fun _ => Except.ok u) = .ok u' ↔ who.username = username ∧ u = u' := by
  unfold Handler.owner
  by_cases same : who.username = username
  · rw [if_pos same]
    exact ⟨fun owns => ⟨same, Except.ok.inj owns⟩, fun owns => congrArg Except.ok owns.2⟩
  · rw [if_neg same]
    exact ⟨nofun, fun owns => absurd owns.1 same⟩

theorem bind_eq_ok {α β : Type} {x : Except Response α} {f : α → Except Response β} {b : β} (h : (x >>= f) = .ok b) :
    ∃ a, x = .ok a ∧ f a = .ok b := by
  cases x with
  | error e => cases h
  | ok a => exact ⟨a, rfl, h⟩

/-- Where owners only are served, the use case is about the account that has the caller's name. -/
theorem Endpoint.subject_of_demand {service : Service} {v : Visit} {who : Except Response Identity} {e : Endpoint}
    {u : UseCase} (wants : e.demand service v who = .ok u) (owners : e.forOwners = true) :
    ∃ id, who = .ok id ∧ u.subject? = some id.username := by
  cases e with
  | updateUser escaped =>
    obtain ⟨id, known, wants⟩ := bind_eq_ok wants
    obtain ⟨name, -, wants⟩ := bind_eq_ok wants
    obtain ⟨profile, -, wants⟩ := bind_eq_ok wants
    obtain ⟨owns, rfl⟩ := owner_bind_eq_ok.1 wants
    exact ⟨id, known, congrArg some owns.symm⟩
  | changePassword escaped =>
    obtain ⟨id, known, wants⟩ := bind_eq_ok wants
    obtain ⟨name, -, wants⟩ := bind_eq_ok wants
    obtain ⟨passwords, -, wants⟩ := bind_eq_ok wants
    obtain ⟨owns, rfl⟩ := owner_bind_eq_ok.1 wants
    exact ⟨id, known, congrArg some owns.symm⟩
  | deleteUser escaped =>
    obtain ⟨id, known, wants⟩ := bind_eq_ok wants
    obtain ⟨name, -, wants⟩ := bind_eq_ok wants
    obtain ⟨owns, rfl⟩ := owner_bind_eq_ok.1 wants
    exact ⟨id, known, congrArg some owns.symm⟩
  | _ => cases owners

/-- Everywhere else it is about none. -/
theorem Endpoint.subject_of_demand_others {service : Service} {v : Visit} {who : Except Response Identity}
    {e : Endpoint} {u : UseCase} (wants : e.demand service v who = .ok u) (others : e.forOwners = false) :
    u.subject? = none := by
  cases e with
  | updateUser | changePassword | deleteUser => cases others
  | healthz | readyz => cases wants
  | listUsers | getUser =>
    obtain ⟨id, -, wants⟩ := bind_eq_ok wants
    obtain ⟨a, -, wants⟩ := bind_eq_ok wants
    obtain rfl := Except.ok.inj wants
    rfl
  | _ =>
    obtain ⟨a, -, wants⟩ := bind_eq_ok wants
    obtain rfl := Except.ok.inj wants
    rfl

theorem Endpoint.demand_of_refused {service : Service} {v : Visit} {e : Endpoint} (callers : e.forCallers = true)
    (r : Response) : e.demand service v (.error r) = .error r := by
  cases e with
  | listUsers | getUser | updateUser | changePassword | deleteUser => rfl
  | _ => cases callers

/-! ### Visits -/

namespace Visit
variable {service : Service} {issuer : Issuer} {mail : MailAction} {v : Visit} {t t' : Tables} {denied : Issuer.DenyList}

theorem caller_eq_error (unknown : ∀ who, v.caller issuer ≠ .ok who) : v.caller issuer = .error .invalidToken := by
  unfold caller identify at unknown ⊢
  cases sent : v.request.bearer? with
  | none => rfl
  | some token =>
    rw [sent] at unknown
    exact Issuer.checkAccess_error unknown

/-- A use case that is asked for comes from an endpoint, and with the caller that the request identifies. -/
theorem demand_of_wants {u : UseCase} (asks : v.wants service issuer = .ok u) :
    ∃ e, route v.request = .endpoint e ∧ e.demand service v ((v.caller issuer).mapError Handler.refusal) = .ok u := by
  cases routed : route v.request with
  | notFound | notAllowed =>
    rw [wants, demand, routed] at asks
    cases asks
  | endpoint e =>
    rw [wants_of_route service issuer routed] at asks
    exact ⟨e, rfl, asks⟩

theorem subject_of_wants {u : UseCase} (asks : v.wants service issuer = .ok u) {e : Endpoint}
    (routed : route v.request = .endpoint e) (owners : e.forOwners = true) :
    ∃ who, v.caller issuer = .ok who ∧ u.subject? = some who.username := by
  obtain ⟨e', routed', demanded⟩ := demand_of_wants asks
  obtain rfl := Route.endpoint.inj (routed.symm.trans routed')
  obtain ⟨who, known, about⟩ := e.subject_of_demand demanded owners
  refine ⟨who, ?_, about⟩
  generalize v.caller issuer = found at known
  cases found with
  | error => cases known
  | ok who' => exact congrArg Except.ok (Except.ok.inj known)

/-- Only its owner's request leads to a use case about an account. -/
theorem owner_of_wants {u : UseCase} (asks : v.wants service issuer = .ok u) {username : String}
    (about : u.subject? = some username) : ∃ who, v.caller issuer = .ok who ∧ who.username = username := by
  obtain ⟨e, routed, demanded⟩ := demand_of_wants asks
  cases owners : e.forOwners with
  | false => exact nomatch (e.subject_of_demand_others demanded owners).symm.trans about
  | true =>
    obtain ⟨who, known, named⟩ := subject_of_wants asks routed owners
    exact ⟨who, known, Option.some.inj (named.symm.trans about)⟩

/-- Who is not known is refused wherever callers only are served. -/
theorem wants_of_unknown (unknown : v.caller issuer = .error .invalidToken) {e : Endpoint}
    (routed : route v.request = .endpoint e) (callers : e.forCallers = true) :
    v.wants service issuer = .error (Handler.refusal .invalidToken) := by
  rw [wants_of_route service issuer routed, unknown]
  exact e.demand_of_refused callers _

/-- What serving makes of the tables: the use case that is asked for takes effect by one call, or nothing does. -/
inductive Serves (service : Service) (issuer : Issuer) (v : Visit) (t : Tables) : Tables → Prop
  | nothing : Serves service issuer v t t
  | commits {u : UseCase} (wants : v.wants service issuer = .ok u) {c : StoreCall} (commits : u.Commits v.now t c)
      {t' : Tables} (change : Tables.Change v.now t c true t') : Serves service issuer v t t'

theorem serve_serves (service : Service) (issuer : Issuer) (mail : MailAction) (v : Visit) (t : Tables)
    (denied : Issuer.DenyList) : ∃ response t' denied',
      v.serve service issuer mail ⟨.memory t, denied⟩ = (response, ⟨.memory t', denied'⟩) ∧
        Serves service issuer v t t' := by
  rw [serve_memory]
  rcases wants : v.wants service issuer with r | u
  · exact ⟨_, t, denied, rfl, .nothing⟩
  · have outcome : u.Outcome v.now t denied (u.perform issuer v.now mail ⟨.memory t, denied⟩) := u.perform_outcome
    dsimp only
    generalize u.perform issuer v.now mail ⟨.memory t, denied⟩ = out at outcome ⊢
    cases outcome with
    | refused e after => exact ⟨_, t, after, rfl, .nothing⟩
    | read reads a after => exact ⟨_, t, after, rfl, .nothing⟩
    | done commits accepted a => exact ⟨_, _, denied, rfl, .commits wants commits (Tables.answer_accepted accepted)⟩

/-- What serving makes of the tables is one call's change, or none. -/
theorem Serves.change (h : v.Serves service issuer t t') : ∃ c, Tables.Change v.now t c true t' := by
  cases h with
  | nothing => exact ⟨.ping, .read rfl⟩
  | commits wants commits change => exact ⟨_, change⟩

/-- An account that is not kept is that of the caller. -/
theorem Serves.keeps (h : v.Serves service issuer t t') (consistent : t.Consistent) {user : User}
    (stored : user ∈ t.users.values) (others : ∀ who, v.caller issuer = .ok who → user.username ≠ who.username) :
    t.Keeps t' user := by
  cases h with
  | nothing => exact (consistent.spares_refl stored).keeps
  | @commits u wants c commits _ change =>
    refine change.keeps consistent stored fun about => ?_
    obtain ⟨who, known, named⟩ := owner_of_wants wants (commits.subject consistent stored about)
    exact others who known named.symm

end Visit

/-- Without an access token that is good at that instant, a request removes no user, changes no password and no
column of a user but for the verification, and where callers only are served it is refused with no effect at all. With
one, it leaves all accounts but that of the token's user alone. -/
theorem accounts_guarded (service : Service) (issuer : Issuer) (mail : MailAction) (v : Visit)
    (calls : List (Instant × StoreCall)) (denied : Issuer.DenyList) :
    let t := Tables.after calls .empty
    ∃ response t' denied', v.serve service issuer mail ⟨.memory t, denied⟩ = (response, ⟨.memory t', denied'⟩) ∧
      ((∀ who, v.caller issuer ≠ .ok who) → (∀ user ∈ t.users.values, t.Keeps t' user) ∧
        ∀ e, route v.request = .endpoint e → e.forCallers = true →
          response = finish v.request (Handler.refusal .invalidToken) ∧ response.status = 401 ∧ t' = t ∧ denied' = denied) ∧
      ∀ who, v.caller issuer = .ok who → ∀ user ∈ t.users.values, user.username ≠ who.username → t.Keeps t' user := by
  intro t
  have consistent : t.Consistent := Tables.consistent_after calls
  obtain ⟨response, t', denied', served, serves⟩ := v.serve_serves service issuer mail t denied
  refine ⟨response, t', denied', served, fun unknown => ⟨fun user stored => ?_, fun e routed callers => ?_⟩, ?_⟩
  · exact serves.keeps consistent stored fun who known => absurd known (unknown who)
  · rw [v.serve_memory, Visit.wants_of_unknown (Visit.caller_eq_error unknown) routed callers] at served
    obtain ⟨rfl, same⟩ := Prod.ext_iff.1 served
    cases same
    exact ⟨rfl, rfl, rfl, rfl⟩
  · intro who known user stored apart
    refine serves.keeps consistent stored fun who' known' => ?_
    obtain rfl := Except.ok.inj (known.symm.trans known')
    exact apart

end Http
end Accounts
