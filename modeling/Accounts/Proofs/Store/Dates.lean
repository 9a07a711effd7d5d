import Accounts.Proofs.Store.Agreement
import Accounts.Proofs.Store.Latest
/-! When the tokens of a store were issued. Main statement: of whatever kind the store is, and wherever a statement
fails, a call brings no other instant than that at which its own token is issued. -/
namespace Accounts
open Time

def Database.dates (d : Database) : List Instant := (d.tokens.elim [] Table.values).map TokenRow.createdAt

/-- When the tokens that are stored were issued. -/
def Store.dates : Store → List Instant
  | memory t => t.tokens.values.map VerificationToken.createdAt
  | database c => c.data.dates

/-! ### In memory -/

theorem Tables.Change.dates {now : Instant} {t t' : Tables} {c : StoreCall} {ok : Bool} (step : Change now t c ok t') :
    ∀ date ∈ t'.tokens.values.map VerificationToken.createdAt,
      date ∈ t.tokens.values.map VerificationToken.createdAt ∨ ∃ n, c.newToken? = some n ∧ date = n.issuedAt := by
  intro date mem
  cases step with
  | refused | read | settled | updateProfile | updatePassword | updateStatus => exact .inl mem
  | deleteUser named =>
    rw [Table.values_keep] at mem
    obtain ⟨row, there, rfl⟩ := List.mem_map.1 mem
    exact .inl (List.mem_map_of_mem (List.mem_filter.1 there).1)
  | create =>
    rw [pushEvent, pushToken, Table.values_push, List.map_append, List.mem_append] at mem
    exact mem.imp_right fun new => ⟨_, rfl, List.mem_singleton.1 new⟩
  | @rotate userId token event known =>
    have same : ∀ row : VerificationToken, (row.supersede userId token.issuedAt).createdAt = row.createdAt := fun row =>
      (row.agesTo_supersede userId token.issuedAt).createdAt
    rw [pushEvent, pushToken, Table.values_push, Table.values_map, List.map_append, List.map_map, List.mem_append] at mem
    simp only [Function.comp_def, same] at mem
    exact mem.imp_right fun new => ⟨_, rfl, List.mem_singleton.1 new⟩
  | @verifyWithToken tokenId userId at_ =>
    rw [t.tokens.map_values_adjust (f := VerificationToken.spend at_) tokenId fun _ => rfl] at mem
    exact .inl mem

/-! ### In a database -/

namespace Sql
variable {α β : Type} {I : Database → Prop}

/-- Whatever comes of it, what holds of the data keeps holding. -/
def Preserves (I : Database → Prop) (body : Sql α) : Prop := ∀ c, I c.data → I (body c).2.data

theorem Keeps.preserves {body : Sql α} (h : Keeps body) : Preserves I body := fun c holds => (h c).symm ▸ holds

theorem Preserves.bind {a : Sql α} {f : α → Sql β} (first : Preserves I a) (next : ∀ x, Preserves I (f x)) :
    Preserves I (a >>= f) := by
  refine fun c holds => after_bind (P := fun out => I out.2.data) (fun e c' ran => ?_) fun x c' ran => next x c' ?_
  all_goals
    have kept := first c holds
    rwa [ran] at kept

theorem Preserves.guard {c : Prop} [Decidable c] {e : ServiceError} {k : Sql β} (next : Preserves I k) :
    Preserves I (if c then (throw e : Sql α) >>= fun _ => k else k) := by
  split
  · exact (keeps_throw e).preserves.bind fun _ => next
  · exact next

theorem preserves_statement {f : Database → Except ServiceError (α × Database)}
    (step : ∀ d a d', f d = .ok (a, d') → I d → I d') : Preserves I (statement f) := by
  intro c holds
  have ran := statement_ran f c
  generalize statement f c = out at ran
  cases ran with
  | refused e kept => exact kept.symm ▸ holds
  | done done => exact step _ _ _ done holds

theorem query_done {f : Database → Except ServiceError α} {c c' : Connection} {a : α}
    (read : query f c = (.ok a, c')) : f c.data = .ok a := by
  have ran := statement_ran (fun d => (f d).map (·, d)) c
  rw [show statement _ c = _ from read] at ran
  cases ran with
  | done done =>
    cases here : f c.data with
    | error e =>
      rw [here] at done
      cases done
    | ok b =>
      rw [here] at done
      exact congrArg Except.ok (congrArg Prod.fst (Except.ok.inj done))

theorem Preserves.transaction {body : Sql α} (h : Preserves I body) : Preserves I (transaction body) := by
  have whole : Preserves I (do boundary; let a ← body; boundary; return a : Sql α) :=
    (keeps_query _).preserves.bind fun _ => h.bind fun a => (keeps_query _).preserves.bind fun _ =>
      (keeps_pure a).preserves
  intro c holds
  unfold Sql.transaction
  have after := whole c holds
  split
  · next ran => rwa [ran] at after
  -- a transaction that fails goes back to the data that it began with
  · exact holds

end Sql

namespace Database
open Sql

/-- All tokens were issued at such instants. -/
def Dated (P : Instant → Prop) (d : Database) : Prop := ∀ date ∈ d.dates, P date

variable {P : Instant → Prop} {d d' : Database}

theorem Dated.of_tokens (h : d.Dated P) (same : d'.tokens = d.tokens) : d'.Dated P := by
  rw [Dated, dates, same]
  exact h

theorem Dated.rows (h : d.Dated P) {tokens : Table TokenRow} (stored : d.tokens = some tokens) :
    ∀ row ∈ tokens.values, P row.createdAt := by
  intro row mem
  refine h _ ?_
  rw [dates, stored]
  exact List.mem_map_of_mem mem

theorem dated_insertUser (n : NewUser) (now : Instant) : Preserves (Dated P) (insertUser n now) := by
  refine preserves_statement fun d a d' done dated => ?_
  obtain ⟨users, -, done⟩ := exists_of_need done
  change ite _ _ _ = _ at done
  split at done
  · cases done
  · cases done
    exact dated.of_tokens rfl

theorem dated_updateUser (u : User) : Preserves (Dated P) (updateUser u) := by
  refine preserves_statement fun d a d' done dated => ?_
  obtain ⟨users, -, done⟩ := exists_of_need done
  change ite _ _ _ = _ at done
  split at done
  · cases done
  · change ite _ _ _ = _ at done
    split at done
    · cases done
    · cases done
      exact dated.of_tokens rfl

theorem dated_removeUser (username : String) : Preserves (Dated P) (removeUser username) := by
  refine preserves_statement fun d a d' done dated => ?_
  obtain ⟨users, -, done⟩ := exists_of_need done
  cases done
  intro date mem
  cases stored : d.tokens with
  | none => simp [dates, stored] at mem
  | some tokens =>
    simp only [dates, stored, Option.map_some, Option.elim_some, Table.values_keep] at mem
    obtain ⟨row, there, rfl⟩ := List.mem_map.1 mem
    exact dated.rows stored row (List.mem_filter.1 there).1

theorem dated_insertHash (userId : Int) (hash : String) : Preserves (Dated P) (insertHash userId hash) := by
  refine preserves_statement fun d a d' done dated => ?_
  obtain ⟨hashes, -, done⟩ := exists_of_need done
  cases known : needUser d userId with
  | error e =>
    rw [known] at done
    cases done
  | ok _ =>
    rw [known] at done
    change ite _ _ _ = _ at done
    split at done
    · cases done
    · cases done
      exact dated.of_tokens rfl

theorem dated_updateHash (userId : Int) (hash : String) : Preserves (Dated P) (updateHash userId hash) := by
  refine preserves_statement fun d a d' done dated => ?_
  obtain ⟨hashes, -, done⟩ := exists_of_need done
  split at done <;> cases done
  · exact dated
  · exact dated.of_tokens rfl

theorem dated_insertToken (userId : Int) {n : NewToken} (new : P n.issuedAt) :
    Preserves (Dated P) (insertToken userId n) := by
  refine preserves_statement fun d a d' done dated => ?_
  obtain ⟨tokens, stored, done⟩ := exists_of_need done
  cases known : needUser d userId with
  | error e =>
    rw [known] at done
    cases done
  | ok _ =>
    rw [known] at done
    change ite _ _ _ = _ at done
    split at done
    · cases done
    · cases done
      intro date mem
      simp only [dates, Option.elim_some, Table.values_push, List.map_append] at mem
      rcases List.mem_append.1 mem with old | same
      · obtain ⟨row, there, rfl⟩ := List.mem_map.1 old
        exact dated.rows stored row there
      · exact List.mem_singleton.1 same ▸ new

theorem dated_insertEvent (userId : Int) (e : NewEvent) (now : Instant) :
    Preserves (Dated P) (insertEvent userId e now) := by
  refine preserves_statement fun d a d' done dated => ?_
  obtain ⟨outbox, -, done⟩ := exists_of_need done
  cases done
  exact dated.of_tokens rfl

theorem dated_spendActiveTokens (userId : Int) (now : Instant) :
    Preserves (Dated P) (spendActiveTokens userId now) := by
  refine preserves_statement fun d a d' done dated => ?_
  obtain ⟨tokens, stored, done⟩ := exists_of_need done
  cases done
  intro date mem
  simp only [dates, Option.elim_some, Table.values_map, List.map_map] at mem
  obtain ⟨row, there, rfl⟩ := List.mem_map.1 mem
  have old := dated.rows stored row there
  simp only [Function.comp]
  split <;> exact old

theorem dated_spendToken (id : Int) (now : Instant) : Preserves (Dated P) (spendToken id now) := by
  refine preserves_statement fun d a d' done dated => ?_
  obtain ⟨tokens, stored, done⟩ := exists_of_need done
  split at done
  · split at done <;> cases done
    · exact dated
    · intro date mem
      simp only [dates, Option.elim_some] at mem
      rw [tokens.map_values_adjust (f := TokenRow.spend now) id fun _ => rfl] at mem
      obtain ⟨row, there, rfl⟩ := List.mem_map.1 mem
      exact dated.rows stored row there
  · cases done
    exact dated

theorem dated_settleEvent (id : Int) (status : OutboxStatus) (now : Instant) :
    Preserves (Dated P) (settleEvent id status now) := by
  refine preserves_statement fun d a d' done dated => ?_
  obtain ⟨outbox, -, done⟩ := exists_of_need done
  split at done
  · split at done <;> cases done
    · exact dated
    · exact dated.of_tokens rfl
  · cases done
    exact dated

theorem dated_answer (now : Instant) {c : StoreCall} (new : ∀ n, c.newToken? = some n → P n.issuedAt) :
    Preserves (Dated P) (answer now c) := by
  cases c with
  | updateProfile username p =>
    refine (keeps_query _).preserves.bind fun found => ?_
    cases found with
    | none => exact (keeps_throw _).preserves
    | some u => exact dated_updateUser _
  | updatePassword userId hash =>
    refine (dated_updateHash userId hash).bind fun n => ?_
    split
    · exact (keeps_throw _).preserves
    · exact (keeps_pure _).preserves
  | deleteUser username =>
    refine (dated_removeUser username).bind fun n => ?_
    split
    · exact (keeps_throw _).preserves
    · exact (keeps_pure _).preserves
  | create n hash token event =>
    refine Preserves.transaction ((dated_insertUser n token.issuedAt).bind fun u => ?_)
    refine (dated_insertHash u.id hash).bind fun _ => (dated_insertToken u.id (new token rfl)).bind fun _ => ?_
    exact (dated_insertEvent u.id event token.issuedAt).bind fun _ => (keeps_pure u).preserves
  | rotate userId token event =>
    refine Preserves.transaction ((keeps_query _).preserves.bind fun found => Preserves.guard ?_)
    refine (dated_spendActiveTokens userId token.issuedAt).bind fun _ => ?_
    refine (dated_insertToken userId (new token rfl)).bind fun _ => ?_
    exact dated_insertEvent userId event token.issuedAt
  | verifyWithToken tokenId userId at_ =>
    refine Preserves.transaction ((dated_spendToken tokenId at_).bind fun n => Preserves.guard ?_)
    refine (keeps_query _).preserves.bind fun found => ?_
    cases found with
    | none => exact (keeps_throw _).preserves
    | some u => exact dated_updateUser _
  | updateStatus id status =>
    refine (dated_settleEvent id status now).bind fun n => ?_
    split
    · exact (keeps_pure _).preserves
    · refine (keeps_findEvent id).preserves.bind fun found => ?_
      cases found with
      | none => exact (keeps_throw _).preserves
      | some e => exact (keeps_pure _).preserves
  | _ => exact (keeps_answer now rfl).preserves

theorem createdAt_tokenOfRow {row : TokenRow} {token : VerificationToken} (told : tokenOfRow row = .ok token) :
    token.createdAt = row.createdAt := by
  rw [tokenOfRow] at told
  split at told
  · cases told
    rfl
  · cases told

theorem Dated.later (before : Instant → Instant → Bool) {row : TokenRow} {rows : List TokenRow}
    (all : ∀ r ∈ row :: rows, P r.createdAt) : P (rows.foldl (TokenRow.later before) row).createdAt := by
  refine List.foldlRecOn rows (TokenRow.later before) (motive := fun r => P r.createdAt)
    (all row List.mem_cons_self) fun top holds r mem => ?_
  rw [TokenRow.later]
  split
  · exact all r (List.mem_cons_of_mem row mem)
  · exact holds

theorem Dated.selectLatest {c c' : Connection} (h : c.data.Dated P) {userId : Int} {row : TokenRow}
    (read : Database.selectLatest userId c = (.ok (some row), c')) : P row.createdAt := by
  obtain ⟨tokens, stored, found⟩ := exists_of_need (query_done read)
  have own : ∀ r ∈ tokens.values.filter fun r => r.userId = userId, P r.createdAt := fun r mem =>
    h.rows stored r (List.mem_filter.1 mem).1
  split at found
  · cases found
  · next first rest same =>
    cases found
    exact Dated.later _ (same ▸ own)

end Database

/-! ### In either -/

/-- All tokens were issued at such instants. -/
def Store.Dated (P : Instant → Prop) (s : Store) : Prop := ∀ date ∈ s.dates, P date

theorem Store.Dated.answer {P : Instant → Prop} {s : Store} (h : s.Dated P) (now : Instant) {c : StoreCall}
    (new : ∀ n, c.newToken? = some n → P n.issuedAt) : (s.answer now c).2.Dated P := by
  cases s with
  | memory t =>
    intro date mem
    rcases (Tables.answer_change now c t).dates date mem with old | ⟨n, same, rfl⟩
    · exact h date old
    · exact new n same
  | database d => exact Database.dated_answer now new d h

/-- The latest token of a user was issued at such an instant, too. -/
theorem Store.Dated.latest {P : Instant → Prop} {s : Store} (h : s.Dated P) (now : Instant) {userId : Int}
    {latest : VerificationToken} (read : (s.answer now (.latestToken userId)).1 = .ok (some latest)) :
    P latest.createdAt := by
  cases s with
  | memory t =>
    have top := (Tables.latest?_eq_some (Except.ok.inj read)).1
    exact h _ (List.mem_map_of_mem (List.mem_filter.1 top).1)
  | database d =>
    let Told (out : Except ServiceError (Option VerificationToken) × Connection) : Prop :=
      out.1 = .ok (some latest) → P latest.createdAt
    suffices Told (Database.latestToken userId d) from this read
    refine Sql.after_bind (fun e c' ran => nofun) fun found c' ran => ?_
    cases found with
    | none => exact nofun
    | some row =>
      have issued : P row.createdAt := Database.Dated.selectLatest h ran
      dsimp only
      cases told : Database.tokenOfRow row with
      | error e => exact nofun
      | ok token =>
        intro same
        obtain rfl : token = latest := Option.some.inj (Except.ok.inj same)
        exact Database.createdAt_tokenOfRow told ▸ issued

end Accounts
