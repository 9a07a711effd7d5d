import Accounts.Proofs.Json.Value
/-! The texts of a value. Brackets, commas and colons stand in their places, names and values are spelled in any way, and
white space may stand around each of them. Main statement: whichever text of a value it is, the value is read from it,
in which each name counts once, with its last value. -/
namespace Accounts.Json

def Blank (bs : Bytes) : Prop := ∀ b ∈ bs, Token.isSpace b = true

instance (bs : Bytes) : Decidable (Blank bs) := decidable_of_iff (bs.all Token.isSpace = true) List.all_eq_true

theorem blank_nil : Blank [] := fun _ mem => absurd mem List.not_mem_nil

/-! ### Tokens and white space -/

namespace Token

/-- One token with white space around it. -/
structure Stands (t : Token) (bs : Bytes) : Prop where
  spelled : ∃ before lexeme after, Blank before ∧ split? lexeme = some (t, []) ∧ Blank after ∧
    bs = before ++ (lexeme ++ after)

variable {t : Token} {bs rest : Bytes}

theorem stands_of_split? (spelled : split? bs = some (t, [])) : t.Stands bs :=
  ⟨[], bs, [], blank_nil, spelled, blank_nil, (List.append_nil bs).symm⟩

theorem ofBytes_blank {blank : Bytes} (h : Blank blank) (rest : Bytes) : ofBytes (blank ++ rest) = ofBytes rest := by
  have same : (blank ++ rest).dropWhile isSpace = rest.dropWhile isSpace := List.dropWhile_append_of_pos h
  rcases next : rest.dropWhile isSpace with _ | ⟨b, more⟩
  · rw [ofBytes_of_empty next, ofBytes_of_empty (same.trans next)]
  · rcases found : split? (b :: more) with _ | ⟨t, after⟩
    · rw [ofBytes_of_none next found, ofBytes_of_none (same.trans next) found]
    · rw [ofBytes_of_some next found, ofBytes_of_some (same.trans next) found]

/-- White space ends a number. -/
theorem ends_blank {after : Bytes} (h : Blank after) (ends : Literal.Ends rest) : Literal.Ends (after ++ rest) := by
  have spaces : ∀ b, isSpace b = true → isDigit b = false ∧ b ≠ '.'.toUInt8 ∧ b ≠ 'e'.toUInt8 ∧ b ≠ 'E'.toUInt8 := by
    intro b space
    simp only [isSpace, Bool.or_eq_true, decide_eq_true_eq] at space
    rcases space with ((rfl | rfl) | rfl) | rfl <;> decide
  cases after with
  | nil => exact ends
  | cons b after => exact Value.ends_cons (spaces b (h b List.mem_cons_self))

/-- Any token but a number ends one. -/
theorem ends_lexeme {lexeme : Bytes} (spelled : split? lexeme = some (t, [])) (other : ∀ l, t ≠ .number l) :
    Literal.Ends (lexeme ++ rest) := by
  have numbers (b : UInt8) (more : Bytes) (read : split? (b :: more) =
      (Literal.split? (b :: more)).map fun found => (.number found.1, found.2)) : split? (b :: more) ≠ some (t, []) := by
    rw [read]
    intro found
    obtain ⟨l, -, same⟩ := Option.map_eq_some_iff.1 found
    exact other l.1 (Prod.mk.inj same).1.symm
  cases lexeme with
  | nil => cases spelled
  | cons b more =>
    refine Value.ends_cons ⟨?_, ?_, ?_, ?_⟩
    · rw [Bool.eq_false_iff]
      exact fun digit => numbers b more (split?_number (.inr digit) more) spelled
    · rintro rfl
      exact numbers _ more rfl spelled
    · rintro rfl
      exact numbers _ more rfl spelled
    · rintro rfl
      exact numbers _ more rfl spelled

theorem Stands.ends (h : t.Stands bs) (other : ∀ l, t ≠ .number l) : Literal.Ends (bs ++ rest) := by
  obtain ⟨before, lexeme, after, blank, spelled, -, rfl⟩ := h.spelled
  rw [List.append_assoc, List.append_assoc]
  exact ends_blank blank (ends_lexeme spelled other)

theorem Stands.ofBytes (h : t.Stands bs) (ends : ∀ l, t = .number l → Literal.Ends rest) :
    ofBytes (bs ++ rest) = t :: ofBytes rest := by
  obtain ⟨before, lexeme, after, blank, spelled, blank', rfl⟩ := h.spelled
  rw [List.append_assoc, List.append_assoc, ofBytes_blank blank]
  have split : split? (lexeme ++ (after ++ rest)) = some (t, after ++ rest) :=
    split?_append spelled fun l number => ends_blank blank' (ends l number)
  rw [ofBytes_of_split? split, ofBytes_blank blank']

/-- Any token but a number is found whatever follows. -/
theorem Stands.ofBytes_sign (h : t.Stands bs) (other : ∀ l, t ≠ .number l) :
    Token.ofBytes (bs ++ rest) = t :: Token.ofBytes rest :=
  h.ofBytes fun l number => absurd number (other l)

end Token

namespace Value

/-! ### The grammar -/

/-- What a text may be made of: a value, items between commas, or members between commas. -/
inductive Phrase
  | value (v : Value)
  | items (vs : List Value)
  | members (ms : List (String × Value))

inductive Writes : Phrase → Bytes → Prop
  | scalar {t : Token} {v : Value} {bs : Bytes} (stands : t.Stands bs) (value : ofToken? t = some v) :
      Writes (.value v) bs
  | emptyArray {a b : Bytes} (opens : Token.openArray.Stands a) (closes : Token.closeArray.Stands b) :
      Writes (.value (.array [])) (a ++ b)
  | array {vs : List Value} {a bs b : Bytes} (opens : Token.openArray.Stands a) (items : Writes (.items vs) bs)
      (closes : Token.closeArray.Stands b) : Writes (.value (.array vs)) (a ++ (bs ++ b))
  | emptyObject {a b : Bytes} (opens : Token.openObject.Stands a) (closes : Token.closeObject.Stands b) :
      Writes (.value (.object [])) (a ++ b)
  | object {ms : List (String × Value)} {a bs b : Bytes} (opens : Token.openObject.Stands a)
      (members : Writes (.members ms) bs) (closes : Token.closeObject.Stands b) :
      Writes (.value (.object ms)) (a ++ (bs ++ b))
  | lastItem {v : Value} {bs : Bytes} (value : Writes (.value v) bs) : Writes (.items [v]) bs
  | item {v w : Value} {vs : List Value} {bs c rest : Bytes} (value : Writes (.value v) bs)
      (comma : Token.comma.Stands c) (more : Writes (.items (w :: vs)) rest) :
      Writes (.items (v :: w :: vs)) (bs ++ (c ++ rest))
  | lastMember {key : String} {v : Value} {inside name c bs : Bytes} (named : (Token.string inside).Stands name)
      (read : Quoted.decode? inside = some key) (colon : Token.colon.Stands c) (value : Writes (.value v) bs) :
      Writes (.members [(key, v)]) (name ++ (c ++ bs))
  | member {key : String} {v : Value} {m : String × Value} {ms : List (String × Value)}
      {inside name c bs d rest : Bytes} (named : (Token.string inside).Stands name)
      (read : Quoted.decode? inside = some key) (colon : Token.colon.Stands c) (value : Writes (.value v) bs)
      (comma : Token.comma.Stands d) (more : Writes (.members (m :: ms)) rest) :
      Writes (.members ((key, v) :: m :: ms)) (name ++ (c ++ (bs ++ (d ++ rest))))

/-- The same grammar for the tokens of a text. -/
inductive Spells : Phrase → List Token → Prop
  | scalar {t : Token} {v : Value} (value : ofToken? t = some v) : Spells (.value v) [t]
  | emptyArray : Spells (.value (.array [])) [.openArray, .closeArray]
  | array {vs : List Value} {ts : List Token} (items : Spells (.items vs) ts) :
      Spells (.value (.array vs)) (.openArray :: (ts ++ [.closeArray]))
  | emptyObject : Spells (.value (.object [])) [.openObject, .closeObject]
  | object {ms : List (String × Value)} {ts : List Token} (members : Spells (.members ms) ts) :
      Spells (.value (.object ms)) (.openObject :: (ts ++ [.closeObject]))
  | lastItem {v : Value} {ts : List Token} (value : Spells (.value v) ts) : Spells (.items [v]) ts
  | item {v w : Value} {vs : List Value} {ts us : List Token} (value : Spells (.value v) ts)
      (more : Spells (.items (w :: vs)) us) : Spells (.items (v :: w :: vs)) (ts ++ .comma :: us)
  | lastMember {key : String} {v : Value} {inside : Bytes} {ts : List Token} (read : Quoted.decode? inside = some key)
      (value : Spells (.value v) ts) : Spells (.members [(key, v)]) (.string inside :: .colon :: ts)
  | member {key : String} {v : Value} {m : String × Value} {ms : List (String × Value)} {inside : Bytes}
      {ts us : List Token} (read : Quoted.decode? inside = some key) (value : Spells (.value v) ts)
      (more : Spells (.members (m :: ms)) us) :
      Spells (.members ((key, v) :: m :: ms)) (.string inside :: .colon :: (ts ++ .comma :: us))

/-- A text of a value whose brackets nest no deeper than is read. -/
structure Text (v : Value) (bs : Bytes) : Prop where
  writes : Writes (.value v) bs
  deep : v.depth ≤ maxDepth

/-! ### Repeated members -/

mutual

/-- The value in which each name counts once, with its last value. -/
def merged : Value → Value
  | .array items => .array (mergedItems items)
  | .object members => .object (mergedMembers [] members)
  | v => v

def mergedItems : List Value → List Value
  | [] => []
  | v :: rest => merged v :: mergedItems rest

/-- Members after those that were read before. -/
def mergedMembers (acc : List (String × Value)) : List (String × Value) → List (String × Value)
  | [] => acc
  | (key, v) :: rest => mergedMembers (setMember key (merged v) acc) rest

end

theorem merged_ofToken? {t : Token} {v : Value} (h : ofToken? t = some v) : v.merged = v := by
  cases t with
  | null | bool b =>
    cases h
    rfl
  | number l | string inside =>
    obtain ⟨a, -, rfl⟩ := Option.map_eq_some_iff.1 h
    rfl
  | _ => cases h

/-! ### Reading a text -/

/-- Reading on at these tokens goes on after the phrase. -/
def Phrase.Read : Phrase → List Token → Prop
  | .value v, ts => (∃ t more, ts = t :: more ∧ t ≠ .closeArray) ∧
      ∀ room, v.depth ≤ room → ∀ stack rest,
        readOn setMember room stack .value (ts ++ rest) = readOn setMember room stack (.done v.merged) rest
  | .items vs, ts => (∃ t more, ts = t :: more ∧ t ≠ .closeArray) ∧
      ∀ room, depthOfItems vs ≤ room → ∀ acc stack rest,
        readOn setMember room (.array acc :: stack) .value (ts ++ .closeArray :: rest) =
          readOn setMember (room + 1) stack (.done (.array (acc.reverse ++ mergedItems vs))) rest
  | .members ms, ts => ∃ inside key more, ts = .string inside :: .colon :: more ∧ Quoted.decode? inside = some key ∧
      ∀ room, depthOfMembers ms ≤ room → ∀ acc stack rest,
        readOn setMember room (.object acc key :: stack) .value (more ++ .closeObject :: rest) =
          readOn setMember (room + 1) stack (.done (.object (mergedMembers acc ms))) rest

section
variable {v w : Value} {vs : List Value} {m : String × Value} {ms : List (String × Value)} {ts us : List Token}
  {key : String} {inside : Bytes}

theorem read_scalar {t : Token} (value : ofToken? t = some v) : (Phrase.value v).Read [t] := by
  have same := merged_ofToken? value
  refine ⟨⟨t, [], rfl, ?_⟩, fun room _ stack rest => ?_⟩
  · rintro rfl
    cases value
  · rw [same]
    cases t with
    | null | bool b | number l | string inside => simp [readOn, value]
    | _ => cases value

theorem read_emptyArray : (Phrase.value (.array [])).Read [.openArray, .closeArray] := by
  refine ⟨⟨_, _, rfl, nofun⟩, fun room deep stack rest => ?_⟩
  have left : room ≠ 0 := Nat.ne_of_gt deep
  simp [readOn, left, merged, mergedItems]

theorem read_array (items : (Phrase.items vs).Read ts) :
    (Phrase.value (.array vs)).Read (.openArray :: (ts ++ [.closeArray])) := by
  refine ⟨⟨_, _, rfl, nofun⟩, fun room deep stack rest => ?_⟩
  obtain ⟨⟨t, more, rfl, opens⟩, inside⟩ := items
  have left : room ≠ 0 := Nat.ne_of_gt (Nat.lt_of_lt_of_le (Nat.succ_pos _) deep)
  have inside := inside (room - 1) (Nat.le_sub_one_of_lt deep) [] stack rest
  rw [Nat.sub_add_cancel (Nat.one_le_iff_ne_zero.2 left)] at inside
  have first : readOn setMember room stack .value (.openArray :: t :: (more ++ .closeArray :: rest)) = _ :=
    readOn_openArray opens left
  simpa [merged] using first.trans inside

theorem read_emptyObject : (Phrase.value (.object [])).Read [.openObject, .closeObject] := by
  refine ⟨⟨_, _, rfl, nofun⟩, fun room deep stack rest => ?_⟩
  have left : room ≠ 0 := Nat.ne_of_gt deep
  simp [readOn, left, merged, mergedMembers]

theorem read_object (members : (Phrase.members ms).Read ts) :
    (Phrase.value (.object ms)).Read (.openObject :: (ts ++ [.closeObject])) := by
  refine ⟨⟨_, _, rfl, nofun⟩, fun room deep stack rest => ?_⟩
  obtain ⟨inside, key, more, rfl, read, members⟩ := members
  have left : room ≠ 0 := Nat.ne_of_gt (Nat.lt_of_lt_of_le (Nat.succ_pos _) deep)
  have members := members (room - 1) (Nat.le_sub_one_of_lt deep) [] stack rest
  rw [Nat.sub_add_cancel (Nat.one_le_iff_ne_zero.2 left)] at members
  simpa [readOn, left, read, merged] using members

theorem read_lastItem (value : (Phrase.value v).Read ts) : (Phrase.items [v]).Read ts := by
  refine ⟨value.1, fun room deep acc stack rest => ?_⟩
  rw [value.2 room (Nat.le_trans (Nat.le_max_left _ _) deep), readOn]
  simp [mergedItems]

theorem read_item (value : (Phrase.value v).Read ts) (items : (Phrase.items (w :: vs)).Read us) :
    (Phrase.items (v :: w :: vs)).Read (ts ++ .comma :: us) := by
  obtain ⟨⟨t, more, rfl, opens⟩, first⟩ := value
  refine ⟨⟨t, _, List.cons_append, opens⟩, fun room deep acc stack rest => ?_⟩
  have first := first room (Nat.le_trans (Nat.le_max_left _ _) deep) (.array acc :: stack)
    (.comma :: (us ++ .closeArray :: rest))
  have others := items.2 room (Nat.le_trans (Nat.le_max_right _ _) deep) (v.merged :: acc) stack rest
  simp only [List.cons_append, List.append_assoc] at first ⊢
  rw [first, readOn, others]
  simp [mergedItems]

theorem read_lastMember (read : Quoted.decode? inside = some key) (value : (Phrase.value v).Read ts) :
    (Phrase.members [(key, v)]).Read (.string inside :: .colon :: ts) := by
  refine ⟨inside, key, ts, rfl, read, fun room deep acc stack rest => ?_⟩
  rw [value.2 room (Nat.le_trans (Nat.le_max_left _ _) deep), readOn]
  rfl

theorem read_member (read : Quoted.decode? inside = some key) (value : (Phrase.value v).Read ts)
    (members : (Phrase.members (m :: ms)).Read us) :
    (Phrase.members ((key, v) :: m :: ms)).Read (.string inside :: .colon :: (ts ++ .comma :: us)) := by
  refine ⟨inside, key, _, rfl, read, fun room deep acc stack rest => ?_⟩
  obtain ⟨next, name, more, rfl, readNext, others⟩ := members
  have first := value.2 room (Nat.le_trans (Nat.le_max_left _ _) deep) (.object acc key :: stack)
    (.comma :: .string next :: .colon :: (more ++ .closeObject :: rest))
  have others := others room (Nat.le_trans (Nat.le_max_right _ _) deep) (setMember key v.merged acc) stack rest
  simp only [List.append_assoc, List.cons_append]
  rw [first, readOn, readNext]
  exact others

theorem Spells.read {p : Phrase} (h : Spells p ts) : p.Read ts := by
  induction h with
  | scalar value => exact read_scalar value
  | emptyArray => exact read_emptyArray
  | array items ih => exact read_array ih
  | emptyObject => exact read_emptyObject
  | object members ih => exact read_object ih
  | lastItem value ih => exact read_lastItem ih
  | item value more ih ihMore => exact read_item ih ihMore
  | lastMember read value ih => exact read_lastMember read ih
  | member read value more ih ihMore => exact read_member read ih ihMore

end

/-- The tokens of a text, with those of what follows it. -/
theorem Writes.spells {p : Phrase} {bs : Bytes} (h : Writes p bs) :
    ∃ ts, Spells p ts ∧ ∀ rest, Literal.Ends rest → Token.ofBytes (bs ++ rest) = ts ++ Token.ofBytes rest := by
  induction h with
  | scalar stands value => exact ⟨_, .scalar value, fun rest ends => stands.ofBytes fun _ _ => ends⟩
  | emptyArray opens closes =>
    refine ⟨_, .emptyArray, fun rest _ => ?_⟩
    rw [List.append_assoc, opens.ofBytes_sign nofun, closes.ofBytes_sign nofun]
    rfl
  | array opens items closes ih =>
    obtain ⟨ts, spells, tokens⟩ := ih
    refine ⟨_, .array spells, fun rest _ => ?_⟩
    rw [List.append_assoc, List.append_assoc, opens.ofBytes_sign nofun, tokens _ (closes.ends nofun),
      closes.ofBytes_sign nofun]
    simp
  | emptyObject opens closes =>
    refine ⟨_, .emptyObject, fun rest _ => ?_⟩
    rw [List.append_assoc, opens.ofBytes_sign nofun, closes.ofBytes_sign nofun]
    rfl
  | object opens members closes ih =>
    obtain ⟨ts, spells, tokens⟩ := ih
    refine ⟨_, .object spells, fun rest _ => ?_⟩
    rw [List.append_assoc, List.append_assoc, opens.ofBytes_sign nofun, tokens _ (closes.ends nofun),
      closes.ofBytes_sign nofun]
    simp
  | lastItem value ih =>
    obtain ⟨ts, spells, tokens⟩ := ih
    exact ⟨ts, .lastItem spells, tokens⟩
  | item value comma more ih ihMore =>
    obtain ⟨ts, spells, tokens⟩ := ih
    obtain ⟨us, spellsMore, tokensMore⟩ := ihMore
    refine ⟨_, .item spells spellsMore, fun rest ends => ?_⟩
    rw [List.append_assoc, List.append_assoc, tokens _ (comma.ends nofun), comma.ofBytes_sign nofun,
      tokensMore rest ends]
    simp
  | lastMember named read colon value ih =>
    obtain ⟨ts, spells, tokens⟩ := ih
    refine ⟨_, .lastMember read spells, fun rest ends => ?_⟩
    rw [List.append_assoc, List.append_assoc, named.ofBytes_sign nofun, colon.ofBytes_sign nofun, tokens rest ends]
    rfl
  | member named read colon value comma more ih ihMore =>
    obtain ⟨ts, spells, tokens⟩ := ih
    obtain ⟨us, spellsMore, tokensMore⟩ := ihMore
    refine ⟨_, .member read spells spellsMore, fun rest ends => ?_⟩
    rw [List.append_assoc, List.append_assoc, List.append_assoc, List.append_assoc, named.ofBytes_sign nofun,
      colon.ofBytes_sign nofun, tokens _ (comma.ends nofun), comma.ofBytes_sign nofun, tokensMore rest ends]
    simp

theorem Text.spells {v : Value} {bs : Bytes} (h : v.Text bs) : Spells (.value v) (Token.ofBytes bs) := by
  obtain ⟨ts, spells, tokens⟩ := h.writes.spells
  have all := tokens [] nofun
  rw [List.append_nil, ofBytes_nil, List.append_nil] at all
  rwa [all]

theorem Text.parse? {v : Value} {bs : Bytes} (h : v.Text bs) : parse? bs = some v.merged := by
  have read := h.spells.read.2 maxDepth h.deep [] []
  rw [List.append_nil] at read
  rw [Value.parse?, read?, read]
  simp [readOn]

theorem string_of_ofToken? {t : Token} {s : String} (h : ofToken? t = some (.string s)) :
    ∃ inside, t = .string inside ∧ Quoted.decode? inside = some s := by
  cases t with
  | string inside =>
    obtain ⟨_, read, same⟩ := Option.map_eq_some_iff.1 h
    cases same
    exact ⟨inside, rfl, read⟩
  | number l =>
    obtain ⟨_, -, same⟩ := Option.map_eq_some_iff.1 h
    cases same
  | _ => cases h

theorem ofToken?_ne_object (t : Token) (ms : List (String × Value)) : ofToken? t ≠ some (.object ms) := by
  cases t with
  | number l | string inside =>
    intro h
    obtain ⟨_, -, same⟩ := Option.map_eq_some_iff.1 h
    cases same
  | _ => nofun

/-- The tokens of an object of one text. -/
theorem Writes.tokens_string {key s : String} {bs : Bytes} (h : Writes (.value (.object [(key, .string s)])) bs) :
    ∃ name inside, Quoted.decode? name = some key ∧ Quoted.decode? inside = some s ∧
      Token.ofBytes bs = [.openObject, .string name, .colon, .string inside, .closeObject] := by
  cases h with
  | scalar stands value => exact absurd value (ofToken?_ne_object _ _)
  | object opens members closes =>
    cases members with
    | lastMember named read colon value =>
      cases value with
      | scalar stands value =>
        obtain ⟨inside, rfl, text⟩ := string_of_ofToken? value
        have last : Token.ofBytes (_ ++ []) = _ := closes.ofBytes_sign nofun
        rw [List.append_nil, ofBytes_nil] at last
        refine ⟨_, inside, read, text, ?_⟩
        rw [opens.ofBytes_sign nofun, List.append_assoc, List.append_assoc, named.ofBytes_sign nofun,
          colon.ofBytes_sign nofun, stands.ofBytes_sign nofun, last]

/-! ### Members by their names -/

section
variable {key : String} {v : Value}

theorem lookup_setMember (k : String) (members : List (String × Value)) :
    (setMember key v members).lookup k = if k = key then some v else members.lookup k := by
  have replaced : (members.map fun m => if m.1 == key then (key, v) else m).lookup k =
      if k = key then (members.lookup k).map fun _ => v else members.lookup k := by
    induction members with
    | nil => simp
    | cons m members ih =>
      obtain ⟨name, w⟩ := m
      simp only [List.map_cons, List.lookup_cons]
      grind
  have present : members.any (·.1 == key) = (members.lookup key).isSome := by
    rw [Bool.eq_iff_iff, List.lookup_isSome_iff, List.any_eq_true]
    simp only [beq_iff_eq, eq_comm (a := key)]
  rw [setMember, present]
  split
  · next old =>
    obtain ⟨w, found⟩ := Option.isSome_iff_exists.1 old
    rw [replaced]
    split
    · next same => rw [same, found, Option.map_some]
    · rfl
  · next new =>
    simp only [List.lookup_append, List.lookup_cons, List.lookup_nil]
    grind

/-- The last member of a name counts, and one before these only where they have none of it. -/
theorem lookup_mergedMembers (k : String) (ms acc : List (String × Value)) :
    (mergedMembers acc ms).lookup k = ((ms.reverse.lookup k).map merged).or (acc.lookup k) := by
  induction ms generalizing acc with
  | nil => rfl
  | cons m ms ih =>
    obtain ⟨key, v⟩ := m
    rw [mergedMembers, ih, lookup_setMember, List.reverse_cons, List.lookup_append]
    simp only [List.lookup_cons, List.lookup_nil]
    grind

end

/-! ### The canonical text -/

theorem stands_encode (s : String) : (Token.ofText s).Stands (Quoted.encode s) := by
  refine Token.stands_of_split? ?_
  have inside := Quoted.split?_escape (Bytes.ofText s) []
  have spelled : Quoted.encode s = '"'.toUInt8 :: (Quoted.escape (Bytes.ofText s) ++ ['"'.toUInt8]) := rfl
  rw [spelled]
  change (Quoted.split? _).map _ = _
  rw [inside]
  rfl

theorem stands_int (n : Int) : (Token.number (Literal.ofInt n)).Stands (Bytes.ofText (toString n)) := by
  have read : Token.split? (Bytes.ofText (toString n) ++ []) = _ := Token.split?_int nofun
  rw [List.append_nil] at read
  exact Token.stands_of_split? read

mutual

theorem writes_render : (v : Value) → v.Plain → Writes (.value v) v.render
  | .null, _ => .scalar (Token.stands_of_split? rfl) rfl
  | .bool true, _ => .scalar (Token.stands_of_split? rfl) rfl
  | .bool false, _ => .scalar (Token.stands_of_split? rfl) rfl
  | .number (.integer n), plain => .scalar (stands_int n) (by simp [ofToken?, Literal.value?_ofInt plain])
  | .string s, _ => .scalar (stands_encode s) (by simp [ofToken?, Quoted.decode?_escape])
  | .array [], _ => .emptyArray (Token.stands_of_split? rfl) (Token.stands_of_split? rfl)
  | .array (v :: more), plain => by
    rw [render]
    exact .array (a := ['['.toUInt8]) (Token.stands_of_split? rfl) (writes_renderItems (v :: more) plain nofun)
      (Token.stands_of_split? rfl)
  | .object [], _ => .emptyObject (Token.stands_of_split? rfl) (Token.stands_of_split? rfl)
  | .object (m :: more), plain => by
    rw [render]
    exact .object (a := ['{'.toUInt8]) (Token.stands_of_split? rfl) (writes_renderMembers (m :: more) plain.2 nofun)
      (Token.stands_of_split? rfl)

theorem writes_renderItems : (items : List Value) → PlainItems items → items ≠ [] →
    Writes (.items items) (renderItems items)
  | [v], plain, _ => .lastItem (writes_render v plain.1)
  | v :: w :: more, plain, _ =>
    .item (c := [','.toUInt8]) (writes_render v plain.1) (Token.stands_of_split? rfl)
      (writes_renderItems (w :: more) plain.2 (List.cons_ne_nil w more))

theorem writes_renderMembers : (members : List (String × Value)) → PlainMembers members → members ≠ [] →
    Writes (.members members) (renderMembers members)
  | [(key, v)], plain, _ =>
    .lastMember (c := [':'.toUInt8]) (stands_encode key) (Quoted.decode?_escape key) (Token.stands_of_split? rfl)
      (writes_render v plain.1)
  | (key, v) :: m :: more, plain, _ => by
    have first := writes_render v plain.1
    have others := writes_renderMembers (m :: more) plain.2 (List.cons_ne_nil m more)
    have all := Writes.member (c := [':'.toUInt8]) (d := [','.toUInt8]) (stands_encode key) (Quoted.decode?_escape key)
      (Token.stands_of_split? rfl) first (Token.stands_of_split? rfl) others
    simpa [renderMembers] using all

end

theorem text_render {v : Value} (plain : v.Plain) (deep : v.depth ≤ maxDepth) : v.Text v.render :=
  ⟨writes_render v plain, deep⟩

end Value
end Accounts.Json
