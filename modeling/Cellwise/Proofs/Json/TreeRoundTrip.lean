import Cellwise.Json.Value
import Cellwise.Text.Characters
import Cellwise.Proofs.Json.Listing
import Cellwise.Proofs.Json.NumberRoundTrip
import Cellwise.Proofs.Json.StringRoundTrip
import Cellwise.Proofs.Json.Tree

/-!
# Values read back

A value with whole numbers only is read from its text, provided that the reader lets it nest as
deeply as it does; otherwise the text is malformed. The same goes for its indented text.

* `Json.Spells` covers the texts of a value that differ in the blanks between its parts.
* `Json.answers_spelled` says what a reader answers to any of them.
* `Json.Spells.unique` says that no text is a text of two values.
-/

namespace Cellwise.Json

open Reader Text

/-! ## How a text begins -/

/-- A character that the text of a value with whole numbers can begin with. -/
def Begins : Json → Char → Prop
  | .null, c => c = 'n'
  | .bool b, c => c = if b then 't' else 'f'
  | .number _, c => beginsNumber c
  | .string _, c => c = '"'
  | .array _, c => c = '['
  | .object _, c => c = '\x7b'

theorem intDigits_eq_cons (n : Int) :
    ∃ c more, intDigits n = c :: more ∧ beginsNumber c = true := by
  by_cases negative : n < 0
  · exact ⟨'-', natDigits n.natAbs, by simp [intDigits, negative], rfl⟩
  · rcases List.exists_cons_of_ne_nil (natDigits_ne_nil n.natAbs) with ⟨c, more, eq⟩
    have digit : c.isDigit = true :=
      isDigit_of_mem_natDigits (by rw [eq]; exact List.mem_cons_self)
    exact ⟨c, more, by simp [intDigits, negative, eq], by simp [beginsNumber, digit]⟩

theorem chars_eq_cons {j : Json} (whole : j.wholeNumbers = true) :
    ∃ c more, j.chars = c :: more ∧ j.Begins c := by
  cases j with
  | null => exact ⟨'n', ['u', 'l', 'l'], rfl, rfl⟩
  | bool b =>
    cases b with
    | true => exact ⟨'t', ['r', 'u', 'e'], rfl, rfl⟩
    | false => exact ⟨'f', ['a', 'l', 's', 'e'], rfl, rfl⟩
  | number n =>
    cases n with
    | integer n => exact intDigits_eq_cons n.val
    | float x => simp [wholeNumbers] at whole
  | string s => exact ⟨'"', _, rfl, rfl⟩
  -- An empty array is written in a way of its own, but with the same bracket.
  | array items => cases items <;> exact ⟨'[', _, rfl, rfl⟩
  | object members => cases members <;> exact ⟨'\x7b', _, rfl, rfl⟩

/-- Numbers begin with a minus sign or a digit, so between U+002D and U+0039. -/
theorem toNat_of_beginsNumber {c : Char} (begins : beginsNumber c = true) :
    45 ≤ c.toNat ∧ c.toNat ≤ 57 := by
  simp only [beginsNumber, Bool.or_eq_true, decide_eq_true_eq] at begins
  rcases begins with rfl | digit
  · decide
  · have range : 48 ≤ c.toNat ∧ c.toNat ≤ 57 := by
      simpa [Char.isDigit, UInt32.le_iff_toNat_le] using digit
    omega

/-- A character of another code is another character. -/
theorem ne_of_beginsNumber {c d : Char} (begins : beginsNumber c = true)
    (other : d.toNat < 45 ∨ 57 < d.toNat) : c ≠ d := by
  rintro rfl
  have range := toNat_of_beginsNumber begins
  omega

theorem isBlankChar_of_beginsNumber {c : Char} (begins : beginsNumber c = true) :
    isBlankChar c = false := by
  have range := toNat_of_beginsNumber begins
  simp [isBlankChar, blankRanges, Ranges.contains]
  omega

/-- No value begins with a blank or with the bracket that closes an array. -/
theorem Begins.opensItem {j : Json} {c : Char} (begins : j.Begins c) : OpensItem c := by
  cases j with
  | number n =>
    have number : beginsNumber c = true := begins
    have other : ∀ d : Char, d.toNat < 45 ∨ 57 < d.toNat → c ≠ d := by
      intro d outside
      exact ne_of_beginsNumber number outside
    refine ⟨?_, other ']' (by decide)⟩
    simp [isSpace, other ' ' (by decide), other '\n' (by decide), other '\t' (by decide),
      other '\r' (by decide)]
  | bool b =>
    obtain rfl : c = if b then 't' else 'f' := begins
    cases b <;> exact ⟨rfl, by decide⟩
  | _ =>
    cases begins
    exact ⟨rfl, by decide⟩

theorem Begins.isBlankChar {j : Json} {c : Char} (begins : j.Begins c) :
    isBlankChar c = false := by
  cases j with
  | number n => exact isBlankChar_of_beginsNumber begins
  | bool b =>
    obtain rfl : c = if b then 't' else 'f' := begins
    cases b <;> rfl
  | _ =>
    cases begins
    rfl

/-- Only the text of `null` begins like `null`. -/
theorem Begins.ne_n {j : Json} {c : Char} (begins : j.Begins c) (value : j ≠ .null) :
    c ≠ 'n' := by
  cases j with
  | null => exact absurd rfl value
  | number n => exact ne_of_beginsNumber begins (by decide)
  | bool b =>
    obtain rfl : c = if b then 't' else 'f' := begins
    cases b <;> decide
  | _ =>
    cases begins
    decide

theorem isBlank_render {j : Json} (whole : j.wholeNumbers = true) : isBlank j.render = false := by
  rcases chars_eq_cons whole with ⟨c, more, eq, begins⟩
  simp [isBlank, render, eq, begins.isBlankChar]

/-! ## Texts as lists of entries -/

/-- The text of a member. -/
def memberChars (member : String × Json) : List Char :=
  stringChars member.1 ++ ':' :: member.2.chars

theorem chars_array (items : List Json) :
    (Json.array items).chars = '[' :: listingChars [] [] ']' (items.map chars) := by
  have further : ∀ items, charsItems items = furtherChars [] [']'] (items.map chars) := by
    intro items
    induction items with
    | nil => rfl
    | cons item items ih => simp [charsItems, furtherChars, ih]
  cases items with
  | nil => rfl
  | cons item items => simp [chars, listingChars, further]

theorem chars_object (members : List (String × Json)) :
    (Json.object members).chars =
      '\x7b' :: listingChars [] [] '\x7d' (members.map memberChars) := by
  have further : ∀ members : List (String × Json),
      charsMembers members = furtherChars [] ['\x7d'] (members.map memberChars) := by
    intro members
    induction members with
    | nil => rfl
    | cons member members ih => simp [charsMembers, furtherChars, memberChars, ih]
  cases members with
  | nil => rfl
  | cons member members => simp [chars, listingChars, memberChars, further]

/-! ## Texts with blanks -/

/-- The text of a member, given the text of its value. -/
def memberText (name : String) (text : List Char) : List Char := stringChars name ++ ':' :: text

/-- The texts of a value: blanks may surround the items of an array and the members of an object,
and stand behind the colon of a member. -/
inductive Spells : Json → List Char → Prop where
  | plain {j : Json} (items : ∀ items, j ≠ .array items) (members : ∀ members, j ≠ .object members) :
      Spells j j.chars
  | array {items : List Json} {text : Json → List Char} {pad gap : List Char} (padding : Blank pad)
      (blank : Blank gap) (each : ∀ item ∈ items, Spells item (text item)) :
      Spells (.array items) ('[' :: listingChars pad gap ']' (items.map text))
  | object {members : List (String × Json)} {text : Json → List Char} {pad gap space : List Char}
      (padding : Blank pad) (blank : Blank gap) (spacing : Blank space)
      (each : ∀ member ∈ members, Spells member.2 (text member.2)) :
      Spells (.object members) ('\x7b' :: listingChars pad gap '\x7d'
        (members.map fun member => memberText member.1 (space ++ text member.2)))

/-- The text without blanks is one of them. -/
theorem spells_chars (j : Json) : Spells j j.chars := by
  induction j using inductionOn with
  | array items ih =>
    rw [chars_array]
    exact .array blank_nil blank_nil ih
  | object members ih =>
    rw [chars_object]
    exact .object blank_nil blank_nil blank_nil ih
  | _ => exact .plain (by simp) (by simp)

theorem blank_newLine (level : Nat) : Blank (newLine level) := by
  intro c mem
  rcases List.mem_cons.1 mem with rfl | mem
  · rfl
  · rw [List.eq_of_mem_replicate mem]
    rfl

theorem indentedChars_array (level : Nat) (items : List Json) :
    (Json.array items).indentedChars level =
      '[' :: listingChars (newLine (level + 1)) (newLine level) ']'
        (items.map (indentedChars (level + 1))) := by
  have further : ∀ items, indentedItems level items =
      furtherChars (newLine (level + 1)) (newLine level ++ [']'])
        (items.map (indentedChars (level + 1))) := by
    intro items
    induction items with
    | nil => rfl
    | cons item items ih => simp [indentedItems, furtherChars, ih]
  cases items with
  | nil => rfl
  | cons item items => simp [indentedChars, listingChars, further]

theorem indentedChars_object (level : Nat) (members : List (String × Json)) :
    (Json.object members).indentedChars level =
      '\x7b' :: listingChars (newLine (level + 1)) (newLine level) '\x7d'
        (members.map fun member =>
          memberText member.1 ([' '] ++ member.2.indentedChars (level + 1))) := by
  have further : ∀ members, indentedMembers level members =
      furtherChars (newLine (level + 1)) (newLine level ++ ['\x7d'])
        (members.map fun member =>
          memberText member.1 ([' '] ++ member.2.indentedChars (level + 1))) := by
    intro members
    induction members with
    | nil => rfl
    | cons member members ih => simp [indentedMembers, furtherChars, memberText, ih]
  cases members with
  | nil => rfl
  | cons member members => simp [indentedChars, listingChars, memberText, further]

/-- The text with one item or member a line is one of them, at whatever level it stands. -/
theorem spells_indentedChars (level : Nat) (j : Json) : Spells j (j.indentedChars level) := by
  induction j using inductionOn generalizing level with
  | array items ih =>
    rw [indentedChars_array]
    exact .array (blank_newLine _) (blank_newLine _) fun item mem => ih item mem (level + 1)
  | object members ih =>
    rw [indentedChars_object]
    have space : Blank [' '] := by simp [Blank, isSpace]
    exact .object (blank_newLine _) (blank_newLine _) space fun member mem =>
      ih member mem (level + 1)
  -- Values without parts take one line in either text.
  | _ => exact .plain (by simp) (by simp)

theorem Spells.eq_cons {j : Json} {text : List Char} (spells : Spells j text)
    (whole : j.wholeNumbers = true) : ∃ c more, text = c :: more ∧ j.Begins c := by
  cases spells with
  | plain => exact chars_eq_cons whole
  | array => exact ⟨'[', _, rfl, rfl⟩
  | object => exact ⟨'\x7b', _, rfl, rfl⟩

/-! ## Reading a value -/

namespace Reader

/-- The text of a whole number begins like a number, and all of it is taken. -/
theorem exists_number_cons (n : Integer) :
    ∃ c more, (integer n).chars = c :: more ∧ beginsNumber c = true ∧
      ∀ rest, Settled rest → number (c :: (more ++ rest)) = .ok (.integer n, rest) := by
  rcases intDigits_eq_cons n.val with ⟨c, more, eq, begins⟩
  refine ⟨c, more, eq, begins, ?_⟩
  intro rest settled
  have read := reads_number n rest settled
  rwa [eq] at read

section Dispatch

variable {α : Type} (null : Reader α) (bool : Bool → Reader α)
  (number string array object : Reader α)

theorem dispatch_number {c : Char} (begins : beginsNumber c = true) (rest : List Char) :
    dispatch null bool number string array object (c :: rest) = number (c :: rest) := by
  have solid : isSpace c = false := (Begins.opensItem (j := .integer (.ofUInt8 0)) begins).1
  have others : c ≠ 'n' ∧ c ≠ 't' ∧ c ≠ 'f' := by
    refine ⟨?_, ?_, ?_⟩ <;> exact ne_of_beginsNumber begins (by decide)
  rw [dispatch, bind_of_ok (peek_cons _ solid)]
  simp [others, begins]

theorem dispatch_quote (rest : List Char) :
    dispatch null bool number string array object ('"' :: rest) = string rest := rfl

theorem dispatch_bracket (rest : List Char) :
    dispatch null bool number string array object ('[' :: rest) = array ('[' :: rest) := rfl

theorem dispatch_brace (rest : List Char) :
    dispatch null bool number string array object ('\x7b' :: rest) = object ('\x7b' :: rest) :=
  rfl

end Dispatch

/-- Values without parts are read wherever values are read. -/
theorem reads_jsonWith {j : Json} (whole : j.wholeNumbers = true)
    (items : ∀ items, j ≠ .array items) (members : ∀ members, j ≠ .object members)
    (array object : Reader Json) : Reads (jsonWith array object) j.chars j := by
  intro rest settled
  cases j with
  | null => rfl
  | bool b => cases b <;> rfl
  | number n =>
    cases n with
    | float x => simp [wholeNumbers] at whole
    | integer n =>
      rcases exists_number_cons n with ⟨c, more, eq, begins, read⟩
      rw [eq, List.cons_append, jsonWith, dispatch_number _ _ _ _ _ _ begins,
        bind_of_ok (read rest settled)]
      rfl
  | string s =>
    rw [chars, stringChars_eq, jsonWith, dispatch_quote, bind_of_ok (stringContent_append s rest)]
    rfl
  | array parts => exact absurd rfl (items parts)
  | object parts => exact absurd rfl (members parts)

/-- What a reader answers to the text of a value that stands for `a` when it lets brackets nest up
to a bound. -/
def within {α : Type} (bound : Nat) (j : Json) (a : α) : Except Fault α :=
  if j.depth ≤ bound then .ok a else .error .malformed

theorem within_of_le {α : Type} {bound : Nat} {j : Json} (shallow : j.depth ≤ bound) (a : α) :
    within bound j a = .ok a := if_pos shallow

theorem within_of_lt {α : Type} {bound : Nat} {j : Json} (deep : bound < j.depth) (a : α) :
    within bound j a = .error .malformed := if_neg (Nat.not_le.2 deep)

theorem map_within {α β : Type} (f : α → β) (bound : Nat) (j : Json) (a : α) :
    (within bound j a).map f = within bound j (f a) := by
  unfold within
  split <;> rfl

/-- The items of an array are taken up to the first that nests too deeply. -/
theorem answers_items_within {α : Type} {item : Reader α} {json : α → Json}
    {text : α → List Char} {bound : Nat} {values : List α} {pad gap : List Char}
    (padding : Blank pad) (blank : Blank gap)
    (opened : ∀ a ∈ values, ∃ c more, text a = c :: more ∧ OpensItem c)
    (each : ∀ a ∈ values, Answers item (text a) (within bound (json a) a)) :
    Answers (items item) (listingChars pad gap ']' (values.map text))
      (within (bound + 1) (.array (values.map json)) values) := by
  have taken : ∀ a ∈ values, ∀ found, Answers (itemOnto item found) (text a)
      (if (json a).depth ≤ bound then .ok (a :: found) else .error .malformed) := by
    intro a mem found
    have next := (each a mem).map (· :: found)
    rwa [map_within] at next
  have all := answers_items (takesAll_of_forall (fun a => (json a).depth ≤ bound) opened taken [])
    padding blank
  have shallow : (Json.array (values.map json)).depth ≤ bound + 1 ↔
      ∀ a ∈ values, (json a).depth ≤ bound := by
    simp [depth_array_le_succ]
  rw [within]
  by_cases fits : ∀ a ∈ values, (json a).depth ≤ bound
  · rw [if_pos fits] at all
    rw [if_pos (shallow.2 fits)]
    simpa [Except.map] using all
  · rw [if_neg fits] at all
    rw [if_neg (mt shallow.1 fits)]
    simpa [Except.map] using all

theorem string_taken (s : String) (rest : List Char) :
    stringContent (s.toList.flatMap escapeChar ++ ['"'] ++ rest) = .ok (s, rest) := by
  simpa using stringContent_append s rest

theorem colon_taken (rest : List Char) : colon ([':'] ++ rest) = .ok ((), rest) := rfl

theorem memberText_eq (name : String) (text : List Char) :
    memberText name text =
      '"' :: ((name.toList.flatMap escapeChar ++ ['"']) ++ ([':'] ++ text)) := by
  simp [memberText, stringChars]

theorem memberChars_eq (member : String × Json) :
    memberChars member =
      '"' :: ((member.1.toList.flatMap escapeChar ++ ['"']) ++ ([':'] ++ member.2.chars)) :=
  memberText_eq member.1 member.2.chars

/-- A value is read behind blanks as well. -/
theorem answers_json_behind_blank {bound : Nat} {space text : List Char}
    {answer : Except Fault Json} (spacing : Blank space)
    (answers : Answers (json bound) text answer) : Answers (json bound) (space ++ text) answer := by
  have skipped (array object : Reader Json) (input : List Char) :
      jsonWith array object (space ++ input) = jsonWith array object input :=
    bind_eq_of_eq (peek_blank_append spacing input) _
  intro rest settled
  rw [List.append_assoc, ← answers rest settled]
  cases bound <;> exact skipped _ _ _

theorem answers_memberOf {bound : Nat} {name : String} {value : Json} {text : List Char}
    (answers : Answers (json bound) text (within bound value value))
    (found : List (String × Json)) :
    Answers (memberOf (json bound) found) (memberText name text)
      (within bound value ((name, value) :: found)) := by
  have value := answers.map fun value => (name, value) :: found
  rw [map_within] at value
  rw [memberText_eq]
  exact .behind_drop (.behind (string_taken name) (.behind colon_taken value))

/-- The members of an object are taken up to the first whose value nests too deeply. -/
theorem members_json {members : List (String × Json)} {bound : Nat} {text : Json → List Char}
    {pad gap : List Char} (padding : Blank pad) (blank : Blank gap)
    (each : ∀ member ∈ members,
      Answers (json bound) (text member.2) (within bound member.2 member.2)) (rest : List Char) :
    Reader.members (memberOf (json bound)) []
        (listingChars pad gap '\x7d'
          (members.map fun member => memberText member.1 (text member.2)) ++ rest) =
      within (bound + 1) (.object members) (members.reverse, '\x7d' :: rest) := by
  have opened : ∀ member ∈ members,
      ∃ c more, memberText member.1 (text member.2) = c :: more ∧ OpensMember c := by
    intro member mem
    exact ⟨'"', _, rfl, rfl⟩
  have taken : ∀ member ∈ members, ∀ found,
      Answers (memberOf (json bound) found) (memberText member.1 (text member.2))
        (if member.2.depth ≤ bound then .ok (member :: found) else .error .malformed) := by
    intro member mem found
    exact answers_memberOf (each member mem) found
  rw [members_listing (takesAll_of_forall (fun member : String × Json => member.2.depth ≤ bound)
    opened taken []) padding blank rest]
  simp only [within, depth_object_le_succ]
  split <;> simp [Except.map]

theorem answers_json_array {items : List Json} {bound : Nat} {text : Json → List Char}
    {pad gap : List Char} (padding : Blank pad) (blank : Blank gap)
    (opened : ∀ item ∈ items, ∃ c more, text item = c :: more ∧ OpensItem c)
    (each : ∀ item ∈ items, Answers (json bound) (text item) (within bound item item)) :
    Answers (json (bound + 1)) ('[' :: listingChars pad gap ']' (items.map text))
      (within (bound + 1) (.array items) (.array items)) := by
  have parts : Answers (Reader.items (json bound)) (listingChars pad gap ']' (items.map text))
      (within (bound + 1) (.array (items.map fun item => item)) items) :=
    answers_items_within padding blank opened each
  have all := (parts.map Json.array).behind_drop (c := '[')
  rw [map_within, List.map_id'] at all
  intro rest settled
  rw [List.cons_append, json, jsonWith, dispatch_bracket]
  exact all rest settled

theorem answers_json_object {members : List (String × Json)} {bound : Nat}
    {text : Json → List Char} {pad gap : List Char} (padding : Blank pad) (blank : Blank gap)
    (each : ∀ member ∈ members,
      Answers (json bound) (text member.2) (within bound member.2 member.2)) :
    Answers (json (bound + 1))
      ('\x7b' :: listingChars pad gap '\x7d'
        (members.map fun member => memberText member.1 (text member.2)))
      (within (bound + 1) (.object members) (.object members)) := by
  intro rest _
  -- The closing brace is taken behind the members, so that a fault in one of them comes first.
  have parts := members_json padding blank each rest
  rw [List.cons_append, json, jsonWith, dispatch_brace, bind_of_ok (drop_cons _ _)]
  by_cases shallow : (Json.object members).depth ≤ bound + 1
  · rw [within_of_le shallow] at parts ⊢
    rw [bind_of_ok parts, bind_of_ok (closeObject_cons rest)]
    simp [Except.map]
  · rw [within_of_lt (Nat.not_le.1 shallow)] at parts ⊢
    exact bind_of_error parts

/-- The whole value is taken, unless it nests too deeply for the reader. -/
theorem answers_spelled {j : Json} {text : List Char} (spells : Spells j text)
    (whole : j.wholeNumbers = true) (bound : Nat) :
    Answers (json bound) text (within bound j j) := by
  -- The parts are read with a smaller bound, so that the bound goes down along the tree.
  induction spells generalizing bound with
  | @plain j items members =>
    -- Values without parts are read in the same way at every bound.
    have flat : j.depth = 0 := by
      cases j with
      | array parts => exact absurd rfl (items parts)
      | object parts => exact absurd rfl (members parts)
      | _ => rfl
    rw [within_of_le (by omega)]
    cases bound <;> exact reads_jsonWith whole items members _ _
  | @array items text pad gap padding blank each ih =>
    rw [wholeNumbers_array] at whole
    cases bound with
    | zero =>
      -- Every array is one bracket deep at least, and no bracket may be opened.
      rw [within_of_lt (by simp [depth])]
      intro rest settled
      rfl
    | succ bound =>
      refine answers_json_array padding blank ?_ fun item mem => ih item mem (whole item mem) bound
      intro item mem
      rcases (each item mem).eq_cons (whole item mem) with ⟨c, more, eq, begins⟩
      exact ⟨c, more, eq, begins.opensItem⟩
  | @object members text pad gap space padding blank spacing each ih =>
    rw [wholeNumbers_object] at whole
    cases bound with
    | zero =>
      rw [within_of_lt (by simp [depth])]
      intro rest settled
      rfl
    | succ bound =>
      let spaced (value : Json) : List Char := space ++ text value
      have values : ∀ member ∈ members,
          Answers (json bound) (spaced member.2) (within bound member.2 member.2) := by
        intro member mem
        exact answers_json_behind_blank spacing (ih member mem (whole member mem) bound)
      have all := answers_json_object padding blank values
      exact all

theorem answers_json {j : Json} (whole : j.wholeNumbers = true) (bound : Nat) :
    Answers (json bound) j.chars (within bound j j) :=
  answers_spelled (spells_chars j) whole bound

end Reader

/-- A text tells which value it is a text of, however deeply that nests. -/
theorem Spells.unique {j other : Json} {text : List Char} (spells : Spells j text)
    (spells' : Spells other text) (whole : j.wholeNumbers = true)
    (whole' : other.wholeNumbers = true) : j = other := by
  -- The text is read with room for the deeper of the two values.
  have left := (answers_spelled spells whole (max j.depth other.depth)).whole
  have right := (answers_spelled spells' whole' (max j.depth other.depth)).whole
  rw [within_of_le (Nat.le_max_left _ _)] at left
  rw [within_of_le (Nat.le_max_right _ _)] at right
  exact Except.ok.inj (left.symm.trans right)

end Cellwise.Json
