import Cellwise.Json.Record
import Cellwise.Proofs.Json.TreeRoundTrip

/-!
# Values of types read back

`Form.Faithful a json` says that `a` is written as `json` and that the text of `json` is read as `a`
by every reader that lets it nest so deeply. One lemma for each way of putting types together leads
from the parts to the whole; a faithful value is told by its text.
-/

namespace Cellwise.Json

open Reader

variable {α β σ : Type}

/-- A value is written as JSON with whole numbers, and its text is read as the value unless it nests
too deeply for the reader. -/
structure Form.Faithful [Form α] (a : α) (json : Json) : Prop where
  encoded : Form.encode a = .ok json
  whole : json.wholeNumbers = true
  answers : ∀ bound, Answers (Form.read bound : Reader α) json.chars (within bound json a)

namespace Form.Faithful

variable [Form α] {a b : α} {json other : Json}

/-! ## Whole texts -/

theorem print_eq (faithful : Faithful a json) : print a = .ok json.render := by
  rw [print, faithful.encoded]
  rfl

theorem parse_render (faithful : Faithful a json) :
    parse json.render = within maxDepth json a := by
  have whole := (faithful.answers maxDepth).whole
  simpa [parse, render] using whole

theorem reads (faithful : Faithful a json) {bound : Nat} (shallow : json.depth ≤ bound) :
    Reads (Form.read bound) json.chars a := by
  have answers := faithful.answers bound
  rwa [within_of_le shallow] at answers

/-- Different values have different texts, however deeply they nest. -/
theorem render_injective (faithful : Faithful a json) (faithful' : Faithful b other)
    (same : json.render = other.render) : a = b := by
  -- Both texts are read with room for the deeper of the two values.
  have chars : json.chars = other.chars := by simpa [render] using congrArg String.toList same
  have left := (faithful.answers (max json.depth other.depth)).whole
  have right := (faithful'.answers (max json.depth other.depth)).whole
  rw [within_of_le (Nat.le_max_left _ _)] at left
  rw [within_of_le (Nat.le_max_right _ _), ← chars] at right
  exact Except.ok.inj (left.symm.trans right)

end Form.Faithful

/-! ## Simple types -/

/-- A string is known by its quote. -/
theorem peek_string (s : String) (rest : List Char) :
    peek ((Json.string s).chars ++ rest) =
      .ok (some '"', '"' :: (s.toList.flatMap escapeChar ++ '"' :: rest)) := by
  rw [chars, stringChars_eq]
  exact peek_cons _ rfl

theorem reads_string (expected s : String) :
    Reads (Reader.string expected) (Json.string s).chars s := by
  intro rest _
  have content := stringContent_append s rest
  rw [Reader.string, bind_of_ok (peek_string s rest)]
  exact content

theorem faithful_string (s : String) : Form.Faithful s (.string s) where
  encoded := rfl
  whole := rfl
  answers bound := by
    rw [within_of_le (Nat.zero_le bound)]
    exact reads_string "a string" s

theorem reads_wholeNumber {expected : String} {lower upper : Int} {n : Integer}
    (fits : lower ≤ n.val ∧ n.val < upper) :
    Reads (wholeNumber expected lower upper) (integer n).chars n.val := by
  intro rest settled
  rcases exists_number_cons n with ⟨c, more, eq, begins, read⟩
  have solid : isSpace c = false := (Begins.opensItem (j := integer n) begins).1
  have number_read : numberOr expected (c :: (more ++ rest)) = .ok (.integer n, rest) := by
    rw [numberOr, bind_of_ok (peek_cons _ solid)]
    simpa [begins] using read rest settled
  rw [eq, List.cons_append, wholeNumber, bind_of_ok number_read]
  simp [fits, Except.map]

theorem faithful_int64 (n : Int64) : Form.Faithful n (.integer (.ofInt64 n)) where
  encoded := rfl
  whole := rfl
  answers bound := by
    rw [within_of_le (Nat.zero_le bound)]
    have fits : -9223372036854775808 ≤ (Integer.ofInt64 n).val ∧
        (Integer.ofInt64 n).val < 9223372036854775808 := ⟨n.le_toInt, n.toInt_lt⟩
    have same : Int64.ofInt (Integer.ofInt64 n).val = n := Int64.ofInt_toInt n
    have number : Reads (wholeNumber "i64" (-9223372036854775808) 9223372036854775808)
        (integer (.ofInt64 n)).chars (Integer.ofInt64 n).val := reads_wholeNumber fits
    have read := number.map Int64.ofInt
    rwa [Except.map, same] at read

theorem faithful_uint32 (n : UInt32) : Form.Faithful n (.integer (.ofUInt32 n)) where
  encoded := rfl
  whole := rfl
  answers bound := by
    rw [within_of_le (Nat.zero_le bound)]
    have fits : 0 ≤ (Integer.ofUInt32 n).val ∧ (Integer.ofUInt32 n).val < 4294967296 :=
      ⟨Int.natCast_nonneg _, Int.ofNat_lt.2 n.toNat_lt⟩
    have same : UInt32.ofNat (Integer.ofUInt32 n).val.toNat = n := UInt32.ofNat_toNat
    have number : Reads (wholeNumber "u32" 0 4294967296) (integer (.ofUInt32 n)).chars
        (Integer.ofUInt32 n).val := reads_wholeNumber fits
    have read := number.map fun value => UInt32.ofNat value.toNat
    rwa [Except.map, same] at read

theorem faithful_bool (b : Bool) : Form.Faithful b (.bool b) where
  encoded := rfl
  whole := rfl
  answers bound := by
    rw [within_of_le (Nat.zero_le bound)]
    intro rest _
    cases b <;> rfl

/-! ## Compound types -/

section Compound

variable [Form α] {a : α} {json : Json}

theorem faithful_none : Form.Faithful (none : Option α) .null where
  encoded := rfl
  whole := rfl
  answers bound := by
    rw [within_of_le (Nat.zero_le bound)]
    intro rest settled
    rfl

/-- A value that is not written as `null` is told from the absent one. -/
theorem Form.Faithful.some (faithful : Faithful a json) (present : json ≠ .null) :
    Faithful (some a) json where
  encoded := faithful.encoded
  whole := faithful.whole
  answers bound := by
    rcases chars_eq_cons faithful.whole with ⟨c, more, eq, begins⟩
    have read := (faithful.answers bound).map Option.some
    rw [map_within] at read
    intro rest settled
    -- The first character decides that it is not `null` that is read.
    have seen := peek_cons (more ++ rest) begins.opensItem.1
    have other : Option.some c ≠ Option.some 'n' := by simpa using begins.ne_n present
    have read := read rest settled
    rw [eq] at read ⊢
    simp only [Form.read, List.cons_append]
    rw [bind_of_ok seen, if_neg other]
    exact read

theorem faithful_list {toJson : α → Json} {values : List α}
    (each : ∀ a ∈ values, Form.Faithful a (toJson a)) :
    Form.Faithful values (.array (values.map toJson)) where
  encoded := by
    have encoded : values.mapM Form.encode = Except.ok (ε := String) (values.map toJson) := by
      induction values with
      | nil => rfl
      | cons a values ih =>
        have first := (each a List.mem_cons_self).encoded
        have rest := ih fun b mem => each b (List.mem_cons_of_mem a mem)
        simp [first, rest, bind, Except.bind, pure, Except.pure]
    simp [Form.encode, encoded, bind, Except.bind, pure, Except.pure]
  whole := by
    rw [wholeNumbers_array]
    intro item mem
    rcases List.mem_map.1 mem with ⟨a, found, rfl⟩
    exact (each a found).whole
  answers bound := by
    rw [chars_array, List.map_map]
    have open_bracket : ∀ rest, peek ('[' :: rest) = .ok (Option.some '[', '[' :: rest) := by
      intro rest
      exact peek_cons rest rfl
    cases bound with
    | zero =>
      -- Not even the bracket of the list itself may be opened.
      rw [within_of_lt (by simp [depth])]
      intro rest settled
      rfl
    | succ bound =>
      have opened : ∀ a ∈ values, ∃ c more, (toJson a).chars = c :: more ∧ OpensItem c := by
        intro a mem
        rcases chars_eq_cons (each a mem).whole with ⟨c, more, eq, begins⟩
        exact ⟨c, more, eq, begins.opensItem⟩
      have parts : Answers (items (Form.read bound))
          (listingChars [] [] ']' (values.map fun a => (toJson a).chars))
          (within (bound + 1) (.array (values.map toJson)) values) :=
        answers_items_within blank_nil blank_nil opened fun a mem => (each a mem).answers bound
      intro rest settled
      simp only [Form.read, List.cons_append]
      rw [arrayOr, bind_of_ok (open_bracket _)]
      exact parts rest settled

theorem faithful_canonicalJson {json : CanonicalJson} (whole : json.val.wholeNumbers = true) :
    Form.Faithful json json.val where
  encoded := rfl
  whole
  answers bound := by
    -- What is read is brought into canonical form, which the value is in already.
    have same : CanonicalJson.ofJson json.val = json := Subtype.ext json.property.canonical_eq
    have read := (answers_json whole bound).map CanonicalJson.ofJson
    rwa [map_within, same] at read

end Compound

/-! ## Records -/

section Records

variable {form : RecordForm σ α} {slot : Slot σ} {state : σ} {name : String} {json : Json}
  {bound : Nat} {members : List (String × Json)} {a : α}

/-- A member is taken for the field of its name, if that has not been filled. -/
theorem answers_member {answer : Except Fault σ}
    (found : form.slots.find? (fun slot => slot.name = name) = some slot)
    (free : slot.isFilled state = false)
    (answers : Answers (slot.fill bound state) json.chars answer) :
    Answers (form.member bound state) (memberChars (name, json)) answer := by
  rw [memberChars_eq]
  refine .behind_drop (.behind (string_taken name) ?_)
  simp only [found, free, Bool.false_eq_true, if_false]
  exact .behind colon_taken answers

theorem answers_ofOption {get : σ → Option β} {set : Option β → σ → σ} {read : Nat → Reader β}
    {answer : Except Fault β} (answers : Answers (read bound) json.chars answer) :
    Answers ((Slot.ofOption name get set read).fill bound state) json.chars
      (answer.map fun value => set (some value) state) :=
  answers.map fun value => set (some value) state

/-- A record is read from an object as the fields that its members fill make it. -/
theorem answers_record {filled : Except Fault σ}
    (all : TakesAll OpensMember (form.member bound) form.start (members.map memberChars) filled) :
    Answers (form.read (bound + 1)) (Json.object members).chars
      (filled.bind fun state => (form.finish state).mapError .mismatch) := by
  intro rest _
  have listed := members_listing all blank_nil blank_nil rest
  rw [chars_object, RecordForm.read, List.cons_append, bind_of_ok (peek_cons _ rfl)]
  simp only [if_true, nested]
  rw [bind_of_ok (drop_cons _ _)]
  cases filled with
  | error fault => exact bind_of_error listed
  | ok state =>
    rw [bind_of_ok listed, RecordForm.finishReading]
    simp only [Except.bind]
    cases form.finish state with
    | error what => exact bind_of_error rfl
    | ok a =>
      rw [bind_of_ok (pure_apply _ _), bind_of_ok (closeObject_cons rest)]
      rfl

theorem reads_record {final : σ}
    (all : TakesAll OpensMember (form.member bound) form.start (members.map memberChars)
      (.ok final)) (finish : form.finish final = .ok a) :
    Reads (form.read (bound + 1)) (Json.object members).chars a := by
  have answers := answers_record all
  simp only [Except.bind, finish] at answers
  exact answers

/-- No object is read where no bracket may be opened. -/
theorem answers_record_zero :
    Answers (form.read 0) (Json.object members).chars (.error .malformed) := by
  rw [chars_object]
  intro rest settled
  rfl

end Records

/-! ## Sums -/

/-- A variant without content is read from its name. -/
theorem reads_variant {variants : Variants α} {name : String} {value : α}
    (listed : variants.lookup name = some (.nothing value)) (bound : Nat) :
    Reads (variants.read bound) (Json.string name).chars value := by
  intro rest _
  have content := stringContent_append name rest
  rw [Variants.read, bind_of_ok (peek_string name rest)]
  simp only [if_true]
  rw [bind_of_ok (drop_cons _ _), bind_of_ok content, Variants.find, listed]
  rfl

/-! ## Strings in the place of other values -/

section Strings

variable (expected s : String)

/-- A string is a character if it has one. -/
theorem answers_char_string (bound : Nat) :
    Answers (Form.read bound : Reader Char) (Json.string s).chars
      (match s.toList with
        | [c] => .ok c
        | _ => .error (.mismatch (.invalidValue (.string s) "a character"))) := by
  intro rest settled
  have content : Reader.string "a character" ((Json.string s).chars ++ rest) = .ok (s, rest) :=
    reads_string "a character" s rest settled
  refine (bind_of_ok content).trans ?_
  cases s.toList with
  | nil => rfl
  | cons c more => cases more <;> rfl

theorem answers_unexpected :
    Answers (unexpected expected : Reader α) (Json.string s).chars
      (.error (.mismatch (.invalidType (.string s) expected))) := by
  intro rest _
  rw [chars, stringChars_eq, unexpected, dispatch_quote, bind_of_ok (stringContent_append s rest)]
  rfl

theorem answers_wholeNumber_string (lower upper : Int) :
    Answers (wholeNumber expected lower upper) (Json.string s).chars
      (.error (.mismatch (.invalidType (.string s) expected))) := by
  refine Answers.error_bind ?_ _
  intro rest settled
  -- A quote is not the beginning of a number.
  exact answers_unexpected expected s rest settled

theorem answers_record_string (form : RecordForm σ α) (bound : Nat) :
    Answers (form.read bound) (Json.string s).chars
      (.error (.mismatch (.invalidType (.string s) form.title))) := by
  intro rest settled
  exact answers_unexpected form.title s rest settled

end Strings

/-! ## Blank texts -/

section Blanks

variable {input : List Char} (blank : ∀ c ∈ input, Text.isBlankChar c = true)

include blank

/-- More characters are blank than JSON skips, so that one may be left to be seen. -/
theorem peek_blank : ∃ next rest, peek input = .ok (next, rest) ∧
    (∀ c ∈ next, Text.isBlankChar c = true) ∧ ∀ c ∈ rest, Text.isBlankChar c = true := by
  have left : ∀ c ∈ input.dropWhile isSpace, Text.isBlankChar c = true := by
    intro c mem
    exact blank c ((List.dropWhile_suffix _).subset mem)
  refine ⟨_, _, rfl, ?_, left⟩
  intro c seen
  exact left c (List.mem_of_head? seen)

theorem dispatch_blank (null : Reader α) (bool : Bool → Reader α)
    (number string array object : Reader α) :
    ∃ fault, dispatch null bool number string array object input = .error fault := by
  rcases peek_blank blank with ⟨next, rest, seen, blank, -⟩
  rw [dispatch, bind_of_ok seen]
  cases next with
  | none => exact ⟨.unfinished, rfl⟩
  | some c =>
    have blank : Text.isBlankChar c = true := blank c rfl
    have other (d : Char) (solid : Text.isBlankChar d = false) : c ≠ d := by
      rintro rfl
      exact Bool.false_ne_true (solid.symm.trans blank)
    have no_number : beginsNumber c = false := by
      refine Bool.eq_false_iff.2 ?_
      intro begins
      exact Bool.false_ne_true ((isBlankChar_of_beginsNumber begins).symm.trans blank)
    refine ⟨.malformed, ?_⟩
    simp [other 'n' rfl, other 't' rfl, other 'f' rfl, no_number, other '"' rfl, other '[' rfl,
      other '\x7b' rfl, fail]

theorem record_blank (form : RecordForm σ α) (bound : Nat) :
    ∃ fault, form.read bound input = .error fault := by
  rcases peek_blank blank with ⟨next, rest, seen, solid, blank⟩
  have no_brace : next ≠ some '\x7b' := by
    rintro rfl
    exact absurd (solid _ rfl) (by decide)
  have no_bracket : next ≠ some '[' := by
    rintro rfl
    exact absurd (solid _ rfl) (by decide)
  rw [RecordForm.read, bind_of_ok seen, if_neg no_brace, if_neg no_bracket, unexpected]
  exact dispatch_blank blank ..

end Blanks

end Cellwise.Json
