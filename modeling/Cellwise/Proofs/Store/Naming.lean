import Mathlib.Data.String.Basic
import Mathlib.Data.String.Lemmas
import Cellwise.Proofs.Effect
import Cellwise.Store.Keyspace

/-!
# Which names a keyspace may have

A name is proper if it has 1 to 48 characters, an ASCII letter first, and nothing but ASCII letters,
ASCII digits and underscores. The check of a name measures it in bytes. That makes no difference to
the names it accepts, since the characters of a proper name take one byte each, but it does make a
difference to the reason it gives for a name with other characters.

* `KeyspaceName.Proper` is the rule, for any way to measure a name, and `KeyspaceName.FirstBroken`
  says which part of it is the first that a name breaks.
* `Keyspace.opens_under_proper_name` says that a keyspace is opened if and only if its name is
  proper.
* `Keyspace.reasons_hold_unless_bytes_count` says when the reason for a refusal is true of the name.
-/

namespace Cellwise

namespace KeyspaceName

/-! ## Characters of names -/

/-- An ASCII letter. -/
def IsLetter (c : Char) : Prop := 'A' ≤ c ∧ c ≤ 'Z' ∨ 'a' ≤ c ∧ c ≤ 'z'

/-- An ASCII letter, an ASCII digit or an underscore. -/
def IsWordChar (c : Char) : Prop := IsLetter c ∨ '0' ≤ c ∧ c ≤ '9' ∨ c = '_'

instance : DecidablePred IsLetter := fun _ => inferInstanceAs (Decidable (_ ∨ _))

instance : DecidablePred IsWordChar := fun _ => inferInstanceAs (Decidable (_ ∨ _))

variable {c : Char} {name : String}

theorem isAlpha_iff : c.isAlpha = true ↔ IsLetter c := by
  have ranges : c.isAlpha = (decide ('A'.val ≤ c.val ∧ c.val ≤ 'Z'.val) ||
      (decide ('a'.val ≤ c.val) && decide (c.val ≤ 'z'.val))) := rfl
  simp [ranges, IsLetter, Char.le_def]

theorem isNameChar_iff : isNameChar c = true ↔ IsWordChar c := by
  simp [isNameChar, isAlpha_iff, IsWordChar, Char.isDigit, Char.le_def, or_assoc]

theorem all_isNameChar_iff {chars : List Char} :
    chars.all isNameChar = true ↔ ∀ c ∈ chars, IsWordChar c := by
  simp [isNameChar_iff]

theorem IsWordChar.le_z (word : IsWordChar c) : c ≤ 'z' := by
  rcases word with (⟨-, below⟩ | ⟨-, below⟩) | ⟨-, below⟩ | rfl
  · exact below.trans (by decide)
  · exact below
  · exact below.trans (by decide)
  · decide

theorem IsWordChar.utf8Size_eq (word : IsWordChar c) : c.utf8Size = 1 := by
  have code : c.val ≤ 122 := Char.le_def.1 word.le_z
  exact Char.utf8Size_eq_one_iff.2 (UInt32.le_trans code (by decide))

/-- Measured in bytes, a name without other characters is as long as in characters. -/
theorem utf8ByteSize_eq_length (word : ∀ c ∈ name.toList, IsWordChar c) :
    name.utf8ByteSize = name.length := by
  have bytes : ∀ chars : List Char, (∀ c ∈ chars, IsWordChar c) →
      String.utf8Len chars = chars.length := by
    intro chars word
    induction chars with
    | nil => rfl
    | cons c chars ih =>
      rw [List.forall_mem_cons] at word
      rw [String.utf8Len_cons, ih word.2, word.1.utf8Size_eq, List.length_cons]
  rw [← String.utf8Len_toList, bytes _ word, String.length_toList]

/-! ## The rule -/

/-- A name begins with an ASCII letter. -/
def Begins (name : String) : Prop := ∃ first ∈ name.toList.head?, IsLetter first

/-- A name that a keyspace may have, its length measured by `size`. -/
structure Proper (size : String → Nat) (name : String) : Prop where
  nonempty : 1 ≤ size name
  short : size name ≤ 48
  begins : Begins name
  word : ∀ c ∈ name.toList, IsWordChar c

/-- It makes no difference to the rule whether bytes or characters are counted. -/
theorem proper_utf8ByteSize_iff :
    Proper String.utf8ByteSize name ↔ Proper String.length name := by
  constructor
  · rintro ⟨nonempty, short, begins, word⟩
    rw [utf8ByteSize_eq_length word] at nonempty short
    exact ⟨nonempty, short, begins, word⟩
  · rintro ⟨nonempty, short, begins, word⟩
    rw [← utf8ByteSize_eq_length word] at nonempty short
    exact ⟨nonempty, short, begins, word⟩

/-- The first part of the rule that a name breaks. -/
inductive FirstBroken (name : String) : Fault → Prop where
  | empty (nothing : name = "") : FirstBroken name .empty
  | noLetterFirst {first : Char} (head : first ∈ name.toList.head?) (other : ¬IsLetter first) :
      FirstBroken name .noLetterFirst
  | tooLong (begins : Begins name) (long : 48 < name.utf8ByteSize) : FirstBroken name .tooLong
  | badCharacter (begins : Begins name) (short : name.utf8ByteSize ≤ 48) {bad : Char}
      (mem : bad ∈ name.toList) (other : ¬IsWordChar bad) : FirstBroken name .badCharacter

/-! ## What the check finds -/

section Nonempty

variable {first : Char} {rest : List Char} (chars : name.toList = first :: rest)

include chars

theorem begins_iff : Begins name ↔ IsLetter first := by
  simp [Begins, chars]

theorem fault_of_cons :
    fault name =
      if ¬IsLetter first then some .noLetterFirst
      else if 48 < name.utf8ByteSize then some .tooLong
      else if rest.all isNameChar then none
      else some .badCharacter := by
  rw [fault, chars]
  simp only [← isAlpha_iff, maxLength]
  cases first.isAlpha <;> cases rest.all isNameChar <;> simp

theorem proper_iff_of_cons :
    Proper String.utf8ByteSize name ↔
      IsLetter first ∧ name.utf8ByteSize ≤ 48 ∧ ∀ c ∈ rest, IsWordChar c := by
  constructor
  · rintro ⟨-, short, begins, word⟩
    rw [chars, List.forall_mem_cons] at word
    exact ⟨(begins_iff chars).1 begins, short, word.2⟩
  · rintro ⟨letter, short, word⟩
    have nonempty : name.utf8ByteSize ≠ 0 := by
      rw [Ne, String.utf8ByteSize_eq_zero_iff]
      rintro rfl
      cases chars
    refine ⟨Nat.one_le_iff_ne_zero.2 nonempty, short, (begins_iff chars).2 letter, ?_⟩
    -- A letter may stand behind the first character as well.
    rw [chars, List.forall_mem_cons]
    exact ⟨.inl letter, word⟩

end Nonempty

theorem fault_eq_none_iff : fault name = none ↔ Proper String.utf8ByteSize name := by
  cases chars : name.toList with
  | nil =>
    obtain rfl : name = "" := String.toList_eq_nil_iff.1 chars
    constructor
    · intro accepted
      cases accepted
    · intro proper
      exact absurd proper.nonempty (by decide)
  | cons first rest =>
    rw [fault_of_cons chars, proper_iff_of_cons chars, ← all_isNameChar_iff]
    split_ifs <;> simp_all

theorem fault_eq_some_iff {broken : Fault} :
    fault name = some broken ↔ FirstBroken name broken := by
  constructor
  · intro found
    cases chars : name.toList with
    | nil =>
      obtain rfl : name = "" := String.toList_eq_nil_iff.1 chars
      cases found
      exact .empty rfl
    | cons first rest =>
      have head : first ∈ name.toList.head? := by rw [chars]; rfl
      rw [fault_of_cons chars] at found
      split at found
      next other =>
        cases found
        exact .noLetterFirst head other
      next letter =>
        have begins : Begins name := ⟨first, head, not_not.1 letter⟩
        split at found
        next long =>
          cases found
          exact .tooLong begins long
        next short =>
          split at found
          next => cases found
          next others =>
            cases found
            rw [all_isNameChar_iff] at others
            obtain ⟨bad, mem, other⟩ : ∃ bad ∈ rest, ¬IsWordChar bad := by simpa using others
            have mem : bad ∈ name.toList := by
              rw [chars]
              exact List.mem_cons_of_mem first mem
            exact .badCharacter begins (Nat.not_lt.1 short) mem other
  · intro broken
    cases broken with
    | empty nothing =>
      subst nothing
      rfl
    | noLetterFirst head other =>
      obtain ⟨rest, chars⟩ := List.head?_eq_some_iff.1 head
      rw [fault_of_cons chars, if_pos other]
    | tooLong begins long =>
      obtain ⟨first, head, letter⟩ := begins
      obtain ⟨rest, chars⟩ := List.head?_eq_some_iff.1 head
      rw [fault_of_cons chars, if_neg (not_not.2 letter), if_pos long]
    | badCharacter begins short mem other =>
      obtain ⟨first, head, letter⟩ := begins
      obtain ⟨rest, chars⟩ := List.head?_eq_some_iff.1 head
      -- The first character is a letter, so that the bad one stands behind it.
      have others : ¬rest.all isNameChar = true := by
        rw [all_isNameChar_iff]
        intro word
        rw [chars, List.mem_cons] at mem
        rcases mem with rfl | mem
        · exact other (.inl letter)
        · exact other (word _ mem)
      rw [fault_of_cons chars, if_neg (not_not.2 letter), if_neg (Nat.not_lt.2 short),
        if_neg others]

/-! ## What is answered -/

theorem Fault.message_injective {a b : Fault} (same : a.message = b.message) : a = b := by
  revert same
  cases a <;> cases b <;> decide

theorem check_eq_ok_iff : check name = .ok () ↔ Proper String.length name := by
  rw [check, ← proper_utf8ByteSize_iff, ← fault_eq_none_iff]
  cases fault name <;> simp

theorem check_eq_error_iff {error : StoreError} :
    check name = .error error ↔
      ∃ broken, FirstBroken name broken ∧ error = .invalidKeyspace name broken.message := by
  simp only [← fault_eq_some_iff]
  rw [check]
  cases fault name <;> simp [eq_comm]

/-- A reason is given for a name if it names the first part of the rule that the name breaks. -/
theorem check_eq_reason_iff {broken : Fault} :
    check name = .error (.invalidKeyspace name broken.message) ↔ FirstBroken name broken := by
  rw [check_eq_error_iff]
  constructor
  · rintro ⟨other, first, same⟩
    obtain rfl : broken = other := Fault.message_injective (StoreError.invalidKeyspace.inj same).2
    exact first
  · intro first
    exact ⟨broken, first, rfl⟩

/-! ## Whether reasons are true -/

/-- What the reason for a fault says of a name. -/
def Fault.Says (name : String) : Fault → Prop
  | .empty => name = ""
  | .noLetterFirst => ∃ first ∈ name.toList.head?, ¬IsLetter first
  | .tooLong => 48 < name.length
  | .badCharacter => ∃ bad ∈ name.toList, ¬IsWordChar bad

/-- Only a name with other characters takes more bytes than it has characters. -/
theorem badCharacter_says_of_short (short : name.length ≤ 48) (long : 48 < name.utf8ByteSize) :
    Fault.badCharacter.Says name := by
  by_contra none_bad
  have word : ∀ c ∈ name.toList, IsWordChar c := by simpa [Fault.Says] using none_bad
  have same := utf8ByteSize_eq_length word
  omega

/-- The reason for a refusal is false of the names that have too many bytes for their characters,
and of no others. -/
theorem FirstBroken.says_iff {broken : Fault} (first : FirstBroken name broken) :
    broken.Says name ↔ ¬(Begins name ∧ name.length ≤ 48 ∧ 48 < name.utf8ByteSize) := by
  cases first with
  | empty nothing =>
    subst nothing
    simp [Fault.Says]
  | @noLetterFirst first head other =>
    refine ⟨?_, fun _ => ⟨first, head, other⟩⟩
    rintro - ⟨⟨front, head', letter⟩, -⟩
    obtain rfl : first = front := Option.some.inj (head.symm.trans head')
    exact other letter
  | tooLong begins long => simp [Fault.Says, begins, long]
  | badCharacter begins short mem other =>
    refine ⟨fun _ counted => Nat.not_lt.2 short counted.2.2, fun _ => ⟨_, mem, other⟩⟩

end KeyspaceName

namespace Keyspace

open KeyspaceName

theorem effect_openEmpty {settings : KeyspaceSettings} (valid : settings.validate = .ok ()) :
    (openEmpty settings).effect () = (.ok { name := settings.name, tables := ∅ }, ()) := by
  have accepted : (Action.ofExcept settings.validate : Report StoreError Unit).effect () =
      (.ok (), ()) := by
    rw [Action.effect_ofExcept, valid]
  exact Action.effect_bind_of_ok accepted

theorem effect_openEmpty_of_error {settings : KeyspaceSettings} {error : StoreError}
    (invalid : settings.validate = .error error) :
    (openEmpty settings).effect () = (.error error, ()) := by
  refine Action.effect_bind_of_error ?_
  rw [Action.effect_ofExcept, invalid]

/-- A keyspace is opened, and has no tables, if its name is proper; otherwise it is refused for its
name. Whether a name is proper is the same question if its bytes are counted in the place of its
characters. -/
theorem opens_under_proper_name (settings : KeyspaceSettings) :
    (settings.validate = .ok () ↔ Proper String.length settings.name) ∧
    (Proper String.utf8ByteSize settings.name ↔ Proper String.length settings.name) ∧
    (Proper String.length settings.name →
      (openEmpty settings).effect () = (.ok { name := settings.name, tables := ∅ }, ())) ∧
    (¬Proper String.length settings.name → ∃ reason,
      settings.validate = .error (.invalidKeyspace settings.name reason) ∧
        (openEmpty settings).effect () =
          (.error (.invalidKeyspace settings.name reason), ())) := by
  have accepted : settings.validate = .ok () ↔ Proper String.length settings.name :=
    check_eq_ok_iff
  refine ⟨accepted, proper_utf8ByteSize_iff, fun proper => effect_openEmpty (accepted.2 proper), ?_⟩
  intro improper
  cases checked : settings.validate with
  | ok done => exact absurd (accepted.1 checked) improper
  | error error =>
    obtain ⟨broken, -, rfl⟩ := check_eq_error_iff.1 checked
    exact ⟨broken.message, rfl, effect_openEmpty_of_error checked⟩

/-- A name of 48 characters opens a keyspace. A name of 25 characters that takes 49 bytes does not,
and would not if its characters were counted. -/
theorem opens_under_proper_name_accents :
    let longest : KeyspaceSettings := .named "k_23456789_123456789_123456789_123456789_1234567"
    let accents : KeyspaceSettings := .named "kéééééééééééééééééééééééé"
    (openEmpty longest).effect () = (.ok { name := longest.name, tables := ∅ }, ()) ∧
      accents.name.length = 25 ∧ accents.name.utf8ByteSize = 49 ∧
      ∃ reason, (openEmpty accents).effect () =
        (.error (.invalidKeyspace accents.name reason), ()) := by
  intro longest accents
  obtain ⟨accepted, -, opened, -⟩ := opens_under_proper_name longest
  have proper : Proper String.length longest.name := accepted.1 (by decide +kernel)
  have improper : ¬Proper String.length accents.name := by
    intro proper
    exact absurd (proper.word 'é' (by decide +kernel)) (by decide)
  obtain ⟨-, -, -, refused⟩ := opens_under_proper_name accents
  obtain ⟨reason, -, failed⟩ := refused improper
  exact ⟨opened proper, by decide +kernel, by decide +kernel, reason, failed⟩

/-- Every refusal is for the name, and its reason is true of the name, but for the names that begin
with a letter and have up to 48 characters in more than 48 bytes. Such a name is said to be too
long, where in truth some of its characters are not allowed. -/
theorem reasons_hold_unless_bytes_count (settings : KeyspaceSettings) :
    let name := settings.name
    (∀ error, settings.validate = .error error →
      ∃ broken : Fault, error = .invalidKeyspace name broken.message) ∧
    ∀ broken : Fault, settings.validate = .error (.invalidKeyspace name broken.message) →
      (broken.Says name ↔ ¬(Begins name ∧ name.length ≤ 48 ∧ 48 < name.utf8ByteSize)) ∧
      (¬broken.Says name → broken = .tooLong ∧ Fault.badCharacter.Says name) := by
  intro name
  refine ⟨?_, ?_⟩
  · intro error refused
    obtain ⟨broken, -, rfl⟩ := check_eq_error_iff.1 refused
    exact ⟨broken, rfl⟩
  · intro broken refused
    have first : FirstBroken name broken := check_eq_reason_iff.1 refused
    refine ⟨first.says_iff, ?_⟩
    intro false_reason
    obtain ⟨begins, short, long⟩ := not_not.1 (mt first.says_iff.2 false_reason)
    have found : FirstBroken name .tooLong := .tooLong begins long
    rw [← fault_eq_some_iff] at first found
    have same : broken = .tooLong := Option.some.inj (first.symm.trans found)
    exact ⟨same, badCharacter_says_of_short short long⟩

/-- The reason for 25 characters that take 49 bytes is false, and that for 49 letters is true. -/
theorem reasons_hold_unless_bytes_count_accents :
    let accents : KeyspaceSettings := .named "kéééééééééééééééééééééééé"
    let letters : KeyspaceSettings := .named "kkkkkkkkkkkkkkkkkkkkkkkkkkkkkkkkkkkkkkkkkkkkkkkkk"
    accents.validate = .error (.invalidKeyspace accents.name Fault.tooLong.message) ∧
      ¬Fault.tooLong.Says accents.name ∧ Fault.badCharacter.Says accents.name ∧
      letters.validate = .error (.invalidKeyspace letters.name Fault.tooLong.message) ∧
      Fault.tooLong.Says letters.name := by
  intro accents letters
  have refused : accents.validate = .error (.invalidKeyspace accents.name Fault.tooLong.message) :=
    by decide +kernel
  have refused' : letters.validate = .error (.invalidKeyspace letters.name Fault.tooLong.message) :=
    by decide +kernel
  obtain ⟨-, reasons⟩ := reasons_hold_unless_bytes_count accents
  obtain ⟨-, reasons'⟩ := reasons_hold_unless_bytes_count letters
  have false_reason : ¬Fault.tooLong.Says accents.name := by
    change ¬48 < accents.name.length
    decide +kernel
  refine ⟨refused, false_reason, ((reasons _ refused).2 false_reason).2, refused', ?_⟩
  refine (reasons' _ refused').1.2 ?_
  rintro ⟨-, short, -⟩
  exact absurd short (by decide +kernel)

/-- Not every reason is true of the name: 25 characters are said to be more than 48. -/
theorem length_reason_fails_for_accents :
    ¬∀ (settings : KeyspaceSettings) (broken : Fault),
      settings.validate = .error (.invalidKeyspace settings.name broken.message) →
        broken.Says settings.name := by
  intro reasons
  have refused : (KeyspaceSettings.named "kéééééééééééééééééééééééé").validate =
      .error (.invalidKeyspace "kéééééééééééééééééééééééé" Fault.tooLong.message) := by
    decide +kernel
  have longer : 48 < "kéééééééééééééééééééééééé".length := reasons _ .tooLong refused
  exact absurd longer (by decide +kernel)

end Keyspace

end Cellwise
