import Mathlib.Data.String.Basic

/-!
# The order of bytes

Texts are compared character by character, by their codes. Whoever compares the bytes that UTF-8
writes them in comes to the same order, since the bytes of a character with a greater code are
greater at the first place where they differ, and never begin with those of another character.

* `Text.BytesLess` compares the bytes of two texts.
* `Text.bytesLess_iff` says that this is the order of texts.
-/

namespace Cellwise.Text

/-- The bytes of a text in UTF-8. -/
def bytes (text : String) : List UInt8 := text.toUTF8.data.toList

/-- The bytes of a text come before those of another one. -/
def BytesLess (text other : String) : Prop := bytes text < bytes other

instance (text other : String) : Decidable (BytesLess text other) :=
  inferInstanceAs (Decidable (bytes text < bytes other))

theorem bytes_eq (text : String) : bytes text = text.toList.flatMap String.utf8EncodeChar := by
  have encoded : (String.ofList text.toList).toByteArray = text.toList.utf8Encode :=
    String.toByteArray_ofList
  rw [String.ofList_toList] at encoded
  simp [bytes, encoded, List.utf8Encode]

/-- Whatever stands behind two characters, their own bytes decide. -/
theorem encode_append_lt {c d : Char} (less : c < d) (more other : List UInt8) :
    String.utf8EncodeChar c ++ more < String.utf8EncodeChar d ++ other := by
  have less : c.val.toNat < d.val.toNat := less
  have top : d.val.toNat < 1114112 := by
    rcases (d.valid : d.val.toNat.isValidChar) with low | high <;> omega
  -- Every byte but the first holds six bits of the code, so the code is divided by 64 at a time.
  have two (code : Nat) : code / 4096 = code / 64 / 64 := by omega
  have three (code : Nat) : code / 262144 = code / 64 / 64 / 64 := by omega
  simp only [String.utf8EncodeChar]
  generalize c.val.toNat = code at *
  generalize d.val.toNat = greater at *
  -- One case for each pair of lengths, the shorter before the longer: the first byte tells them
  -- apart, and of two that are equally long the first byte that differs is the greater.
  split_ifs <;>
    simp only [List.cons_append, List.nil_append, List.cons_lt_cons_iff, UInt8.lt_iff_toNat_lt,
      ← UInt8.toNat_inj, UInt8.toNat_ofNat', two, three] <;>
    omega

theorem encode_ne_nil (c : Char) : String.utf8EncodeChar c ≠ [] := by
  simp only [String.utf8EncodeChar]
  split_ifs <;> simp

/-- Lists of characters keep their order when they are written as bytes. -/
theorem flatMap_encode_lt {chars other : List Char} (less : chars < other) :
    chars.flatMap String.utf8EncodeChar < other.flatMap String.utf8EncodeChar := by
  induction chars generalizing other with
  | nil =>
    cases other with
    | nil => exact absurd less (List.lt_irrefl [])
    | cons d other =>
      rcases List.exists_cons_of_ne_nil (encode_ne_nil d) with ⟨byte, more, eq⟩
      simp [eq]
  | cons c chars ih =>
    cases other with
    | nil => exact absurd less (List.not_lt_nil _)
    | cons d other =>
      rw [List.flatMap_cons, List.flatMap_cons]
      rcases List.cons_lt_cons_iff.1 less with first | ⟨rfl, rest⟩
      · exact encode_append_lt first _ _
      · exact List.append_left_lt (ih rest)

/-- The bytes of two texts are in the order of the texts. -/
theorem bytesLess_iff {text other : String} : BytesLess text other ↔ text < other := by
  rw [BytesLess, bytes_eq, bytes_eq, String.lt_iff_toList_lt]
  constructor
  · intro less
    -- Were the texts the other way round or equal, so would be their bytes.
    rcases lt_trichotomy text.toList other.toList with before | same | behind
    · exact before
    · rw [same] at less
      exact absurd less (List.lt_irrefl _)
    · exact absurd less (List.lt_asymm (flatMap_encode_lt behind))
  · exact flatMap_encode_lt

end Cellwise.Text
