import Cellwise.Json.Basic

/-!
# The canonical order of members

An object stands for a finite map from names to values. Its canonical form lists every name once,
in the order of code points; when a name is written more than once, the last value counts.

* `Json.canonical` brings every object of a value into that order.
* `Json.Canonical` says that the objects of a value are in that order already.
* `CanonicalJson` is the type of the values in canonical form, so that equal maps are equal values.
-/

namespace Cellwise

namespace Json

/-- Adds a member in the order of names. A member of that name that is there already stays. -/
def insertMember (name : String) (value : Json) : List (String × Json) → List (String × Json)
  | [] => [(name, value)]
  | (other, held) :: members =>
    if name < other then (name, value) :: (other, held) :: members
    else if name = other then (other, held) :: members
    else (other, held) :: insertMember name value members

mutual
/-- The value with the members of every object in canonical order. -/
def canonical : Json → Json
  | .array items => .array (canonicalItems items)
  | .object members => .object (canonicalMembers members)
  | .null => .null
  | .bool b => .bool b
  | .number n => .number n
  | .string s => .string s
termination_by structural j => j

/-- The items in canonical form, in their own order. -/
def canonicalItems : List Json → List Json
  | [] => []
  | item :: items => canonical item :: canonicalItems items
termination_by structural items => items

/-- The members in canonical order, the last value of a name counting. -/
def canonicalMembers : List (String × Json) → List (String × Json)
  | [] => []
  -- The members behind come first, so that the last one of a name is the one that stays.
  | (name, value) :: members => insertMember name (canonical value) (canonicalMembers members)
termination_by structural members => members
end

/-- The names of the members ascend strictly. -/
def Ascending (members : List (String × Json)) : Prop :=
  members.Pairwise fun a b => a.1 < b.1

mutual
/-- Every object in the value lists its members in canonical order. -/
def Canonical : Json → Prop
  | .array items => CanonicalItems items
  | .object members => Ascending members ∧ CanonicalMembers members
  | _ => True
termination_by structural j => j

/-- Every item is in canonical form. -/
def CanonicalItems : List Json → Prop
  | [] => True
  | item :: items => item.Canonical ∧ CanonicalItems items
termination_by structural items => items

/-- The value of every member is in canonical form. -/
def CanonicalMembers : List (String × Json) → Prop
  | [] => True
  | (_, value) :: members => value.Canonical ∧ CanonicalMembers members
termination_by structural members => members
end

/-! ## The canonical form is canonical -/

theorem mem_insertMember {name : String} {value : Json} {members : List (String × Json)}
    {m : String × Json} (h : m ∈ insertMember name value members) :
    m = (name, value) ∨ m ∈ members := by
  fun_induction insertMember name value members with
  | case1 => simpa using h
  | case2 other held members _ => simpa using h
  | case3 other held members => exact .inr h
  | case4 other held members _ _ ih =>
    rcases List.mem_cons.1 h with h | h
    · exact .inr (by simp [h])
    · rcases ih h with h | h
      · exact .inl h
      · exact .inr (by simp [h])

theorem ascending_insertMember {name : String} {value : Json} {members : List (String × Json)}
    (h : Ascending members) : Ascending (insertMember name value members) := by
  fun_induction insertMember name value members with
  | case1 => simp [Ascending]
  | case2 other held members lt =>
    refine List.pairwise_cons.2 ⟨fun m hm => ?_, h⟩
    rcases List.mem_cons.1 hm with hm | hm
    · simpa [hm] using lt
    · exact String.lt_trans lt ((List.pairwise_cons.1 h).1 m hm)
  | case3 other held members => exact h
  | case4 other held members nlt ne ih =>
    obtain ⟨first, rest⟩ := List.pairwise_cons.1 h
    refine List.pairwise_cons.2 ⟨fun m hm => ?_, ih rest⟩
    rcases mem_insertMember hm with hm | hm
    · subst hm
      exact Std.lt_of_le_of_ne (String.not_lt.1 nlt) (Ne.symm ne)
    · exact first m hm

theorem canonicalMembers_insertMember {name : String} {value : Json}
    {members : List (String × Json)} (hv : value.Canonical) (h : CanonicalMembers members) :
    CanonicalMembers (insertMember name value members) := by
  fun_induction insertMember name value members with
  | case1 => exact ⟨hv, h⟩
  | case2 => exact ⟨hv, h⟩
  | case3 => exact h
  | case4 other held members _ _ ih => exact ⟨h.1, ih h.2⟩

mutual
theorem canonical_canonical : (j : Json) → (canonical j).Canonical
  | .array items => canonicalItems_canonical items
  | .object members => canonicalMembers_canonical members
  | .null | .bool _ | .number _ | .string _ => trivial

theorem canonicalItems_canonical : (items : List Json) → CanonicalItems (canonicalItems items)
  | [] => trivial
  | item :: items => ⟨canonical_canonical item, canonicalItems_canonical items⟩

theorem canonicalMembers_canonical : (members : List (String × Json)) →
    Ascending (canonicalMembers members) ∧ CanonicalMembers (canonicalMembers members)
  | [] => ⟨List.Pairwise.nil, trivial⟩
  | (_, value) :: members =>
    have ⟨ascending, all⟩ := canonicalMembers_canonical members
    ⟨ascending_insertMember ascending,
      canonicalMembers_insertMember (canonical_canonical value) all⟩
end

end Json

/-- A JSON value in canonical form. -/
def CanonicalJson := { j : Json // j.Canonical }

namespace CanonicalJson

instance : DecidableEq CanonicalJson :=
  inferInstanceAs (DecidableEq { j : Json // j.Canonical })

/-- The canonical form of any value. -/
def ofJson (j : Json) : CanonicalJson := ⟨j.canonical, j.canonical_canonical⟩

end CanonicalJson

end Cellwise
