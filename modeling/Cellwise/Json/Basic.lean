/-!
# JSON values

* `Json` is the tree of a JSON text. The members of an object keep the order in which they are
  written.
* `Integer` holds the whole numbers that a JSON number can be; every other number is a float.
-/

namespace Cellwise

/-- A whole number that fits 64 bits, with or without a sign. -/
structure Integer where
  val : Int
  lower : -9223372036854775808 ≤ val
  upper : val < 18446744073709551616
  deriving DecidableEq

namespace Integer

/-- The number itself, if it fits. -/
def ofInt? (n : Int) : Option Integer :=
  if h : -9223372036854775808 ≤ n ∧ n < 18446744073709551616 then some ⟨n, h.1, h.2⟩ else none

/-- An unsigned 64-bit word. -/
def ofUInt64 (n : UInt64) : Integer :=
  ⟨n.toNat, by omega, by have := n.toNat_lt; omega⟩

/-- A signed 64-bit word. -/
def ofInt64 (n : Int64) : Integer :=
  ⟨n.toInt, n.le_toInt, by have := n.toInt_lt; omega⟩

/-- An unsigned 32-bit word. -/
def ofUInt32 (n : UInt32) : Integer :=
  ⟨n.toNat, by omega, by have := n.toNat_lt; omega⟩

/-- A signed 32-bit word. -/
def ofInt32 (n : Int32) : Integer :=
  ⟨n.toInt, by have := n.le_toInt; omega, by have := n.toInt_lt; omega⟩

/-- An unsigned byte. -/
def ofUInt8 (n : UInt8) : Integer :=
  ⟨n.toNat, by omega, by have := n.toNat_lt; omega⟩

@[simp] theorem ofInt?_val (n : Integer) : ofInt? n.val = some n := by
  simp only [ofInt?]
  exact dif_pos ⟨n.lower, n.upper⟩

end Integer

/-- A JSON number. -/
inductive Number where
  | integer (n : Integer)
  | float (x : Float)
  deriving DecidableEq

/-- A JSON value. -/
inductive Json where
  | null
  | bool (b : Bool)
  | number (n : Number)
  | string (s : String)
  | array (items : List Json)
  | object (members : List (String × Json))

namespace Json

instance : Inhabited Json := ⟨null⟩

/-- A whole number as a JSON value. -/
abbrev integer (n : Integer) : Json := .number (.integer n)

/-- A float as a JSON value. -/
abbrev float (x : Float) : Json := .number (.float x)

/-- The JSON of a value that may be absent. -/
def ofOption {α : Type} (toJson : α → Json) : Option α → Json
  | none => .null
  | some a => toJson a

mutual
/-- Equality of values is decided member by member, in order. -/
def decEq : (a b : Json) → Decidable (a = b)
  | .null, .null => .isTrue rfl
  | .bool a, .bool b => decidable_of_iff (a = b) (by simp)
  | .number a, .number b => decidable_of_iff (a = b) (by simp)
  | .string a, .string b => decidable_of_iff (a = b) (by simp)
  | .array a, .array b => @decidable_of_iff _ (a = b) (by simp) (decEqItems a b)
  | .object a, .object b => @decidable_of_iff _ (a = b) (by simp) (decEqMembers a b)
  | .null, .bool _ | .null, .number _ | .null, .string _ | .null, .array _ | .null, .object _
  | .bool _, .null | .bool _, .number _ | .bool _, .string _ | .bool _, .array _
  | .bool _, .object _
  | .number _, .null | .number _, .bool _ | .number _, .string _ | .number _, .array _
  | .number _, .object _
  | .string _, .null | .string _, .bool _ | .string _, .number _ | .string _, .array _
  | .string _, .object _
  | .array _, .null | .array _, .bool _ | .array _, .number _ | .array _, .string _
  | .array _, .object _
  | .object _, .null | .object _, .bool _ | .object _, .number _ | .object _, .string _
  | .object _, .array _ => .isFalse (by simp)
termination_by structural a => a

/-- Equality of the items of two arrays. -/
def decEqItems : (a b : List Json) → Decidable (a = b)
  | [], [] => .isTrue rfl
  | [], _ :: _ => .isFalse (by simp)
  | _ :: _, [] => .isFalse (by simp)
  | x :: xs, y :: ys =>
    match decEq x y, decEqItems xs ys with
    | .isTrue h, .isTrue hs => .isTrue (by rw [h, hs])
    | .isFalse h, _ => .isFalse fun eq => h (List.cons.inj eq).1
    | _, .isFalse hs => .isFalse fun eq => hs (List.cons.inj eq).2
termination_by structural a => a

/-- Equality of the members of two objects. -/
def decEqMembers : (a b : List (String × Json)) → Decidable (a = b)
  | [], [] => .isTrue rfl
  | [], _ :: _ => .isFalse (by simp)
  | _ :: _, [] => .isFalse (by simp)
  | (k, x) :: xs, (l, y) :: ys =>
    if hk : k = l then
      match decEq x y, decEqMembers xs ys with
      | .isTrue h, .isTrue hs => .isTrue (by rw [hk, h, hs])
      | .isFalse h, _ => .isFalse fun eq => h (Prod.mk.inj (List.cons.inj eq).1).2
      | _, .isFalse hs => .isFalse fun eq => hs (List.cons.inj eq).2
    else .isFalse fun eq => hk (Prod.mk.inj (List.cons.inj eq).1).1
termination_by structural a => a
end

instance : DecidableEq Json := decEq

/-- Is the value a string? -/
def isString : Json → Bool
  | .string _ => true
  | _ => false

mutual
/-- How deeply arrays and objects nest; other values have depth zero. -/
def depth : Json → Nat
  | .array items => depthItems items + 1
  | .object members => depthMembers members + 1
  | _ => 0
termination_by structural j => j

/-- The greatest depth among the items. -/
def depthItems : List Json → Nat
  | [] => 0
  | item :: items => max item.depth (depthItems items)
termination_by structural items => items

/-- The greatest depth among the values of the members. -/
def depthMembers : List (String × Json) → Nat
  | [] => 0
  | (_, value) :: members => max value.depth (depthMembers members)
termination_by structural members => members
end

end Json

end Cellwise
