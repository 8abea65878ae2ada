import Cellwise.Json.Canonical
import Cellwise.Json.Printer

/-!
# Trees of values

* `Json.inductionOn` is the induction over a value with all items and members at hand.
* `Json.wholeNumbers` singles out the values without floats.
* The depth of a value, its text and its canonical form are given by those of its items or members.
-/

namespace Cellwise.Json

/-- A property holds of every value if it holds of arrays and objects whose parts have it, and of
all other values. -/
@[elab_as_elim]
theorem inductionOn {motive : Json → Prop} (null : motive .null)
    (bool : ∀ b, motive (.bool b)) (number : ∀ n, motive (.number n))
    (string : ∀ s, motive (.string s))
    (array : ∀ items, (∀ item ∈ items, motive item) → motive (.array items))
    (object : ∀ members, (∀ member ∈ members, motive member.2) → motive (.object members))
    (j : Json) : motive j := by
  refine @Json.rec motive (fun items => ∀ item ∈ items, motive item)
    (fun members => ∀ member ∈ members, motive member.2) (fun member => motive member.2)
    null bool number string array object ?nil ?cons ?noMember ?moreMembers ?member j
  case nil => simp
  case cons =>
    intro item items first rest
    exact List.forall_mem_cons.2 ⟨first, rest⟩
  case noMember => simp
  case moreMembers =>
    intro member members first rest
    exact List.forall_mem_cons.2 ⟨first, rest⟩
  case member =>
    intro name value holds
    exact holds

/-! ## Whole numbers -/

mutual
/-- Is every number in the value a whole one? -/
def wholeNumbers : Json → Bool
  | .number (.integer _) => true
  | .number (.float _) => false
  | .array items => wholeNumbersItems items
  | .object members => wholeNumbersMembers members
  | .null | .bool _ | .string _ => true
termination_by structural j => j

/-- Is every number in the items a whole one? -/
def wholeNumbersItems : List Json → Bool
  | [] => true
  | item :: items => item.wholeNumbers && wholeNumbersItems items
termination_by structural items => items

/-- Is every number in the values of the members a whole one? -/
def wholeNumbersMembers : List (String × Json) → Bool
  | [] => true
  | (_, value) :: members => value.wholeNumbers && wholeNumbersMembers members
termination_by structural members => members
end

theorem wholeNumbers_array (items : List Json) :
    (Json.array items).wholeNumbers = true ↔ ∀ item ∈ items, item.wholeNumbers = true := by
  rw [wholeNumbers]
  induction items with
  | nil => simp [wholeNumbersItems]
  | cons item items ih => simp [wholeNumbersItems, ih]

theorem wholeNumbers_object (members : List (String × Json)) :
    (Json.object members).wholeNumbers = true ↔
      ∀ member ∈ members, member.2.wholeNumbers = true := by
  rw [wholeNumbers]
  induction members with
  | nil => simp [wholeNumbersMembers]
  | cons member members ih => simp [wholeNumbersMembers, ih]

/-! ## Depth -/

theorem depth_array_le_succ (items : List Json) (bound : Nat) :
    (Json.array items).depth ≤ bound + 1 ↔ ∀ item ∈ items, item.depth ≤ bound := by
  have items_le : depthItems items ≤ bound ↔ ∀ item ∈ items, item.depth ≤ bound := by
    induction items with
    | nil => simp [depthItems]
    | cons item items ih => simp only [depthItems, Nat.max_le, List.forall_mem_cons, ih]
  simpa [depth] using items_le

theorem depth_object_le_succ (members : List (String × Json)) (bound : Nat) :
    (Json.object members).depth ≤ bound + 1 ↔ ∀ member ∈ members, member.2.depth ≤ bound := by
  have members_le : depthMembers members ≤ bound ↔ ∀ member ∈ members, member.2.depth ≤ bound := by
    induction members with
    | nil => simp [depthMembers]
    | cons member members ih => simp only [depthMembers, Nat.max_le, List.forall_mem_cons, ih]
  simpa [depth] using members_le

/-! ## Canonical form -/

theorem insertMember_of_ascending {name : String} {value : Json} {members : List (String × Json)}
    (ascending : Ascending ((name, value) :: members)) :
    insertMember name value members = (name, value) :: members := by
  cases members with
  | nil => rfl
  | cons member members =>
    -- The name goes before all others.
    have first : name < member.1 := (List.pairwise_cons.1 ascending).1 member List.mem_cons_self
    simp [insertMember, first]

theorem canonicalItems_eq_self {items : List Json} (canonical : CanonicalItems items)
    (each : ∀ item ∈ items, item.Canonical → item.canonical = item) :
    canonicalItems items = items := by
  induction items with
  | nil => rfl
  | cons item items ih =>
    have rest := ih canonical.2 fun item mem => each item (List.mem_cons_of_mem _ mem)
    simp [canonicalItems, each item List.mem_cons_self canonical.1, rest]

theorem canonicalMembers_eq_self {members : List (String × Json)} (ascending : Ascending members)
    (canonical : CanonicalMembers members)
    (each : ∀ member ∈ members, member.2.Canonical → member.2.canonical = member.2) :
    canonicalMembers members = members := by
  induction members with
  | nil => rfl
  | cons member members ih =>
    have rest := ih (List.pairwise_cons.1 ascending).2 canonical.2 fun member mem =>
      each member (List.mem_cons_of_mem _ mem)
    have value := each member List.mem_cons_self canonical.1
    simpa [canonicalMembers, value, rest] using insertMember_of_ascending ascending

/-- A value in canonical form stays as it is. -/
theorem Canonical.canonical_eq {j : Json} (canonical : j.Canonical) : j.canonical = j := by
  induction j using inductionOn with
  | array items ih => simpa [Json.canonical] using canonicalItems_eq_self canonical ih
  | object members ih =>
    simpa [Json.canonical] using canonicalMembers_eq_self canonical.1 canonical.2 ih
  | _ => rfl

end Cellwise.Json
