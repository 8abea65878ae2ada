import Cellwise.Json.Record

/-!
# Some records

Amounts of money, points of a plane, and trees of labelled nodes.
-/

namespace Cellwise

/-! ## Money -/

/-- An amount of money in cents. -/
structure Money where
  cents : Int64
  deriving DecidableEq, Repr

namespace Money

/-- How an amount is read. -/
def recordForm : Json.RecordForm (Option Int64) Money where
  title := "struct Money"
  start := none
  slots := [.ofOption "cents" id (fun cents _ => cents) Json.Form.read]
  mayEndEarly := false
  finish state := do
    let cents ← Json.require "cents" state
    pure { cents }

/-- An amount as JSON. -/
def toJson (money : Money) : Json := .object [("cents", .integer (.ofInt64 money.cents))]

instance : Json.Form Money where
  encode money := .ok money.toJson
  read := recordForm.read

end Money

/-! ## Points -/

/-- A point of a plane. -/
structure Point where
  y : Int32
  x : Int32
  deriving DecidableEq, Repr

namespace Point

/-- How a point is read; the ordinate comes first. -/
def recordForm : Json.RecordForm (Option Int32 × Option Int32) Point where
  title := "struct Point"
  start := (none, none)
  slots :=
    [.ofOption "y" (·.1) (fun y state => (y, state.2)) Json.Form.read,
      .ofOption "x" (·.2) (fun x state => (state.1, x)) Json.Form.read]
  mayEndEarly := false
  finish state := do
    let y ← Json.require "y" state.1
    let x ← Json.require "x" state.2
    pure { y, x }

/-- A point as JSON. -/
def toJson (point : Point) : Json :=
  .object [("y", .integer (.ofInt32 point.y)), ("x", .integer (.ofInt32 point.x))]

instance : Json.Form Point where
  encode point := .ok point.toJson
  read := recordForm.read

end Point

/-! ## Nodes -/

/-- A node of a tree: a label, perhaps a note, and the nodes below. -/
inductive Node where
  | node (label : String) (note : Option String) (children : List Node)

namespace Node

mutual
/-- Equality of trees is decided node by node. -/
def decEq : (a b : Node) → Decidable (a = b)
  | .node label note children, .node label' note' children' =>
    match decEqAll children children' with
    | .isTrue h =>
      decidable_of_iff (label = label' ∧ note = note') (by simp [h])
    | .isFalse h => .isFalse fun eq => h (by injection eq)
termination_by structural a => a

/-- Equality of lists of trees. -/
def decEqAll : (a b : List Node) → Decidable (a = b)
  | [], [] => .isTrue rfl
  | [], _ :: _ => .isFalse (by simp)
  | _ :: _, [] => .isFalse (by simp)
  | x :: xs, y :: ys =>
    match decEq x y, decEqAll xs ys with
    | .isTrue h, .isTrue hs => .isTrue (by rw [h, hs])
    | .isFalse h, _ => .isFalse fun eq => h (List.cons.inj eq).1
    | _, .isFalse hs => .isFalse fun eq => hs (List.cons.inj eq).2
termination_by structural a => a
end

instance : DecidableEq Node := decEq

mutual
/-- A tree as JSON. -/
def toJson : Node → Json
  | .node label note children =>
    .object
      [("label", .string label),
        ("note", .ofOption .string note),
        ("children", .array (toJsonAll children))]
termination_by structural tree => tree

/-- Trees as JSON. -/
def toJsonAll : List Node → List Json
  | [] => []
  | tree :: trees => toJson tree :: toJsonAll trees
termination_by structural trees => trees
end

/-- A node that is being read. -/
structure Partial where
  label : Option String := none
  note : Option (Option String) := none
  children : Option (List Node) := none

/-- How a node is read, given how the nodes below it are. -/
def recordForm (below : (depth : Nat) → Json.Reader (List Node)) :
    Json.RecordForm Partial Node where
  title := "struct Node"
  start := {}
  slots :=
    [.ofOption "label" (·.label) (fun label state => { state with label }) Json.Form.read,
      .ofOption "note" (·.note) (fun note state => { state with note }) Json.Form.read,
      .ofOption "children" (·.children) (fun children state => { state with children }) below]
  mayEndEarly := false
  finish state := do
    let label ← Json.require "label" state.label
    let children ← Json.require "children" state.children
    pure (.node label (state.note.getD none) children)

/-- Reads a tree of at most `height` nodes, one below the other. -/
def readWithin : (height depth : Nat) → Json.Reader Node
  | 0, _ => Json.Reader.fail .malformed
  | height + 1, depth =>
    (recordForm
      (Json.Reader.arrayOr "a sequence" fun depth =>
        Json.Reader.items (readWithin height depth))).read depth

/-- Every node opens a bracket, so that the bound on open brackets bounds the height. -/
instance : Json.Form Node where
  encode node := .ok node.toJson
  read depth := readWithin (depth + 1) depth

end Node

end Cellwise
