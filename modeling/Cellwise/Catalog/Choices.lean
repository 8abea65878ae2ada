import Cellwise.Json.Record

/-!
# Some sums
-/

namespace Cellwise

open Json Json.Reader

/-! ## Colours -/

/-- A colour: one of two that have a name of their own, a shade of gray, a mixture of red, green
and blue, or any other by its name. -/
inductive Color where
  | red
  | green
  | gray (level : UInt8)
  | rgb (r g b : UInt8)
  | named (name : String)
  deriving DecidableEq, Repr

namespace Color

/-- What is expected where a mixture is to be read. -/
def mixtureTitle : String := "tuple variant Color::Rgb"

/-- Reads the three parts of a mixture. -/
def readMixture : (depth : Nat) → Reader Color :=
  arrayOr mixtureTitle fun depth => do
    let expected := mixtureTitle ++ " with 3 elements"
    let r ← itemAt expected 0 (Form.read depth)
    let g ← itemAt expected 1 (Form.read depth)
    let b ← itemAt expected 2 (Form.read depth)
    closeArray
    pure (.rgb r g b)

/-- How a colour with a name is read. -/
def namedForm : RecordForm (Option String) Color where
  title := "struct variant Color::Named"
  start := none
  slots := [.ofOption "name" id (fun name _ => name) Form.read]
  mayEndEarly := false
  finish state := do
    let name ← require "name" state
    pure (.named name)

/-- The variants of colours. -/
def variants : Variants Color :=
  [("red", .nothing .red),
    ("green", .nothing .green),
    ("gray", .something "newtype variant" fun depth => do
      let level ← Form.read depth
      pure (.gray level)),
    ("rgb", .something "tuple variant" readMixture),
    ("named", .something "struct variant" namedForm.read)]

/-- A part of a mixture as JSON. -/
def partJson (part : UInt8) : Json := .integer (.ofUInt8 part)

/-- A colour as JSON. -/
def toJson : Color → Json
  | red => .string "red"
  | green => .string "green"
  | gray level => .object [("gray", partJson level)]
  | rgb r g b =>
    .object [("rgb", .array [partJson r, partJson g, partJson b])]
  | named name => .object [("named", .object [("name", .string name)])]

instance : Form Color where
  encode color := .ok color.toJson
  read := variants.read

end Color

/-! ## A number or a text -/

/-- A number if it can be one, and otherwise a text. -/
inductive Flex where
  | number (n : Int64)
  | text (s : String)
  deriving DecidableEq, Repr

namespace Flex

/-- The value that a JSON value stands for. -/
def ofJson? : Json → Option Flex
  | .number (.integer n) =>
    if n.val < 9223372036854775808 then some (.number (Int64.ofInt n.val)) else none
  | .string s => some (.text s)
  | _ => none

/-- Any JSON is read before it is asked what it stands for. -/
instance : Form Flex where
  encode
    | .number n => Form.encode n
    | .text s => Form.encode s
  read depth := do
    let json ← json depth
    match ofJson? json with
    | some flex => pure flex
    | none =>
      mismatch (.custom "data did not match any variant of untagged enum Flex")

end Flex

end Cellwise
