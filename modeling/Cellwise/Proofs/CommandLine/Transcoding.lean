import Cellwise.Proofs.Catalog.Staff
import Cellwise.Proofs.CommandLine.Silence
import Cellwise.Proofs.Json.Lines

/-!
# Encoding and decoding on the command line

Encoding a person and decoding what was printed gives the person back. A name goes through two
layers of escapes on the way: it stands in the stored text of the person, which is JSON, and where
the answer is printed as JSON the stored text stands in a string once more.

* `Commands.prints_encode` and `Commands.prints_decode` say what the commands print.
* `Commands.encode_decode` puts them together with what the printed lines are read as.
-/

namespace Cellwise

open Cellwise.Action Json

/-! ## Printed JSON -/

/-- A report that succeeds and prints a text that is read as JSON of a value. -/
def Action.PrintsJson {ε : Type} (report : Report ε Unit) (j : Json) : Prop :=
  ∃ text, Prints report text ∧ ReadsAs text j

theorem Action.printsJson_of_line {ε : Type} {report : Report ε Unit} {j : Json}
    (prints : Prints report (j.render ++ "\n")) (whole : j.wholeNumbers = true)
    (shallow : j.depth ≤ maxDepth) : PrintsJson report j :=
  ⟨_, prints, readsAs_line whole shallow⟩

namespace Person

theorem noControls_text (person : Person) : NoControls person.text.toList := by
  rw [text, render, String.toList_ofList]
  exact noControls_chars person.faithful_toJson.whole

/-- The end of a line in a name is written as an escape. -/
example : text ⟨"Ada\nMaria", "\"L\""⟩ =
    "\x7b\"firstname\":\"Ada\\nMaria\",\"lastname\":\"\\\"L\\\"\"\x7d" := by
  decide +kernel

end Person

namespace Commands

/-! ## What the commands print -/

/-- The line that shows how a person is stored. -/
def storedLine (format : OutputFormat) (stored : String) : String :=
  match format with
  | .text => stored
  | .json => (Json.object [("stored", .string stored)]).render

/-- The line that shows a person. -/
def personLine (console : Console) (person : Person) : String :=
  match console.format with
  | .text => shownPerson console (some person)
  | .json => (Json.object [("person", person.toJson)]).render

/-- Whatever the person is called, its stored text is printed. -/
theorem prints_encode (settings : AppSettings) (person : Person) (console : Console) :
    Prints (encode settings person console) (storedLine console.format person.text ++ "\n") := by
  rcases Staff.effect_staffRegistry settings.conversion with ⟨registry, built, registered⟩
  have written : (ofExcept (registry.write FieldType.person person) :
      Report RegistryError String).effect () = (.ok person.text, ()) := by
    rw [effect_ofExcept, Person.write_eq_text registered]
  -- Only the last step prints.
  refine .behind (effect_mapError_of_ok built _) ((silent_staffRegistry _).mapError _) ?_
  refine .behind (effect_mapError_of_ok written _) ((silent_ofExcept _).mapError _) ?_
  unfold storedLine
  cases console.format <;> exact .printLine _

/-- The stored text of a person is shown as the person. It is never blank, so that it makes no
difference whether blank texts count as absent. -/
theorem prints_decode (settings : AppSettings) (person : Person) (console : Console) :
    Prints (decode settings person.text console) (personLine console person ++ "\n") := by
  rcases Staff.effect_staffRegistry settings.conversion with ⟨registry, built, registered⟩
  have read : (registry.read FieldType.person person.text).effect () = (.ok (some person), ()) := by
    rw [Person.effect_read_text registered, Person.ofText?_text]
  refine .behind (effect_mapError_of_ok built _) ((silent_staffRegistry _).mapError _) ?_
  refine .behind (effect_mapError_of_ok read _) ((registry.silent_read _ _).mapError _) ?_
  unfold personLine
  cases console.format <;> exact .printLine _

/-! ## There and back -/

/-- Every person is encoded: as text, the stored text is printed on a line of its own, and as JSON,
an object that holds nothing but the stored text. The stored text is decoded as the person. The
settings of the one command need not be those of the other. -/
theorem encode_decode (encoding : AppSettings) (firstname lastname : String) :
    let person : Person := { firstname, lastname }
    ∃ registry stored,
      ((staffRegistry encoding.conversion).run ()).result = .ok registry ∧
        registry.write FieldType.person person = .ok stored ∧
        (∀ colored, Prints (encode encoding person ⟨.text, colored⟩) (stored ++ "\n")) ∧
        NoControls stored.toList ∧ (stored ++ "\n").toList.dropLast = stored.toList ∧
        (∀ colored, PrintsJson (encode encoding person ⟨.json, colored⟩)
          (.object [("stored", .string stored)])) ∧
        ∀ (decoding : AppSettings) (colored : Bool),
          PrintsJson (decode decoding stored ⟨.json, colored⟩)
            (.object [("person",
              .object [("firstname", .string firstname), ("lastname", .string lastname)])]) := by
  intro person
  rcases Staff.effect_staffRegistry encoding.conversion with ⟨registry, built, registered⟩
  refine ⟨registry, person.text, congrArg Prod.fst built, Person.write_eq_text registered person,
    fun colored => ?text, person.noControls_text, by simp, fun colored => ?json,
    fun decoding colored => ?back⟩
  case text => exact prints_encode encoding person ⟨.text, colored⟩
  case json =>
    have prints := prints_encode encoding person ⟨.json, colored⟩
    exact printsJson_of_line prints rfl (by simp [depth, depthMembers, maxDepth])
  case back =>
    have prints := prints_decode decoding person ⟨.json, colored⟩
    exact printsJson_of_line prints rfl (by simp [depth, depthMembers, maxDepth])

end Commands

end Cellwise
