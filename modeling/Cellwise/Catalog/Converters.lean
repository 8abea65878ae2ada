import Cellwise.Catalog.FieldType
import Cellwise.Convert.Registry

/-!
# Converters of the catalogue

Besides the converter that every type has through its JSON form, there are some for persons,
amounts of money and texts that follow conventions of their own.
-/

namespace Cellwise

namespace Person

/-- The converter of the staff model: persons as JSON text. -/
def converter : Converter FieldType.person where
  read source := (Json.parse source : Except Json.Fault Person).mapError .json
  write person := (Json.print (show Person from person)).mapError .text

/-- Takes no notice of what it converts. -/
def fixedConverter : Converter FieldType.person where
  read _ := .ok ({ firstname := "x", lastname := "y" } : Person)
  write _ := .ok "fixed"

/-- Writes a person without a first name as a blank text, and is otherwise like the converter of
the staff model. -/
def blankingConverter : Converter FieldType.person where
  read := converter.read
  write person :=
    let firstname := (show Person from person).firstname
    if firstname.isEmpty then .ok "" else converter.write person

end Person

namespace Money

/-- Stores an amount as the decimal numeral of its cents. -/
def converter : Converter FieldType.money where
  read source :=
    match Text.readInt64 source with
    | .ok cents => .ok ({ cents := Int64.ofInt cents } : Money)
    | .error fault => .error (.text fault.message)
  write money := .ok (Text.ofInt (show Money from money).cents.toInt)

/-- Stores amounts in the same way, but only those that are not negative. -/
def strictConverter : Converter FieldType.money where
  read := converter.read
  write money :=
    if (show Money from money).cents < 0 then .error (.text "negative balance")
    else converter.write money

end Money

namespace TextConverter

/-- Stores texts in lower case and reads them in upper case, as far as ASCII goes. -/
def upper : Converter FieldType.string where
  read source := .ok source.toUpper
  write text := .ok (show String from text).toLower

/-- What a tagged text begins with. -/
def tag : String := "s:"

/-- Stores texts behind a tag. -/
def tagged : Converter FieldType.string where
  read source :=
    match source.toList with
    | 's' :: ':' :: content => .ok (String.ofList content)
    | _ => .error (.text ("missing tag in " ++ Text.ofInt source.utf8ByteSize ++ " bytes"))
  write text := .ok (tag ++ text)

/-- Stores texts as they are. -/
def plain : Converter FieldType.string where
  read source := .ok source
  write text := .ok text

/-- Refuses to read and to write. -/
def failing : Converter FieldType.string where
  read _ := .error (.text "reader says no")
  write _ := .error (.text "writer says no")

end TextConverter

/-- The conventions that converters of the catalogue follow. -/
inductive Convention where
  | json
  | cli
  | fixed
  | blanking
  | money
  | strict
  | upper
  | tagged
  | counting
  | failing
  deriving DecidableEq, Repr

namespace Convention

/-- The converter that follows a convention, if the convention is one for the type. -/
def converter : Convention → (type : FieldType) → Option (Converter type)
  | json, type => some (.json type)
  | cli, .person => some Person.converter
  | fixed, .person => some Person.fixedConverter
  | blanking, .person => some Person.blankingConverter
  | money, .money => some Money.converter
  | strict, .money => some Money.strictConverter
  | upper, .string => some TextConverter.upper
  | tagged, .string => some TextConverter.tagged
  | counting, .string => some TextConverter.plain
  | failing, .string => some TextConverter.failing
  | _, _ => none

end Convention

/-- The registry of the staff model, which has a converter for persons and for nothing else. -/
def staffRegistry (options : RegistryOptions) : Report RegistryError (Registry FieldType) := do
  let (registry, _) ← Action.inside { options } do
    RegistryBuilder.register ⟨.person, Person.converter⟩
    RegistryBuilder.build
  pure registry

end Cellwise
