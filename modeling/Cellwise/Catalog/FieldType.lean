import Cellwise.Catalog.Person
import Cellwise.Catalog.Records
import Cellwise.Catalog.Wrapped
import Cellwise.Catalog.Choices
import Cellwise.Catalog.KnownTypes
import Cellwise.Convert.Field

/-!
# The field types of the catalogue

`FieldType` lists the types that fields of the entities here can have, and makes them a family.
-/

namespace Cellwise

/-- A field type. -/
inductive FieldType where
  | string
  | u8
  | u32
  | u64
  | i64
  | bool
  | f64
  | char
  | unit
  | person
  | money
  | point
  | name
  | ciName
  | color
  | flex
  | picky
  | optString
  | optPerson
  | vecU32
  | vecPerson
  | pair
  | mapU32
  | json
  | node
  deriving DecidableEq, Repr

namespace FieldType

/-- A field type as a type expression. -/
def expr : FieldType → TypeExpr
  | string => .string
  | u8 => .word "u8"
  | u32 => .word "u32"
  | u64 => .word "u64"
  | i64 => .word "i64"
  | bool => .word "bool"
  | f64 => .word "f64"
  | char => .word "char"
  | unit => .tuple []
  | person => .model "Person"
  | money => .basic "Money" []
  | point => .basic "Point" []
  | name => .basic "Name" []
  | ciName => .basic "CiName" []
  | color => .basic "Color" []
  | flex => .basic "Flex" []
  | picky => .basic "Picky" []
  | optString => .option .string
  | optPerson => .option (.model "Person")
  | vecU32 => .vec (.word "u32")
  | vecPerson => .vec (.model "Person")
  | pair => .tuple [.string, .word "u32"]
  | mapU32 =>
    .path ["alloc", "collections", "btree", "map", "BTreeMap"] [.string, .word "u32"]
  | json => .path ["serde_json", "value", "Value"] []
  | node => .basic "Node" []

/-- The full name of a field type. -/
def fullName (type : FieldType) : String := type.expr.name

/-- The values of a field type. -/
@[reducible] def Carrier : FieldType → Type
  | string => String
  | u8 => UInt8
  | u32 => UInt32
  | u64 => UInt64
  | i64 => Int64
  | bool => Bool
  | f64 => Float
  | char => Char
  | unit => Unit
  | person => Person
  | money => Money
  | point => Point
  | name => Name
  | ciName => CiName
  | color => Color
  | flex => Flex
  | picky => Picky
  | optString => Option String
  | optPerson => Option Person
  | vecU32 => List UInt32
  | vecPerson => List Person
  | pair => String × UInt32
  | mapU32 => Std.ExtTreeMap String UInt32
  | json => CanonicalJson
  | node => Node

/-- The JSON form of a field type. -/
@[reducible] def jsonForm : (type : FieldType) → Json.Form type.Carrier
  | string => inferInstanceAs (Json.Form String)
  | u8 => inferInstanceAs (Json.Form UInt8)
  | u32 => inferInstanceAs (Json.Form UInt32)
  | u64 => inferInstanceAs (Json.Form UInt64)
  | i64 => inferInstanceAs (Json.Form Int64)
  | bool => inferInstanceAs (Json.Form Bool)
  | f64 => inferInstanceAs (Json.Form Float)
  | char => inferInstanceAs (Json.Form Char)
  | unit => inferInstanceAs (Json.Form Unit)
  | person => inferInstanceAs (Json.Form Person)
  | money => inferInstanceAs (Json.Form Money)
  | point => inferInstanceAs (Json.Form Point)
  | name => inferInstanceAs (Json.Form Name)
  | ciName => inferInstanceAs (Json.Form CiName)
  | color => inferInstanceAs (Json.Form Color)
  | flex => inferInstanceAs (Json.Form Flex)
  | picky => inferInstanceAs (Json.Form Picky)
  | optString => inferInstanceAs (Json.Form (Option String))
  | optPerson => inferInstanceAs (Json.Form (Option Person))
  | vecU32 => inferInstanceAs (Json.Form (List UInt32))
  | vecPerson => inferInstanceAs (Json.Form (List Person))
  | pair => inferInstanceAs (Json.Form (String × UInt32))
  | mapU32 => inferInstanceAs (Json.Form (Std.ExtTreeMap String UInt32))
  | json => inferInstanceAs (Json.Form CanonicalJson)
  | node => inferInstanceAs (Json.Form Node)

/-- Equality of the values of a field type. -/
def decideEq : (type : FieldType) → DecidableEq type.Carrier
  | string => inferInstanceAs (DecidableEq String)
  | u8 => inferInstanceAs (DecidableEq UInt8)
  | u32 => inferInstanceAs (DecidableEq UInt32)
  | u64 => inferInstanceAs (DecidableEq UInt64)
  | i64 => inferInstanceAs (DecidableEq Int64)
  | bool => inferInstanceAs (DecidableEq Bool)
  | f64 => inferInstanceAs (DecidableEq Float)
  | char => inferInstanceAs (DecidableEq Char)
  | unit => inferInstanceAs (DecidableEq Unit)
  | person => inferInstanceAs (DecidableEq Person)
  | money => inferInstanceAs (DecidableEq Money)
  | point => inferInstanceAs (DecidableEq Point)
  | name => inferInstanceAs (DecidableEq Name)
  | ciName => inferInstanceAs (DecidableEq CiName)
  | color => inferInstanceAs (DecidableEq Color)
  | flex => inferInstanceAs (DecidableEq Flex)
  | picky => inferInstanceAs (DecidableEq Picky)
  | optString => inferInstanceAs (DecidableEq (Option String))
  | optPerson => inferInstanceAs (DecidableEq (Option Person))
  | vecU32 => inferInstanceAs (DecidableEq (List UInt32))
  | vecPerson => inferInstanceAs (DecidableEq (List Person))
  | pair => inferInstanceAs (DecidableEq (String × UInt32))
  | mapU32 => inferInstanceAs (DecidableEq (Std.ExtTreeMap String UInt32))
  | json => inferInstanceAs (DecidableEq CanonicalJson)
  | node => inferInstanceAs (DecidableEq Node)

/-- Are two values one element of a set? They are when they are equal, except that names without
case are compared without it. -/
def sameElement : (type : FieldType) → type.Carrier → type.Carrier → Bool
  | ciName, a, b => CiName.same a b
  | type, a, b => @decide (a = b) (type.decideEq a b)

instance : FieldFamily FieldType where
  decideEq := inferInstance
  typeName := fullName
  Value := Carrier
  form := jsonForm
  same := sameElement

end FieldType

end Cellwise
