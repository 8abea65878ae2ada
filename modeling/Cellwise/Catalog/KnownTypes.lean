import Cellwise.Convert.TypeExpr

/-!
# Types of the catalogue by name

The paths under which the types of the catalogue are known, and further types that values are never
stored under but that have names as well.
-/

namespace Cellwise

namespace TypeExpr

/-- Texts. -/
def string : TypeExpr := path ["alloc", "string", "String"] []

/-- Sequences of values of a type. -/
def vec (item : TypeExpr) : TypeExpr := path ["alloc", "vec", "Vec"] [item]

/-- Values of a type that may be absent. -/
def option (content : TypeExpr) : TypeExpr := path ["core", "option", "Option"] [content]

/-- Single values of a type in a place of their own. -/
def boxed (content : TypeExpr) : TypeExpr := path ["alloc", "boxed", "Box"] [content]

/-- A type of the staff model. -/
def model (name : String) : TypeExpr := path ["typeconv", "model", name] []

/-- A basic type, perhaps over other types. -/
def basic (name : String) (arguments : List TypeExpr) : TypeExpr :=
  path ["typeconv", "types", name] arguments

/-- A type that wraps another. -/
def wrapper (content : TypeExpr) : TypeExpr := basic "Wrapper" [content]

/-- The type of keyspaces. -/
def keyspace : TypeExpr := path ["typeconv_mapping", "memory", "InMemoryKeyspace"] []

end TypeExpr

namespace KnownTypes

open TypeExpr

/-- Types that are no field types, under short labels. -/
def further : List (String × TypeExpr) :=
  [("str_ref", reference (word "str")),
    ("i128", word "i128"),
    ("never_fn", function [word "u8"] (vec (word "u8"))),
    ("Wrapper<u8>", wrapper (word "u8")),
    ("Wrapper<u16>", wrapper (word "u16")),
    ("Wrapper<Person>", wrapper (model "Person")),
    ("Wrapper<Wrapper<String>>", wrapper (wrapper string)),
    ("BoxStr", boxed (word "str")),
    ("ArcPerson", path ["alloc", "sync", "Arc"] [model "Person"]),
    ("HashMap", path ["std", "collections", "hash", "map", "HashMap"] [string, model "Person"]),
    ("BTreeSet", path ["alloc", "collections", "btree", "set", "BTreeSet"] [string]),
    ("PairOfStrings", tuple [string, string]),
    ("VecThenU8", tuple [vec (word "u8"), word "u8"]),
    ("U8ThenVec", tuple [word "u8", vec (word "u8")]),
    ("ArrayString", array string 3),
    ("ArrayU8", array (word "u8") 4),
    ("SliceRef", reference (slice (model "Person"))),
    ("Employee", model "Employee"),
    ("Result", path ["core", "result", "Result"] [model "Person", string]),
    ("VecUnit", vec (tuple [])),
    ("Config", path ["typeconv_registry", "config", "ConversionConfig"] []),
    ("Keyspace", keyspace),
    ("Template", path ["typeconv_mapping", "template", "MappingTemplate"] [keyspace]),
    ("Row", path ["typeconv_mapping", "row", "Row"] []),
    ("Cell", path ["typeconv_mapping", "row", "Cell"] []),
    ("fn_ptr", function [] (tuple [])),
    ("fn_person", function [model "Person"] (basic "Money" [])),
    ("raw_ptr", pointer (model "Person")),
    ("BoxAny",
      boxed (object [path ["core", "any", "Any"] [], path ["core", "marker", "Send"] []])),
    ("Registry", path ["typeconv_registry", "registry", "ConversionRegistry"] []),
    ("AliasOfString", string),
    ("Nested", option (option (vec (wrapper (basic "Money" [])))))]

end KnownTypes

end Cellwise
