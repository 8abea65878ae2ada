/-!
# Type names

The full name of a type is a path of segments between double colons, followed by its arguments in
angle brackets if it has any. The short name drops the path in front of the last segment and keeps
the arguments as they are.
-/

namespace Cellwise.TypeName

/-- What stands behind the last double colon, if there is one. -/
def afterLastColons : List Char → Option (List Char)
  | [] => none
  | c :: rest =>
    match afterLastColons rest with
    | some tail => some tail
    | none =>
      match c, rest with
      | ':', ':' :: tail => some tail
      | _, _ => none

/-- The short name of a type, as characters. -/
def shortChars (name : List Char) : List Char :=
  -- Colons within the arguments do not count.
  let path := name.takeWhile (· != '<')
  let arguments := name.dropWhile (· != '<')
  (afterLastColons path).getD path ++ arguments

/-- The short name of a type. -/
def short (name : String) : String := String.ofList (shortChars name.toList)

end Cellwise.TypeName

namespace Cellwise

/-- The identity of a type: its full name. -/
structure TypeKey where
  name : String
  deriving DecidableEq, Repr

namespace TypeKey

/-- The name without the path in front. -/
def short (key : TypeKey) : String := TypeName.short key.name

/-- How a key is displayed. -/
def display (key : TypeKey) : String := key.name

/-- How a key shows itself. -/
def describe (key : TypeKey) : String := "TypeKey(" ++ key.name ++ ")"

end TypeKey

end Cellwise
