import Cellwise.Text.Numeral

/-!
# Type expressions

How the full name of a type is put together: a path with its arguments, or a tuple, a reference, a
pointer, a slice, an array, a function or an object type over other types.
-/

namespace Cellwise

/-- A type. -/
inductive TypeExpr where
  /-- A path of segments, with arguments in angle brackets if there are any. -/
  | path (segments : List String) (arguments : List TypeExpr)
  | tuple (items : List TypeExpr)
  | reference (target : TypeExpr)
  /-- A reference through which the target may be changed. -/
  | mutableReference (target : TypeExpr)
  | pointer (target : TypeExpr)
  | slice (item : TypeExpr)
  | array (item : TypeExpr) (length : Nat)
  /-- A function; one that answers with the empty tuple does not say so. -/
  | function (inputs : List TypeExpr) (output : TypeExpr)
  /-- Any type that keeps to all of some bounds. -/
  | object (bounds : List TypeExpr)

namespace TypeExpr

/-- A type that a word names. -/
def word (name : String) : TypeExpr := path [name] []

/-- Names with a separator between them. -/
def separated (separator : List Char) : List (List Char) → List Char
  | [] => []
  | [name] => name
  | name :: names => name ++ separator ++ separated separator names

/-- Names with commas between them. -/
def listed (names : List (List Char)) : List Char := separated [',', ' '] names

/-- Arguments in angle brackets. -/
def bracketed : List (List Char) → List Char
  | [] => []
  | arguments => '<' :: listed arguments ++ ['>']

/-- The items of a tuple in round brackets; a single one is followed by a comma. -/
def parenthesized : List (List Char) → List Char
  | [single] => '(' :: single ++ [',', ')']
  | names => '(' :: listed names ++ [')']

/-- The answer of a function, unless it is the empty tuple. -/
def arrow (output : List Char) : List Char :=
  if output = ['(', ')'] then [] else [' ', '-', '>', ' '] ++ output

mutual
/-- The characters of the full name of a type. -/
def chars : TypeExpr → List Char
  | path segments arguments =>
    separated [':', ':'] (segments.map String.toList) ++ bracketed (charsAll arguments)
  | tuple items => parenthesized (charsAll items)
  | reference target => '&' :: chars target
  | mutableReference target => ['&', 'm', 'u', 't', ' '] ++ chars target
  | pointer target => ['*', 'c', 'o', 'n', 's', 't', ' '] ++ chars target
  | slice item => '[' :: chars item ++ [']']
  | array item length => '[' :: chars item ++ [';', ' '] ++ Text.natDigits length ++ [']']
  | function inputs output =>
    ['f', 'n', '('] ++ listed (charsAll inputs) ++ ')' :: arrow (chars output)
  | object bounds => ['d', 'y', 'n', ' '] ++ separated [' ', '+', ' '] (charsAll bounds)
termination_by structural type => type

/-- The characters of the full names of types. -/
def charsAll : List TypeExpr → List (List Char)
  | [] => []
  | type :: types => chars type :: charsAll types
termination_by structural types => types
end

/-- The full name of a type. -/
def name (type : TypeExpr) : String := String.ofList type.chars

end TypeExpr

end Cellwise
