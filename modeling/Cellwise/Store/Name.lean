import Cellwise.Store.Error

/-!
# Keyspace names

A keyspace is named by an ASCII letter followed by ASCII letters, digits and underscores, at most
48 characters in all. `KeyspaceName.fault` finds the first rule that a name breaks. The length is
measured in bytes of UTF-8, before the characters behind the first are looked at.
-/

namespace Cellwise.KeyspaceName

/-- The rules that a name can break. -/
inductive Fault where
  | empty
  | noLetterFirst
  | tooLong
  | badCharacter
  deriving DecidableEq, Repr

/-- The wording of a fault. -/
def Fault.message : Fault → String
  | .empty => "name is empty"
  | .noLetterFirst => "name must start with a letter"
  | .tooLong => "name is longer than 48 characters"
  | .badCharacter => "only letters, digits and '_' are allowed"

/-- The greatest length of a name. -/
def maxLength : Nat := 48

/-- May the character stand behind the first? -/
def isNameChar (c : Char) : Bool := c.isAlpha || c.isDigit || c = '_'

/-- The first rule that a name breaks. -/
def fault (name : String) : Option Fault :=
  match name.toList with
  | [] => some .empty
  | first :: rest =>
    if !first.isAlpha then some .noLetterFirst
    else if maxLength < name.utf8ByteSize then some .tooLong
    else if !rest.all isNameChar then some .badCharacter
    else none

/-- Accepts a name or says what is wrong with it. -/
def check (name : String) : Except StoreError Unit :=
  match fault name with
  | none => .ok ()
  | some fault => .error (.invalidKeyspace name fault.message)

end Cellwise.KeyspaceName
