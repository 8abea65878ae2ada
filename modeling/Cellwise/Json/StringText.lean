import Cellwise.Json.Reader

/-!
# Reading JSON strings

A string runs from its quote to the next quote that no backslash protects. Raw controls are not
allowed in it. `\u` takes four hexadecimal digits; two of them in a row stand for one character
beyond U+FFFF when they are a pair of surrogates, and a surrogate without its partner is refused.
-/

namespace Cellwise.Json.Reader

variable {α : Type}

/-- The value of a hexadecimal digit. -/
def hexValue (c : Char) : Option Nat :=
  if c.isDigit then some (c.toNat - '0'.toNat)
  else if 'a' ≤ c ∧ c ≤ 'f' then some (c.toNat - 'a'.toNat + 10)
  else if 'A' ≤ c ∧ c ≤ 'F' then some (c.toNat - 'A'.toNat + 10)
  else none

/-- The number of bytes that characters take in UTF-8. -/
def utf8Length (chars : List Char) : Nat := chars.foldl (fun n c => n + c.utf8Size) 0

/-- Takes four hexadecimal digits. The text is unfinished when it has fewer than four bytes
left, whatever they are. -/
def fourHex : Reader Nat := fun input =>
  if utf8Length (input.take 4) < 4 then .error .unfinished
  else match input with
    | a :: b :: c :: d :: rest =>
      match hexValue a, hexValue b, hexValue c, hexValue d with
      | some a, some b, some c, some d => .ok (((a * 16 + b) * 16 + c) * 16 + d, rest)
      | _, _, _, _ => .error .malformed
    | _ => .error .malformed

/-- The first half of a pair of surrogates. -/
def isLeading (n : Nat) : Bool := 0xD800 ≤ n && n ≤ 0xDBFF

/-- The second half of a pair of surrogates. -/
def isTrailing (n : Nat) : Bool := 0xDC00 ≤ n && n ≤ 0xDFFF

/-- Takes what follows `\u`. -/
def unicodeEscape : Reader Char := do
  let n ← fourHex
  if isTrailing n then fail .malformed
  else if isLeading n then
    -- The partner has to be written as an escape as well.
    word ['\\', 'u']
    let m ← fourHex
    if isTrailing m then pure (Char.ofNat (0x10000 + (n - 0xD800) * 0x400 + (m - 0xDC00)))
    else fail .malformed
  else pure (Char.ofNat n)

/-- The character that a letter stands for behind a backslash. -/
def unescape : Char → Option Char
  | '"' => some '"'
  | '\\' => some '\\'
  | '/' => some '/'
  | 'b' => some '\x08'
  | 'f' => some '\x0c'
  | 'n' => some '\n'
  | 'r' => some '\r'
  | 't' => some '\t'
  | _ => none

/-- Takes what follows a backslash. -/
def escape : Reader Char := fun input =>
  match input with
  | [] => .error .unfinished
  | 'u' :: rest => unicodeEscape rest
  | c :: rest =>
    match unescape c with
    | some c => .ok (c, rest)
    | none => .error .malformed

/-- Takes one character of a string or its closing quote, adding to the characters before it. -/
def stringStep (found : List Char) : Reader (Option (List Char)) := fun input =>
  match input with
  | [] => .error .unfinished
  | '"' :: rest => .ok (none, rest)
  | '\\' :: rest =>
    match escape rest with
    | .error fault => .error fault
    | .ok (c, rest) => .ok (some (c :: found), rest)
  | c :: rest => if c.toNat < 0x20 then .error .malformed else .ok (some (c :: found), rest)

/-- The content of a string whose opening quote has been taken. -/
def stringContent : Reader String := do
  let found ← iterate stringStep []
  pure (String.ofList found.reverse)

/-! ## Skipping -/

/-- Takes what follows a backslash in a string that nobody wants; any four digits follow `\u`. -/
def skipEscape : Reader Unit := fun input =>
  match input with
  | [] => .error .unfinished
  | 'u' :: rest => (fourHex rest).map fun (_, rest) => ((), rest)
  | c :: rest => if (unescape c).isSome then .ok ((), rest) else .error .malformed

/-- Takes one character of a string that nobody wants, or its closing quote. -/
def skipStringStep (_ : Unit) : Reader (Option Unit) := fun input =>
  match input with
  | [] => .error .unfinished
  | '"' :: rest => .ok (none, rest)
  | '\\' :: rest => (skipEscape rest).map fun (_, rest) => (some (), rest)
  | c :: rest => if c.toNat < 0x20 then .error .malformed else .ok (some (), rest)

/-- Takes the content of a string that nobody wants and its closing quote. -/
def skipString : Reader Unit := iterate skipStringStep ()

end Cellwise.Json.Reader
