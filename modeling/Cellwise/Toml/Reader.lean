import Cellwise.Toml.Bare

/-!
# Reading TOML

A reader takes something off the front of a list of characters and leaves the rest, or refuses the
text. A document is read line by line into statements; brackets may nest less than eighty deep, and
a key may have less than eighty parts.
-/

namespace Cellwise.Toml

/-- Takes a value off the front of the text. -/
abbrev Reader (α : Type) := StateT (List Char) Option α

namespace Reader

variable {α : Type}

/-- Refuses the text. -/
def fail : Reader α := fun _ => none

/-- The next character, which stays. -/
def peek : Reader (Option Char) := fun input => some (input.head?, input)

/-- Takes one character, whatever it is. -/
def drop : Reader Unit := fun input => some ((), input.tail)

/-- Takes the longest run of characters of a kind. -/
def run (isKind : Char → Bool) : Reader (List Char) := fun input =>
  some (input.takeWhile isKind, input.dropWhile isKind)

/-- Takes a certain character. -/
def char (c : Char) : Reader Unit := fun input =>
  match input with
  | [] => none
  | d :: rest => if c = d then some ((), rest) else none

/-- Takes certain characters if they come next, and tells whether they did. -/
def skip (word : List Char) : Reader Bool := fun input =>
  if word.isPrefixOf input then some (true, input.drop word.length) else some (false, input)

/-- Repeats a step at most `fuel` times, until it finds nothing. -/
def repeatedFrom (step : Reader (Option α)) : Nat → Reader (List α)
  | 0, _ => none
  | fuel + 1, input =>
    match step input with
    | none => none
    | some (none, rest) => some ([], rest)
    | some (some a, rest) => do
      let (found, rest) ← repeatedFrom step fuel rest
      some (a :: found, rest)

/-- Repeats a step until it finds nothing. Every step that finds something takes at least one
character, so that there are no more steps than characters. -/
def repeated (step : Reader (Option α)) : Reader (List α) := fun input =>
  repeatedFrom step (input.length + 1) input

/-! ## Blanks, comments and ends of lines -/

/-- The blanks within a line. -/
def isBlank (c : Char) : Bool := c = ' ' || c = '\t'

/-- Skips blanks within a line. -/
def blanks : Reader Unit := do
  let _ ← run isBlank
  pure ()

/-- Characters other than controls; a tab counts as one. -/
def isPlain (c : Char) : Bool := c = '\t' || (0x20 ≤ c.toNat && c.toNat ≠ 0x7f)

/-- Takes the end of a line if it comes next, and tells whether it did. -/
def newLine : Reader Bool := do
  if ← skip ['\n'] then pure true else skip ['\r', '\n']

/-- Takes a comment if one comes next, up to the end of its line. -/
def comment : Reader Unit := do
  if (← peek) = some '#' then
    let _ ← run isPlain
    pure ()

/-- Takes the rest of a line on which nothing but a comment may follow. -/
def lineEnd : Reader Unit := do
  blanks
  comment
  if ← newLine then pure ()
  else if (← peek).isSome then fail

/-- Skips blanks, comments and ends of lines. -/
def blankLines : Reader Unit := do
  let _ ← repeated do
    match ← peek with
    | some '#' => do
      comment
      if ← newLine then pure (some ()) else fail
    | some c =>
      if isBlank c then
        drop
        pure (some ())
      else if ← newLine then pure (some ())
      else pure none
    | none => pure none
  pure ()

/-! ## Strings -/

/-- The value of a hexadecimal digit. -/
def hexDigit (c : Char) : Option Nat := Bare.digitIn 16 c

/-- Takes some number of hexadecimal digits. -/
def hexDigits : Nat → Nat → Reader Nat
  | 0, n, input => some (n, input)
  | _ + 1, _, [] => none
  | count + 1, n, c :: rest =>
    match hexDigit c with
    | some digit => hexDigits count (16 * n + digit) rest
    | none => none

/-- The character of a code point; surrogates have none. -/
def ofCodePoint (n : Nat) : Reader Char := fun input =>
  if h : n.isValidChar then some (Char.ofNatAux n h, input) else none

/-- Takes what follows a backslash. -/
def escape : Reader Char := fun input =>
  match input with
  | 'b' :: rest => some ('\x08', rest)
  | 't' :: rest => some ('\t', rest)
  | 'n' :: rest => some ('\n', rest)
  | 'f' :: rest => some ('\x0c', rest)
  | 'r' :: rest => some ('\r', rest)
  | '"' :: rest => some ('"', rest)
  | '\\' :: rest => some ('\\', rest)
  | 'u' :: rest => (do
    let n ← hexDigits 4 0
    ofCodePoint n) rest
  | 'U' :: rest => (do
    let n ← hexDigits 8 0
    ofCodePoint n) rest
  | _ => none

/-- Takes the content of a string on one line and the closing quote. -/
def line (quote : Char) (escapes : Bool) : Reader String := do
  let content ← repeated do
    match ← peek with
    | none => fail
    | some c =>
      if c = quote then pure none
      else if escapes && c = '\\' then
        drop
        let c ← escape
        pure (some c)
      else if isPlain c then
        drop
        pure (some c)
      else fail
  char quote
  pure (String.ofList content)

/-- Takes a backslash at the end of a line, with the blanks and ends of lines that follow it. -/
def continuation : Reader Bool := fun input =>
  match input with
  | '\\' :: rest =>
    match (do blanks; newLine) rest with
    | some (true, rest) => (do
      let _ ← repeated do
        match ← peek with
        | some c =>
          if isBlank c then
            drop
            pure (some ())
          else if ← newLine then pure (some ())
          else pure none
        | none => pure none
      pure true) rest
    | _ => some (false, input)
  | _ => some (false, input)

/-- Takes the content of a string on several lines and the closing quotes. Up to two quotes may
stand right before the closing ones. -/
def lines (quote : Char) (escapes : Bool) : Reader String := do
  let _ ← newLine
  let content ← repeated do
    match ← peek with
    | none => fail
    | some c =>
      if c = quote then
        let quotes ← run (· = quote)
        -- Less than three quotes belong to the content.
        if quotes.length < 3 then pure (some quotes)
        else fun input => some (none, quotes ++ input)
      else if escapes && c = '\\' then
        if ← continuation then pure (some [])
        else
          drop
          let c ← escape
          pure (some [c])
      else if ← newLine then pure (some ['\n'])
      else if isPlain c then
        drop
        pure (some [c])
      else fail
  let quotes ← run (· = quote)
  if quotes.length ≤ 5 then
    pure (String.ofList (content.flatten ++ quotes.drop 3))
  else fail

/-- Takes a string on one line if one comes next. -/
def quoted? : Reader (Option String) := do
  match ← peek with
  | some '"' => do
    drop
    let s ← line '"' true
    pure (some s)
  | some '\'' => do
    drop
    let s ← line '\'' false
    pure (some s)
  | _ => pure none

/-- Takes a string of any kind if one comes next. -/
def string? : Reader (Option String) := do
  if ← skip ['"', '"', '"'] then
    let s ← lines '"' true
    pure (some s)
  else if ← skip ['\'', '\'', '\''] then
    let s ← lines '\'' false
    pure (some s)
  else quoted?

/-! ## Keys -/

/-- How deeply brackets may nest, and how many dots a key may have. -/
def maxDepth : Nat := 79

/-- Characters of a key without quotes. -/
def isKeyChar (c : Char) : Bool := c.isAlphanum || c = '_' || c = '-'

/-- Takes one part of a key, with the blanks around it. -/
def keyPart : Reader String := do
  blanks
  let part ← match ← quoted? with
    | some part => pure part
    | none => do
      let chars ← run isKeyChar
      if chars.isEmpty then fail else pure (String.ofList chars)
  blanks
  pure part

/-- Takes a key: the parts before its last dot, and the last part. -/
def key : Reader (List String × String) := do
  let first ← keyPart
  let others ← repeated do
    if ← skip ['.'] then
      let part ← keyPart
      pure (some part)
    else pure none
  if others.length < maxDepth then
    let parts := first :: others
    pure (parts.dropLast, parts.getLast?.getD first)
  else fail

/-! ## Values -/

/-- Takes a bare word; a date may go on with a blank and a time of day. -/
def bare : Reader Toml := do
  let word ← run Bare.isWordChar
  let follows (input : List Char) : Bool :=
    match input with
    | ' ' :: c :: _ => c.isDigit
    | _ => false
  -- A date and a time of day may have a blank between them instead of a letter.
  if Bare.isDate word && follows (← get) then
    drop
    let time ← run Bare.isWordChar
    if Bare.isTimeWithOffset time then
      pure (.moment (String.ofList (word ++ ' ' :: time)))
    else fail
  else
    match Bare.value word with
    | some value => pure value
    | none => fail

/-- Takes the items of an array and its closing bracket; a comma may follow the last item. -/
def items (item : Reader Toml) : Reader Toml := do
  let found ← repeated do
    blankLines
    if (← peek) = some ']' then pure none
    else
      let value ← item
      blankLines
      if ← skip [','] then pure (some value)
      else if (← peek) = some ']' then pure (some value)
      else fail
  char ']'
  pure (.array found)

/-- Takes a key with its value. -/
def pair (value : Reader Toml) : Reader (List String × String × Toml) := do
  let (path, last) ← key
  char '='
  blanks
  let value ← value
  blanks
  pure (path, last, value)

/-- Takes the pairs of a table between braces and the closing brace; no comma follows the last
pair. -/
def pairs (value : Reader Toml) : Reader Toml := do
  blanks
  let found ← (do
    if (← peek) = some '\x7d' then pure []
    else
      let first ← pair value
      let others ← repeated do
        if ← skip [','] then
          let next ← pair value
          pure (some next)
        else pure none
      pure (first :: others))
  char '\x7d'
  match ofPairs found with
  | some made => pure made
  | none => fail

/-- Takes a value in which at most `depth` brackets are open at a time. -/
def value : (depth : Nat) → Reader Toml
  | 0 => do
    match ← string? with
    | some s => pure (.string s)
    | none => bare
  | depth + 1 => do
    match ← string? with
    | some s => pure (.string s)
    | none =>
      if ← skip ['['] then items (value depth)
      else if ← skip ['\x7b'] then pairs (value depth)
      else bare

/-! ## Documents -/

/-- Takes the lines up to the end of the next statement, if there is one. -/
def statement : Reader (Option Statement) := do
  let _ ← repeated do
    blanks
    match ← peek with
    | some '#' => do
      comment
      if ← newLine then pure (some ())
      else if (← peek).isSome then fail
      else pure none
    | _ => if ← newLine then pure (some ()) else pure none
  if (← peek).isNone then pure none
  else if ← skip ['[', '['] then
    let (path, last) ← key
    char ']'
    char ']'
    lineEnd
    pure (some (.row path last))
  else if ← skip ['['] then
    let (path, last) ← key
    char ']'
    lineEnd
    pure (some (.table path last))
  else
    let (path, last, value) ← pair (value maxDepth)
    lineEnd
    pure (some (.pair path last value))

/-- Takes a whole document. A byte order mark in front of it is skipped. -/
def document : Reader Toml := do
  let _ ← skip ['\ufeff']
  let statements ← repeated statement
  match ofStatements statements with
  | some made => pure made
  | none => fail

end Reader

/-- Reads a document. -/
def parse (text : String) : Option Toml := (Reader.document text.toList).map (·.1)

end Cellwise.Toml
