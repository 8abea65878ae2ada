import Cellwise.Catalog.KnownTypes
import Cellwise.Proofs.Convert.ShortName
import Cellwise.Proofs.Json.NumberRoundTrip
import Cellwise.Proofs.Text.Brackets

/-!
# Which short names are torn

The brackets of a type name are nested. The cut that makes it a short name looks for double colons
in front of the first angle bracket and pays no attention to round and square brackets, so that a
tuple, a slice or an array may lose its opening bracket and keep the closing one.

* `TypeName.Mark` is what the cut pays attention to. `TypeName.Enclosed.nested_shortChars_iff` says
  that a name in brackets is torn exactly if a double colon is the first mark in it.
* `TypeExpr.Ordinary` covers paths, references, pointers, tuples, slices and arrays over each other.
* `TypeExpr.firstMark` tells from a type which mark comes first in its name, and `TypeExpr.torn` for
  which types that tears the short name.
* `TypeExpr.short_is_nested_iff` says that these are the types whose short names are torn.
-/

namespace Cellwise

open Text

/-! ## Marks in a text -/

namespace TypeName

/-- What a cut pays attention to. -/
inductive Mark where
  | colons
  | bracket
  deriving DecidableEq, Repr

/-- The mark that comes first in a text: a double colon or an opening angle bracket. -/
def firstMark : List Char → Option Mark
  | [] => none
  | c :: rest =>
    if c = '<' then some .bracket
    else if c = ':' ∧ rest.head? = some ':' then some .colons
    else firstMark rest

/-- Texts without colons and opening angle brackets. -/
def Unmarked (text : List Char) : Prop := ∀ c ∈ text, c ≠ ':' ∧ c ≠ '<'

instance (text : List Char) : Decidable (Unmarked text) := List.decidableBAll _ text

theorem firstMark_unmarked_append {text : List Char} (unmarked : Unmarked text)
    (more : List Char) : firstMark (text ++ more) = firstMark more := by
  induction text with
  | nil => rfl
  | cons c rest ih =>
    obtain ⟨⟨no_colon, no_bracket⟩, later⟩ := List.forall_mem_cons.1 unmarked
    simp [firstMark, no_colon, no_bracket, ih later]

theorem firstMark_unmarked {text : List Char} (unmarked : Unmarked text) :
    firstMark text = none := by
  have all := firstMark_unmarked_append unmarked []
  rwa [List.append_nil] at all

/-- No mark lies across a seam that has no colon behind it. -/
theorem firstMark_append (text : List Char) {more : List Char} (seam : more.head? ≠ some ':') :
    firstMark (text ++ more) = (firstMark text).or (firstMark more) := by
  induction text with
  | nil => rfl
  | cons c rest ih =>
    -- At the end of the text, the next character is the one behind the seam.
    have same : (rest ++ more).head? = some ':' ↔ rest.head? = some ':' := by
      cases rest <;> simp [seam]
    rw [List.cons_append, firstMark, firstMark, ih]
    simp only [same]
    split
    · rfl
    · split <;> rfl

theorem firstMark_append_unmarked (text : List Char) {more : List Char}
    (unmarked : Unmarked more) : firstMark (text ++ more) = firstMark text := by
  have seam : more.head? ≠ some ':' := by
    intro colon
    exact (unmarked ':' (List.mem_of_head? colon)).1 rfl
  rw [firstMark_append text seam, firstMark_unmarked unmarked, Option.or_none]

/-- In front of the arguments, a path shows whether it has a double colon. -/
theorem firstMark_eq_colons_iff {path arguments : List Char} (outer : '<' ∉ path)
    (brackets : Arguments arguments) :
    firstMark (path ++ arguments) = some .colons ↔ [':', ':'] <:+: path := by
  induction path with
  | nil => cases brackets <;> simp [firstMark]
  | cons c rest ih =>
    obtain ⟨other, later⟩ : c ≠ '<' ∧ '<' ∉ rest := by simpa [eq_comm] using outer
    have first : [':', ':'] <+: c :: rest ↔ c = ':' ∧ (rest ++ arguments).head? = some ':' := by
      -- Arguments do not begin with a colon.
      cases rest with
      | nil => cases brackets <;> simp
      | cons d rest => simp [eq_comm]
    rw [List.infix_cons_iff, first, ← ih later, List.cons_append, firstMark, if_neg other]
    by_cases colons : c = ':' ∧ (rest ++ arguments).head? = some ':'
    · simp [colons]
    · rw [if_neg colons, or_iff_right colons]

theorem Cut.dropped_eq_nil_iff {name dropped kept : List Char} (cut : Cut name dropped kept) :
    dropped = [] ↔ firstMark name ≠ some .colons := by
  cases cut with
  | nowhere outer brackets single => simp [firstMark_eq_colons_iff outer brackets, single]
  | @behind front segment arguments outer brackets last =>
    have outer : '<' ∉ front ++ ':' :: ':' :: segment := by simpa using outer
    have mark := (firstMark_eq_colons_iff outer brackets).2 ⟨front, segment, by simp⟩
    have shape : front ++ ':' :: ':' :: (segment ++ arguments) =
        front ++ ':' :: ':' :: segment ++ arguments := by simp
    rw [shape, mark]
    simp

/-! ## Short names -/

/-- Characters without marks in front of a name make no difference to where it is cut. -/
theorem nested_shortChars_append {front : List Char} (plain : Plain front)
    (unmarked : Unmarked front) (name : List Char) :
    Nested (shortChars (front ++ name)) ↔ Nested (shortChars name) := by
  obtain ⟨path, arguments, rfl, outer, brackets⟩ := exists_path name
  have whole : '<' ∉ front ++ path := by
    rw [List.mem_append, not_or]
    exact ⟨fun mem => (unmarked _ mem).2 rfl, outer⟩
  -- A double colon is found in the name itself or not at all.
  have found : afterLastColons (front ++ path) = afterLastColons path :=
    afterLastColons_append_of_free (fun mem => (unmarked _ mem).1 rfl) path
  rw [← List.append_assoc, shortChars_append whole brackets, shortChars_append outer brackets,
    found]
  cases afterLastColons path with
  | none => exact List.append_assoc .. ▸ (Nested.of_plain plain).append_iff
  | some segment => rfl

/-! ## Names in brackets -/

/-- A name in round or square brackets, and the mark that comes first in it. -/
inductive Enclosed : List Char → Option Mark → Prop where
  | within {bracket close : Char} {inner : List Char} (pair : closing? bracket = some close)
      (other : bracket ≠ '<') (nested : Nested inner) :
      Enclosed (bracket :: (inner ++ [close])) (firstMark inner)

/-- The brackets of an enclosed name are no marks. -/
theorem unmarked_brackets {bracket close : Char} (pair : closing? bracket = some close)
    (other : bracket ≠ '<') : Unmarked [bracket] ∧ Unmarked [close] := by
  rcases eq_of_closing? pair with ⟨rfl, rfl⟩ | ⟨rfl, rfl⟩ | ⟨rfl, -⟩
  · decide
  · decide
  · exact absurd rfl other

/-- What is kept behind a cut has the closing bracket but not the opening one. -/
theorem Cut.not_nested {bracket close : Char} {inner dropped kept : List Char}
    (cut : Cut (bracket :: (inner ++ [close])) dropped kept) (nonempty : dropped ≠ [])
    (pair : closing? bracket = some close) (no_colon : close ≠ ':') (nested : Nested inner) :
    ¬Nested kept := by
  rcases List.eq_nil_or_concat kept with rfl | ⟨back, last, rfl⟩
  · -- The closing bracket is not dropped, since what is dropped ends in a colon.
    obtain ⟨front, rfl⟩ := cut.ends.resolve_left nonempty
    have last : (bracket :: (inner ++ [close])).getLast? = some close := by
      rw [← List.cons_append, List.getLast?_concat]
    have colon : (bracket :: (inner ++ [close])).getLast? = some ':' := by
      simp [cut.eq_append]
    exact absurd (Option.some.inj (last.symm.trans colon)) no_colon
  · obtain ⟨c, tail, rfl⟩ := List.exists_cons_of_ne_nil nonempty
    have rest : inner ++ [close] = (tail ++ back) ++ [last] := by
      simpa using (List.cons.inj cut.eq_append).2
    obtain ⟨rfl, closing⟩ := List.append_inj' rest rfl
    obtain rfl : close = last := by simpa using closing
    rw [List.concat_eq_append]
    exact nested.not_nested_tail pair

namespace Enclosed

variable {name : List Char} {mark : Option Mark}

/-- Further characters between a name and the closing bracket do not matter. -/
theorem behind {bracket close : Char} {tail : List Char} (pair : closing? bracket = some close)
    (other : bracket ≠ '<') (nested : Nested name) (plain : Plain tail)
    (unmarked : Unmarked tail) :
    Enclosed (bracket :: (name ++ tail ++ [close])) (firstMark name) := by
  rw [← firstMark_append_unmarked name unmarked]
  exact .within pair other (nested.append (.of_plain plain))

theorem nested (enclosed : Enclosed name mark) : Nested name := by
  cases enclosed with
  | within pair other nested => exact nested.enclosed pair

theorem firstMark_eq (enclosed : Enclosed name mark) : firstMark name = mark := by
  cases enclosed with
  | @within bracket close inner pair other nested =>
    obtain ⟨opening, closing⟩ := unmarked_brackets pair other
    calc firstMark ([bracket] ++ (inner ++ [close]))
        = firstMark (inner ++ [close]) := firstMark_unmarked_append opening _
      _ = firstMark inner := firstMark_append_unmarked inner closing

/-- Wherever a name in brackets is cut, it is torn. -/
theorem nested_shortChars_iff (enclosed : Enclosed name mark) :
    Nested (shortChars name) ↔ mark ≠ some .colons := by
  obtain ⟨dropped, cut⟩ := exists_cut name
  rw [← enclosed.firstMark_eq, ← cut.dropped_eq_nil_iff]
  constructor
  · intro kept
    by_contra nonempty
    cases enclosed with
    | @within bracket close inner pair other nested =>
      have no_colon : close ≠ ':' := ((unmarked_brackets pair other).2 close List.mem_cons_self).1
      exact cut.not_nested nonempty pair no_colon nested kept
  · rintro rfl
    have whole : name = shortChars name := cut.eq_append
    exact whole ▸ enclosed.nested

end Enclosed

end TypeName

/-! ## The names of types -/

namespace TypeExpr

open Cellwise.TypeName

/-- Types of which no part is a function or an object. The segments of a path are words without
brackets and colons. -/
inductive Ordinary : TypeExpr → Prop where
  | path {segments : List String} {arguments : List TypeExpr}
      (words : ∀ segment ∈ segments, Plain segment.toList ∧ ':' ∉ segment.toList)
      (each : ∀ argument ∈ arguments, Ordinary argument) : Ordinary (path segments arguments)
  | tuple {items : List TypeExpr} (each : ∀ item ∈ items, Ordinary item) : Ordinary (tuple items)
  | reference {target : TypeExpr} (ordinary : Ordinary target) : Ordinary (reference target)
  | mutableReference {target : TypeExpr} (ordinary : Ordinary target) :
      Ordinary (mutableReference target)
  | pointer {target : TypeExpr} (ordinary : Ordinary target) : Ordinary (pointer target)
  | slice {item : TypeExpr} (ordinary : Ordinary item) : Ordinary (slice item)
  | array {item : TypeExpr} (length : Nat) (ordinary : Ordinary item) : Ordinary (array item length)

mutual
/-- The mark that comes first in the name of a type. -/
def firstMark : TypeExpr → Option Mark
  | path segments arguments =>
    if 2 ≤ segments.length then some .colons
    else if arguments = [] then none
    else some .bracket
  | tuple items => firstMarkAll items
  | reference target => firstMark target
  | mutableReference target => firstMark target
  | pointer target => firstMark target
  | slice item => firstMark item
  | array item _ => firstMark item
  | function inputs output => (firstMarkAll inputs).or (firstMark output)
  | object bounds => firstMarkAll bounds
termination_by structural type => type

/-- The mark that comes first in the names of types. -/
def firstMarkAll : List TypeExpr → Option Mark
  | [] => none
  | type :: types => (firstMark type).or (firstMarkAll types)
termination_by structural types => types
end

/-- Is the short name of an ordinary type torn? It is if the name is cut within round or square
brackets. The cut of a path is in front of its arguments, and what stands in front of the brackets
of a reference or a pointer has nothing to cut. -/
def torn : TypeExpr → Bool
  | reference target => torn target
  | mutableReference target => torn target
  | pointer target => torn target
  | tuple items => firstMarkAll items = some .colons
  | slice item => firstMark item = some .colons
  | array item _ => firstMark item = some .colons
  | _ => false

theorem charsAll_eq_map (types : List TypeExpr) : charsAll types = types.map chars := by
  induction types with
  | nil => rfl
  | cons type types ih => rw [charsAll, List.map_cons, ih]

/-! ## Names between brackets -/

theorem nested_separated {separator : List Char} (plain : Plain separator)
    {names : List (List Char)} (each : ∀ name ∈ names, Nested name) :
    Nested (separated separator names) := by
  fun_induction separated separator names with
  | case1 => exact .nil
  | case2 name => exact each name List.mem_cons_self
  | case3 name names more ih =>
    obtain ⟨first, later⟩ := List.forall_mem_cons.1 each
    exact (first.append (.of_plain plain)).append (ih later)

theorem nested_listed {names : List (List Char)} (each : ∀ name ∈ names, Nested name) :
    Nested (listed names) := nested_separated (by decide) each

theorem nested_bracketed {arguments : List (List Char)}
    (each : ∀ argument ∈ arguments, Nested argument) : Nested (bracketed arguments) := by
  cases arguments with
  | nil => exact .nil
  | cons argument arguments => exact (nested_listed each).enclosed rfl

/-! ## Names and their first marks -/

theorem firstMark_listed (names : List (List Char)) :
    TypeName.firstMark (listed names) = names.findSome? TypeName.firstMark := by
  unfold listed
  fun_induction separated [',', ' '] names with
  | case1 => rfl
  | case2 name => simp
  | case3 name names more ih =>
    rw [List.append_assoc, firstMark_append _ (by simp),
      firstMark_unmarked_append (by decide), ih, List.findSome?_cons]
    cases TypeName.firstMark name <;> rfl

theorem enclosed_parenthesized {names : List (List Char)} (each : ∀ name ∈ names, Nested name) :
    Enclosed (parenthesized names) (names.findSome? TypeName.firstMark) := by
  fun_cases parenthesized names with
  | case1 single =>
    have nested : Nested single := each single List.mem_cons_self
    have enclosed : Enclosed ('(' :: (single ++ [','] ++ [')'])) (TypeName.firstMark single) :=
      .behind rfl (by decide) nested (by decide) (by decide)
    simpa using enclosed
  | case2 several =>
    rw [← firstMark_listed]
    exact .within rfl (by decide) (nested_listed each)

theorem enclosed_slice {name : List Char} (nested : Nested name) :
    Enclosed ('[' :: name ++ [']']) (TypeName.firstMark name) := .within rfl (by decide) nested

/-- The numeral of a length has neither brackets nor marks. -/
theorem plain_unmarked_natDigits (n : Nat) :
    Plain (natDigits n) ∧ Unmarked (natDigits n) := by
  have apart : ∀ c ∈ natDigits n, ∀ d : Char, d.isDigit = false → c ≠ d := by
    rintro c mem d other rfl
    simp [isDigit_of_mem_natDigits mem] at other
  constructor
  · intro c mem
    have opens : closing? c = none := by
      by_contra bracket
      obtain ⟨close, pair⟩ := Option.ne_none_iff_exists'.1 bracket
      rcases eq_of_closing? pair with ⟨rfl, -⟩ | ⟨rfl, -⟩ | ⟨rfl, -⟩ <;>
        exact apart _ mem _ (by decide) rfl
    exact ⟨opens, by simp [isClosing, apart c mem]⟩
  · exact fun c mem => ⟨apart c mem ':' (by decide), apart c mem '<' (by decide)⟩

theorem enclosed_array {name : List Char} (nested : Nested name) (length : Nat) :
    Enclosed ('[' :: name ++ [';', ' '] ++ natDigits length ++ [']'])
      (TypeName.firstMark name) := by
  obtain ⟨plain, unmarked⟩ := plain_unmarked_natDigits length
  have between : Plain [';', ' '] ∧ Unmarked [';', ' '] := by decide
  have enclosed : Enclosed ('[' :: (name ++ ([';', ' '] ++ natDigits length) ++ [']']))
      (TypeName.firstMark name) :=
    .behind rfl (by decide) nested (List.forall_mem_append.2 ⟨between.1, plain⟩)
      (List.forall_mem_append.2 ⟨between.2, unmarked⟩)
  simpa using enclosed

/-! ## Paths -/

theorem mem_separated {separator : List Char} {names : List (List Char)} {c : Char}
    (mem : c ∈ separated separator names) : c ∈ separator ∨ ∃ name ∈ names, c ∈ name := by
  fun_induction separated separator names with
  | case1 => cases mem
  | case2 name => exact .inr ⟨name, List.mem_cons_self, mem⟩
  | case3 name names more ih =>
    rcases List.mem_append.1 mem with front | later
    · rcases List.mem_append.1 front with first | between
      · exact .inr ⟨name, List.mem_cons_self, first⟩
      · exact .inl between
    · rcases ih later with between | ⟨other, listed, within⟩
      · exact .inl between
      · exact .inr ⟨other, List.mem_cons_of_mem name listed, within⟩

theorem plain_path {segments : List String} (words : ∀ segment ∈ segments, Plain segment.toList) :
    Plain (separated [':', ':'] (segments.map String.toList)) := by
  intro c mem
  rcases mem_separated mem with colon | ⟨name, listed, within⟩
  · exact (by decide : Plain [':', ':']) c colon
  · obtain ⟨segment, among, rfl⟩ := List.mem_map.1 listed
    exact words segment among c within

theorem arguments_bracketed (names : List (List Char)) : Arguments (bracketed names) := by
  cases names with
  | nil => exact .nothing
  | cons first names => exact .bracketed _

/-- What is kept of a path is a piece of it, and only the arguments have brackets. -/
theorem nested_shortChars_path {path arguments : List Char} (plain : Plain path)
    (brackets : Arguments arguments) (nested : Nested arguments) :
    Nested (shortChars (path ++ arguments)) := by
  have outer : '<' ∉ path := plain.not_mem rfl
  rw [shortChars_append outer brackets]
  cases found : afterLastColons path with
  | none => exact (Nested.of_plain plain).append nested
  | some segment =>
    obtain ⟨front, rfl, -⟩ := (afterLastColons_eq_some_iff path segment).1 found
    have kept : Plain segment := fun c mem => plain c (by simp [mem])
    exact (Nested.of_plain kept).append nested

theorem firstMark_path {segments : List String} {arguments : List TypeExpr}
    (words : ∀ segment ∈ segments, Plain segment.toList ∧ ':' ∉ segment.toList) :
    TypeName.firstMark (chars (path segments arguments)) = firstMark (path segments arguments) := by
  have unmarked : ∀ segment ∈ segments, Unmarked segment.toList := by
    intro segment mem c within
    obtain ⟨plain, no_colon⟩ := words segment mem
    exact ⟨ne_of_mem_of_not_mem within no_colon, ne_of_mem_of_not_mem within (plain.not_mem rfl)⟩
  have behind : TypeName.firstMark (bracketed (charsAll arguments)) =
      if arguments = [] then none else some .bracket := by
    cases arguments <;> rfl
  match segments with
  | [] => simpa [chars, firstMark, separated] using behind
  | [segment] =>
    simpa [chars, firstMark, separated, firstMark_unmarked_append (unmarked segment (by simp))]
      using behind
  | segment :: second :: segments =>
    simp [chars, firstMark, separated, firstMark_unmarked_append (unmarked segment (by simp)),
      TypeName.firstMark]

/-! ## Ordinary types -/

theorem nested_charsAll {types : List TypeExpr} (each : ∀ type ∈ types, Nested type.chars) :
    ∀ name ∈ charsAll types, Nested name := by
  rw [charsAll_eq_map]
  exact List.forall_mem_map.2 each

theorem findSome?_charsAll {types : List TypeExpr}
    (same : ∀ type ∈ types, TypeName.firstMark type.chars = type.firstMark) :
    (charsAll types).findSome? TypeName.firstMark = firstMarkAll types := by
  induction types with
  | nil => rfl
  | cons type types ih =>
    obtain ⟨first, later⟩ := List.forall_mem_cons.1 same
    rw [charsAll, List.findSome?_cons, firstMarkAll, first, ih later]
    cases type.firstMark <;> rfl

namespace Ordinary

variable {type : TypeExpr}

theorem nested (ordinary : Ordinary type) : Nested type.chars := by
  induction ordinary with
  | path words each ih =>
    have plain := plain_path fun segment mem => (words segment mem).1
    exact (Nested.of_plain plain).append (nested_bracketed (nested_charsAll ih))
  | tuple each ih => exact (enclosed_parenthesized (nested_charsAll ih)).nested
  | reference _ ih => exact (Nested.of_plain (by decide : Plain ['&'])).append ih
  | mutableReference _ ih => exact (Nested.of_plain (by decide)).append ih
  | pointer _ ih => exact (Nested.of_plain (by decide)).append ih
  | slice _ ih => exact (enclosed_slice ih).nested
  | array length _ ih => exact (enclosed_array ih length).nested

theorem enclosed_tuple {items : List TypeExpr} (each : ∀ item ∈ items, Ordinary item) :
    Enclosed (chars (.tuple items)) ((charsAll items).findSome? TypeName.firstMark) :=
  enclosed_parenthesized (nested_charsAll fun item mem => (each item mem).nested)

theorem firstMark_chars (ordinary : Ordinary type) :
    TypeName.firstMark type.chars = type.firstMark := by
  induction ordinary with
  | path words each ih => exact firstMark_path words
  | tuple each ih => exact (enclosed_tuple each).firstMark_eq.trans (findSome?_charsAll ih)
  | reference _ ih => exact (firstMark_unmarked_append (by decide : Unmarked ['&']) _).trans ih
  | mutableReference _ ih => exact (firstMark_unmarked_append (by decide) _).trans ih
  | pointer _ ih => exact (firstMark_unmarked_append (by decide) _).trans ih
  | slice item ih => exact (enclosed_slice item.nested).firstMark_eq.trans ih
  | array length item ih => exact (enclosed_array item.nested length).firstMark_eq.trans ih

/-- References and pointers are torn where their targets are; what stands in brackets of its own is
torn if it is cut at all. -/
theorem nested_shortChars_iff (ordinary : Ordinary type) :
    Nested (shortChars type.chars) ↔ type.torn = false := by
  induction ordinary with
  | @path segments arguments words each ih =>
    have plain := plain_path fun segment mem => (words segment mem).1
    have inner := nested_bracketed (nested_charsAll fun type mem => (each type mem).nested)
    have kept : Nested (shortChars (chars (.path segments arguments))) :=
      nested_shortChars_path plain (arguments_bracketed _) inner
    simpa [torn] using kept
  | tuple each ih =>
    have mark := findSome?_charsAll fun item mem => (each item mem).firstMark_chars
    exact (enclosed_tuple each).nested_shortChars_iff.trans (by simp [torn, mark])
  | reference _ ih =>
    exact (nested_shortChars_append (by decide : Plain ['&']) (by decide) _).trans ih
  | mutableReference _ ih => exact (nested_shortChars_append (by decide) (by decide) _).trans ih
  | pointer _ ih => exact (nested_shortChars_append (by decide) (by decide) _).trans ih
  | slice item ih =>
    have enclosed := enclosed_slice item.nested
    exact enclosed.nested_shortChars_iff.trans (by simp [torn, item.firstMark_chars])
  | array length item ih =>
    have enclosed := enclosed_array item.nested length
    exact enclosed.nested_shortChars_iff.trans (by simp [torn, item.firstMark_chars])

end Ordinary

/-- The brackets of the name of an ordinary type are nested. Those of its short name are nested as
well unless the type is a tuple, a slice or an array, perhaps behind references and pointers, in
whose name a double colon comes before any angle bracket. -/
theorem short_is_nested_iff (type : TypeExpr) (ordinary : type.Ordinary) :
    Nested type.name.toList ∧
      (Nested (TypeKey.short ⟨type.name⟩).toList ↔ type.torn = false) := by
  simp only [name, TypeKey.short, TypeName.short, String.toList_ofList]
  exact ⟨ordinary.nested, ordinary.nested_shortChars_iff⟩

/-- Whether a tuple is torn depends on where it stands: among arguments it is not. -/
theorem short_is_nested_iff_pairs :
    let pair := tuple [word "u8", vec (word "u8")]
    let changeable := mutableReference pair
    let pairs := reference (vec pair)
    changeable.Ordinary ∧ Nested changeable.name.toList ∧
      ¬Nested (TypeKey.short ⟨changeable.name⟩).toList ∧
      pairs.Ordinary ∧ Nested pairs.name.toList ∧ Nested (TypeKey.short ⟨pairs.name⟩).toList := by
  intro pair changeable pairs
  have word_ordinary : (word "u8").Ordinary := .path (by decide) (by simp)
  have vec_ordinary {item : TypeExpr} (ordinary : item.Ordinary) : (vec item).Ordinary :=
    .path (by decide) (by simpa using ordinary)
  have pair_ordinary : pair.Ordinary :=
    .tuple (by simpa using ⟨word_ordinary, vec_ordinary word_ordinary⟩)
  have changeable_ordinary : changeable.Ordinary := .mutableReference pair_ordinary
  have pairs_ordinary : pairs.Ordinary := .reference (vec_ordinary pair_ordinary)
  obtain ⟨name_changeable, torn⟩ := short_is_nested_iff changeable changeable_ordinary
  obtain ⟨name_pairs, kept⟩ := short_is_nested_iff pairs pairs_ordinary
  refine ⟨changeable_ordinary, name_changeable, ?_, pairs_ordinary, name_pairs, kept.2 rfl⟩
  rw [torn]
  decide

/-- Of the name of two texts in round brackets, only the last word and the closing bracket are
left. -/
theorem short_tears_two_strings :
    let pair := tuple [string, string]
    pair.Ordinary ∧ pair.name = "(alloc::string::String, alloc::string::String)" ∧
      Nested pair.name.toList ∧ TypeKey.short ⟨pair.name⟩ = "String)" ∧
      ¬Nested (TypeKey.short ⟨pair.name⟩).toList := by
  intro pair
  have ordinary : pair.Ordinary := by
    refine .tuple fun item mem => ?_
    obtain rfl : item = string := by simpa using mem
    exact .path (by decide) (by simp)
  exact ⟨ordinary, by decide, by decide, by decide, by decide⟩

end TypeExpr

end Cellwise
