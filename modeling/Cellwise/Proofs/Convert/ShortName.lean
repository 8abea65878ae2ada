import Mathlib.Data.List.Infix
import Mathlib.Data.List.TakeWhile
import Mathlib.Data.String.Basic
import Cellwise.Convert.TypeName

/-!
# What is left of a type name

The short name of a type is what stands behind the last double colon of its path. The path ends
where the arguments begin, at the first angle bracket; double colons behind that do not count.

* `TypeName.Cut` says how a name falls into what is dropped and what is kept.
* `TypeName.exists_cut` says that the short name is what is kept, and `TypeName.Cut.shortChars_kept`
  that nothing is dropped from it a second time.
* `TypeKey.short_drops_outer_path` puts this in terms of the segments of a path.
-/

namespace Cellwise

namespace TypeName

/-! ## The last double colon -/

theorem afterLastColons_cons_of_some {rest tail : List Char}
    (found : afterLastColons rest = some tail) (c : Char) :
    afterLastColons (c :: rest) = some tail := by
  simp [afterLastColons.eq_def (c :: rest), found]

theorem afterLastColons_cons_of_ne {c : Char} (other : c ≠ ':') (rest : List Char) :
    afterLastColons (c :: rest) = afterLastColons rest := by
  cases found : afterLastColons rest <;>
    simp [afterLastColons.eq_def (c :: rest), found, other]

theorem afterLastColons_append_of_free {front : List Char} (free : ':' ∉ front)
    (rest : List Char) : afterLastColons (front ++ rest) = afterLastColons rest := by
  induction front with
  | nil => rfl
  | cons c front ih =>
    obtain ⟨other, free⟩ : c ≠ ':' ∧ ':' ∉ front := by simpa [eq_comm] using free
    rw [List.cons_append, afterLastColons_cons_of_ne other, ih free]

theorem afterLastColons_append_of_some {rest tail : List Char}
    (found : afterLastColons rest = some tail) (front : List Char) :
    afterLastColons (front ++ rest) = some tail := by
  induction front with
  | nil => exact found
  | cons c front ih => exact afterLastColons_cons_of_some ih c

theorem afterLastColons_colons {tail : List Char} (last : afterLastColons (':' :: tail) = none) :
    afterLastColons (':' :: ':' :: tail) = some tail := by
  simp [afterLastColons.eq_def (':' :: ':' :: tail), last]

theorem afterLastColons_cons_of_none {c : Char} {rest : List Char}
    (none_later : afterLastColons rest = none) (none_here : ¬[':', ':'] <+: c :: rest) :
    afterLastColons (c :: rest) = none := by
  simp only [afterLastColons, none_later]
  split
  · simp at none_here
  · rfl

theorem afterLastColons_eq_none_iff (text : List Char) :
    afterLastColons text = none ↔ ¬[':', ':'] <:+: text := by
  induction text with
  | nil => simp [afterLastColons]
  | cons c rest ih =>
    rw [List.infix_cons_iff, not_or, ← ih]
    constructor
    · intro free
      have none_later : afterLastColons rest = none := by
        by_contra found
        obtain ⟨tail, found⟩ := Option.ne_none_iff_exists'.1 found
        rw [afterLastColons_cons_of_some found] at free
        cases free
      refine ⟨?_, none_later⟩
      rintro ⟨tail, eq⟩
      obtain ⟨rfl, rfl⟩ : ':' = c ∧ ':' :: tail = rest := by simpa using eq
      rw [afterLastColons_colons none_later] at free
      cases free
    · rintro ⟨none_here, none_later⟩
      exact afterLastColons_cons_of_none none_later none_here

/-- What is found stands behind a double colon. No other begins further on, not even with the
second colon of this one. -/
theorem afterLastColons_eq_some_iff (text tail : List Char) :
    afterLastColons text = some tail ↔
      ∃ front, text = front ++ ':' :: ':' :: tail ∧ ¬[':', ':'] <:+: ':' :: tail := by
  constructor
  · intro found
    induction text with
    | nil => cases found
    | cons c rest ih =>
      cases later : afterLastColons rest with
      | some tail' =>
        rw [afterLastColons_cons_of_some later] at found
        obtain ⟨front, rfl, last⟩ := ih (later.trans found)
        exact ⟨c :: front, rfl, last⟩
      | none =>
        by_cases here : [':', ':'] <+: c :: rest
        · obtain ⟨more, eq⟩ := here
          obtain ⟨rfl, rfl⟩ : ':' = c ∧ ':' :: more = rest := by simpa using eq
          rw [afterLastColons_colons later] at found
          obtain rfl : more = tail := Option.some.inj found
          exact ⟨[], rfl, (afterLastColons_eq_none_iff _).1 later⟩
        · rw [afterLastColons_cons_of_none later here] at found
          cases found
  · rintro ⟨front, rfl, last⟩
    have free := (afterLastColons_eq_none_iff _).2 last
    exact afterLastColons_append_of_some (afterLastColons_colons free) front

/-! ## The path and the arguments -/

/-- The arguments of a type in their brackets, or nothing. -/
inductive Arguments : List Char → Prop where
  | nothing : Arguments []
  | bracketed (inner : List Char) : Arguments ('<' :: inner)

/-- The path ends at the first angle bracket. -/
theorem exists_path (name : List Char) :
    ∃ path arguments, name = path ++ arguments ∧ '<' ∉ path ∧ Arguments arguments := by
  induction name with
  | nil => exact ⟨[], [], rfl, List.not_mem_nil, .nothing⟩
  | cons c rest ih =>
    by_cases bracket : c = '<'
    · subst bracket
      exact ⟨[], _, rfl, List.not_mem_nil, .bracketed rest⟩
    · obtain ⟨path, arguments, rfl, outer, brackets⟩ := ih
      refine ⟨c :: path, arguments, rfl, ?_, brackets⟩
      simpa [outer] using Ne.symm bracket

theorem shortChars_append {path arguments : List Char} (outer : '<' ∉ path)
    (brackets : Arguments arguments) :
    shortChars (path ++ arguments) = (afterLastColons path).getD path ++ arguments := by
  have path_only : ∀ c ∈ path, (c != '<') = true := by
    intro c mem
    rw [bne_iff_ne]
    rintro rfl
    exact outer mem
  rw [shortChars, List.takeWhile_append_of_pos path_only, List.dropWhile_append_of_pos path_only]
  cases brackets with
  | nothing => simp
  | bracketed inner => simp

/-! ## Where a name is cut -/

/-- A name falls into what is dropped and what is kept: all of it is kept if there is no double
colon in its path, and otherwise it is cut behind the last one. -/
inductive Cut : List Char → List Char → List Char → Prop where
  | nowhere {path arguments : List Char} (outer : '<' ∉ path) (brackets : Arguments arguments)
      (single : ¬[':', ':'] <:+: path) : Cut (path ++ arguments) [] (path ++ arguments)
  | behind {front segment arguments : List Char} (outer : '<' ∉ front ++ segment)
      (brackets : Arguments arguments) (last : ¬[':', ':'] <:+: ':' :: segment) :
      Cut (front ++ ':' :: ':' :: (segment ++ arguments)) (front ++ [':', ':'])
        (segment ++ arguments)

namespace Cut

variable {name dropped kept : List Char}

theorem eq_append (cut : Cut name dropped kept) : name = dropped ++ kept := by
  cases cut <;> simp

theorem outer (cut : Cut name dropped kept) : '<' ∉ dropped := by
  cases cut with
  | nowhere outer brackets single => exact List.not_mem_nil
  | @behind front segment arguments outer brackets last =>
    have front_only : '<' ∉ front := by
      intro mem
      exact outer (List.mem_append_left segment mem)
    simpa using front_only

theorem ends (cut : Cut name dropped kept) :
    dropped = [] ∨ ∃ front, dropped = front ++ [':', ':'] := by
  cases cut with
  | nowhere => exact .inl rfl
  | @behind front => exact .inr ⟨front, rfl⟩

theorem shortChars_eq (cut : Cut name dropped kept) : shortChars name = kept := by
  cases cut with
  | @nowhere path arguments outer brackets single =>
    rw [shortChars_append outer brackets, (afterLastColons_eq_none_iff path).2 single]
    rfl
  | @behind front segment arguments outer brackets last =>
    have path : '<' ∉ front ++ ':' :: ':' :: segment := by simpa using outer
    have found : afterLastColons (front ++ ':' :: ':' :: segment) = some segment :=
      (afterLastColons_eq_some_iff _ _).2 ⟨front, rfl, last⟩
    have short := shortChars_append path brackets
    rw [found] at short
    simpa using short

/-- What is kept is not cut again. -/
theorem shortChars_kept (cut : Cut name dropped kept) : shortChars kept = kept := by
  cases cut with
  | nowhere outer brackets single => exact (nowhere outer brackets single).shortChars_eq
  | @behind front segment arguments outer brackets last =>
    have outer : '<' ∉ segment := by
      intro mem
      exact outer (List.mem_append_right front mem)
    have single : ¬[':', ':'] <:+: segment := by
      intro within
      exact last (within.trans (List.suffix_cons ':' segment).isInfix)
    exact (nowhere outer brackets single).shortChars_eq

end Cut

/-- Every name is cut in one of the two ways, and the short name is what is kept. -/
theorem exists_cut (name : List Char) : ∃ dropped, Cut name dropped (shortChars name) := by
  obtain ⟨path, arguments, rfl, outer, brackets⟩ := exists_path name
  cases found : afterLastColons path with
  | none =>
    have cut : Cut (path ++ arguments) [] (path ++ arguments) :=
      .nowhere outer brackets ((afterLastColons_eq_none_iff path).1 found)
    rw [cut.shortChars_eq]
    exact ⟨_, cut⟩
  | some segment =>
    obtain ⟨front, rfl, last⟩ := (afterLastColons_eq_some_iff path segment).1 found
    have cut : Cut (front ++ ':' :: ':' :: (segment ++ arguments)) (front ++ [':', ':'])
        (segment ++ arguments) := .behind (by simpa using outer) brackets last
    rw [List.append_assoc, List.cons_append, List.cons_append, cut.shortChars_eq]
    exact ⟨_, cut⟩

/-! ## Segments -/

/-- One colon in front of a segment without colons makes no double colon. -/
theorem single_colon {segment : List Char} (free : ':' ∉ segment) :
    ¬[':', ':'] <:+: ':' :: segment := by
  rw [List.infix_cons_iff]
  rintro (⟨tail, eq⟩ | within)
  · obtain rfl : ':' :: tail = segment := by simpa using eq
    exact free List.mem_cons_self
  · exact free (within.subset List.mem_cons_self)

theorem not_mem_toList_intercalate {c : Char} {separator : String} {segments : List String}
    (apart : c ∉ separator.toList) (free : ∀ segment ∈ segments, c ∉ segment.toList) :
    c ∉ (separator.intercalate segments).toList := by
  induction segments with
  | nil => simp
  | cons first rest ih =>
    rw [List.forall_mem_cons] at free
    cases rest with
    | nil => simpa using free.1
    | cons second rest =>
      have later := ih free.2
      rw [String.intercalate_cons_cons, String.toList_append, String.toList_append]
      simp only [List.mem_append, not_or]
      exact ⟨⟨free.1, apart⟩, later⟩

/-- A path of segments, with arguments behind it, is cut in front of its last segment. -/
theorem exists_cut_of_segments {segments : List String} {last arguments : String}
    (free : ∀ segment ∈ segments ++ [last], ':' ∉ segment.toList ∧ '<' ∉ segment.toList)
    (brackets : Arguments arguments.toList) :
    ∃ dropped, Cut ("::".intercalate (segments ++ [last]) ++ arguments).toList dropped
      (last.toList ++ arguments.toList) := by
  have outer : '<' ∉ ("::".intercalate (segments ++ [last])).toList :=
    not_mem_toList_intercalate (by decide) fun segment mem => (free segment mem).2
  have single : ¬[':', ':'] <:+: ':' :: last.toList := single_colon (free last (by simp)).1
  rw [String.toList_append]
  by_cases alone : segments = []
  · subst alone
    have cut : Cut (last.toList ++ arguments.toList) [] (last.toList ++ arguments.toList) := by
      refine .nowhere (by simpa using outer) brackets ?_
      intro within
      exact single (within.trans (List.suffix_cons ':' last.toList).isInfix)
    exact ⟨[], by simpa using cut⟩
  · rw [String.intercalate_append_of_ne_nil alone (by simp)] at outer ⊢
    have cut : Cut (("::".intercalate segments).toList ++ ':' :: ':' ::
        (last.toList ++ arguments.toList)) (("::".intercalate segments).toList ++ [':', ':'])
          (last.toList ++ arguments.toList) := by
      refine .behind ?_ brackets single
      simpa using outer
    exact ⟨_, by simpa using cut⟩

end TypeName

namespace TypeKey

open Cellwise.TypeName

/-- From a path of segments with arguments behind it, only the last segment and the arguments are
left, whatever the arguments are. From any other name, too, nothing is dropped but a piece in front
of its first angle bracket that ends in a double colon, and from what is left nothing more is
dropped. -/
theorem short_drops_outer_path :
    (∀ (segments : List String) (last arguments : String),
      (∀ segment ∈ segments ++ [last], ':' ∉ segment.toList ∧ '<' ∉ segment.toList) →
      (arguments = "" ∨ ∃ inner, arguments = "<" ++ inner) →
        short ⟨"::".intercalate (segments ++ [last]) ++ arguments⟩ = last ++ arguments) ∧
    ∀ name : String,
      (∃ dropped, name = dropped ++ short ⟨name⟩ ∧ '<' ∉ dropped.toList ∧
        (dropped = "" ∨ ∃ front, dropped = front ++ "::")) ∧
      short ⟨short ⟨name⟩⟩ = short ⟨name⟩ := by
  constructor
  · intro segments last arguments free brackets
    have brackets : Arguments arguments.toList := by
      rcases brackets with rfl | ⟨inner, rfl⟩
      · exact .nothing
      · rw [String.toList_append]
        exact .bracketed inner.toList
    obtain ⟨dropped, cut⟩ := exists_cut_of_segments free brackets
    rw [short, TypeName.short, cut.shortChars_eq]
    simp
  · intro name
    obtain ⟨dropped, cut⟩ := exists_cut name.toList
    refine ⟨⟨String.ofList dropped, ?whole, ?outer, ?ends⟩, ?again⟩
    case whole =>
      have whole := congrArg String.ofList cut.eq_append
      simpa [short, TypeName.short] using whole
    case outer =>
      rw [String.toList_ofList]
      exact cut.outer
    case ends =>
      rcases cut.ends with rfl | ⟨front, rfl⟩
      · exact .inl rfl
      · exact .inr ⟨String.ofList front, String.ofList_append⟩
    case again =>
      simp [short, TypeName.short, cut.shortChars_kept]

/-- Neither the double colons nor the brackets within the arguments count. -/
theorem short_drops_outer_path_nested_arguments :
    let segments := ["std", "collections", "hash", "map"]
    let arguments := "<" ++ "alloc::string::String, alloc::vec::Vec<typeconv::model::Person>>"
    let name := "std::collections::hash::map::HashMap" ++ arguments
    (∀ segment ∈ segments ++ ["HashMap"], ':' ∉ segment.toList ∧ '<' ∉ segment.toList) ∧
      short ⟨name⟩ = "HashMap" ++ arguments ∧ short ⟨short ⟨name⟩⟩ = "HashMap" ++ arguments := by
  intro segments arguments name
  obtain ⟨segmented, any⟩ := short_drops_outer_path
  have free : ∀ segment ∈ segments ++ ["HashMap"],
      ':' ∉ segment.toList ∧ '<' ∉ segment.toList := by decide
  have joined : "::".intercalate (segments ++ ["HashMap"]) ++ arguments = name := by decide
  have kept : short ⟨name⟩ = "HashMap" ++ arguments := by
    rw [← joined]
    exact segmented segments "HashMap" arguments free (.inr ⟨_, rfl⟩)
  exact ⟨free, kept, (any name).2.trans kept⟩

end TypeKey

end Cellwise
