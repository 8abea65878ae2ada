import Mathlib.Data.String.Basic
import Cellwise.Catalog.Converters
import Cellwise.Proofs.Entity.Paths

/-!
# Reading collections

The texts of a list are read in their order, and those of a set in ascending order, up to the first
that is rejected. The reader of a type is called once for each of them, but not for a text that
counts as absent; a type without a converter reads every text. A set keeps one of the values that
are one element, that of the least text.

* `Row.ReadsEach` says how the collections of a column are read, text by text.
* `Keeps` says which of the values of ascending texts are the elements of a set.
-/

namespace Cellwise

variable {κ : Type} [FieldFamily κ] {registry : Registry κ} {column : String} {k : κ}

/-! ## One text after another -/

section Items

variable (skips : String → Bool) (read : String → Except MappingError (Value k))
  (calls : String → List (String × String))

/-- The texts that are not passed over are walked, each with the calls that it takes. -/
theorem exists_walks_readItems
    (decode : ∀ stored, (decodeField registry column k stored).traced =
      if skips stored then (.ok none, []) else ((read stored).map some, calls stored))
    (items : List String) :
    ∃ answer tried, Walks read (items.filter fun stored => !skips stored) answer tried ∧
      (Row.readItems registry column k items).traced = (answer, tried.flatMap calls) := by
  induction items with
  | nil => exact ⟨_, _, .nil, rfl⟩
  | cons stored items ih =>
    obtain ⟨answer, tried, walks, rest⟩ := ih
    have first := decode stored
    rw [Row.readItems]
    cases skipped : skips stored with
    | true =>
      -- What is noted in the log is no call.
      rw [skipped, if_pos rfl] at first
      refine ⟨answer, tried, by simpa [skipped] using walks, ?_⟩
      rw [Action.traced_bind_of_ok first, ← rest]
      rfl
    | false =>
      simp only [skipped, Bool.false_eq_true, if_false] at first
      rw [List.filter_cons_of_pos (by simp [skipped])]
      cases came : read stored with
      | error e =>
        rw [came] at first
        refine ⟨_, _, .of_error came _, ?_⟩
        rw [Action.traced_bind_of_error first, List.flatMap_singleton]
      | ok value =>
        rw [came] at first
        refine ⟨_, _, .of_ok came walks, ?_⟩
        rw [Action.traced_bind_of_ok first]
        cases answer with
        | error e =>
          rw [Action.traced_bind_of_error rest]
          simp [Except.map]
        | ok values =>
          rw [Action.traced_bind_of_ok rest]
          simp [Except.map, Action.traced]

end Items

/-! ## The elements of a set -/

/-- What a set keeps of the values of texts: of those that are one element, the one whose text is
the least. -/
structure Keeps (read : String → Except MappingError (Value k)) (texts : List String)
    (elements : List (Value k)) : Prop where
  apart : elements.Pairwise fun a b => FieldFamily.same k a b = false
  covers : ∀ stored ∈ texts, ∀ value, read stored = .ok value →
    ∃ element ∈ elements, FieldFamily.same k element value = true
  mem_iff : ∀ element, element ∈ elements ↔ ∃ stored ∈ texts, read stored = .ok element ∧
    ∀ other ∈ texts, ∀ value, read other = .ok value → FieldFamily.same k element value = true →
      stored ≤ other

namespace Keeps

variable {read : String → Except MappingError (Value k)} {seen : List String} {stored : String}
  {elements : List (Value k)} {value : Value k}
  (lawful : Equivalence fun a b : Value k => FieldFamily.same k a b = true)

theorem nil : Keeps read [] ([] : List (Value k)) where
  apart := .nil
  covers := nofun
  mem_iff := by simp

/-- The text of an element stays the least one when a greater text comes in. -/
theorem exists_least_concat {element : Value k} (keeps : Keeps read seen elements)
    (greater : ∀ earlier ∈ seen, earlier < stored) (mem : element ∈ elements) :
    ∃ text ∈ seen ++ [stored], read text = .ok element ∧ ∀ other ∈ seen ++ [stored], ∀ value,
      read other = .ok value → FieldFamily.same k element value = true → text ≤ other := by
  obtain ⟨text, mem_text, read_text, least⟩ := (keeps.mem_iff element).1 mem
  refine ⟨text, List.mem_append_left _ mem_text, read_text, ?_⟩
  rw [List.forall_mem_append, List.forall_mem_singleton]
  exact ⟨least, fun _ _ _ => (greater text mem_text).le⟩

include lawful

/-- A value that is an element already does not come in, as its text is greater. -/
theorem add_known (keeps : Keeps read seen elements) (came : read stored = .ok value)
    (greater : ∀ earlier ∈ seen, earlier < stored)
    (known : ∃ element ∈ elements, FieldFamily.same k value element = true) :
    Keeps read (seen ++ [stored]) elements := by
  obtain ⟨old, mem_old, same_old⟩ := known
  refine ⟨keeps.apart, ?covers, fun element => ⟨keeps.exists_least_concat greater, ?least⟩⟩
  case covers =>
    rw [List.forall_mem_append, List.forall_mem_singleton]
    refine ⟨keeps.covers, fun other again => ?_⟩
    obtain rfl := Except.ok.inj (came.symm.trans again)
    exact ⟨old, mem_old, lawful.symm same_old⟩
  case least =>
    rintro ⟨text, mem_text, read_text, least⟩
    rw [List.forall_mem_append] at least
    rcases List.mem_append.1 mem_text with earlier | last
    · exact (keeps.mem_iff element).2 ⟨text, earlier, read_text, least.1⟩
    · obtain rfl := List.mem_singleton.1 last
      obtain rfl := Except.ok.inj (came.symm.trans read_text)
      -- The element it is the same as comes from a text before it.
      obtain ⟨first, mem_first, read_first, -⟩ := (keeps.mem_iff old).1 mem_old
      have back : text ≤ first := least.1 first mem_first old read_first same_old
      exact absurd (greater first mem_first) back.not_gt

/-- A value that is no element yet comes in. -/
theorem add_new (keeps : Keeps read seen elements) (came : read stored = .ok value)
    (greater : ∀ earlier ∈ seen, earlier < stored)
    (fresh : ∀ element ∈ elements, FieldFamily.same k value element = false) :
    Keeps read (seen ++ [stored]) (value :: elements) := by
  refine ⟨List.pairwise_cons.2 ⟨fresh, keeps.apart⟩, ?covers, fun element => ⟨?text, ?least⟩⟩
  case covers =>
    rw [List.forall_mem_append, List.forall_mem_singleton]
    simp only [List.exists_mem_cons_iff]
    refine ⟨fun text mem other read_text => .inr (keeps.covers text mem other read_text), ?_⟩
    intro other again
    obtain rfl := Except.ok.inj (came.symm.trans again)
    exact .inl (lawful.refl _)
  case text =>
    intro mem
    rcases List.mem_cons.1 mem with rfl | mem
    · refine ⟨stored, by simp, came, ?_⟩
      rw [List.forall_mem_append, List.forall_mem_singleton]
      refine ⟨?_, fun _ _ _ => le_rfl⟩
      -- No value of an earlier text is the same, or its element would be.
      intro text mem other read_text same
      obtain ⟨old, mem_old, same_old⟩ := keeps.covers text mem other read_text
      have again : FieldFamily.same k element old = true := lawful.trans same (lawful.symm same_old)
      rw [fresh old mem_old] at again
      exact absurd again Bool.false_ne_true
    · exact keeps.exists_least_concat greater mem
  case least =>
    rintro ⟨text, mem_text, read_text, least⟩
    rw [List.forall_mem_append] at least
    rcases List.mem_append.1 mem_text with earlier | last
    · exact .tail _ ((keeps.mem_iff element).2 ⟨text, earlier, read_text, least.1⟩)
    · obtain rfl := List.mem_singleton.1 last
      obtain rfl := Except.ok.inj (came.symm.trans read_text)
      exact .head _

theorem reverse (keeps : Keeps read seen elements) : Keeps read seen elements.reverse where
  apart := by
    rw [List.pairwise_reverse]
    refine keeps.apart.imp fun {a b} apart => ?_
    rw [← Bool.not_eq_true] at apart ⊢
    exact fun same => apart (lawful.symm same)
  covers := by simpa using keeps.covers
  mem_iff := by simpa using keeps.mem_iff

/-- The elements are collected in reverse, one text after another. -/
theorem loop {texts : List String} {values : List (Value k)} (collects : Collects read texts values)
    (keeps : Keeps read seen elements) (ascending : (seen ++ texts).Pairwise (· < ·)) :
    Keeps read (seen ++ texts) (List.eraseDupsBy.loop (FieldFamily.same k) values elements) := by
  induction collects generalizing seen elements with
  | nil =>
    rw [List.append_nil]
    exact keeps.reverse lawful
  | @cons stored value texts values came _ ih =>
    have greater : ∀ earlier ∈ seen, earlier < stored := fun earlier mem =>
      (List.pairwise_append.1 ascending).2.2 earlier mem stored (by simp)
    have shift : seen ++ stored :: texts = (seen ++ [stored]) ++ texts := by simp
    rw [shift] at ascending ⊢
    rw [List.eraseDupsBy.loop]
    -- The loop looks for the value among the elements that the texts before it have left.
    cases known : elements.any (FieldFamily.same k value) with
    | true =>
      exact ih (add_known lawful keeps came greater (List.any_eq_true.1 known)) ascending
    | false =>
      exact ih (add_new lawful keeps came greater (by simpa using known)) ascending

/-- What is left of the values of ascending texts without repetitions. -/
theorem distinct {texts : List String} {values : List (Value k)}
    (collects : Collects read texts values) (ascending : texts.Pairwise (· < ·)) :
    Keeps read texts (FieldFamily.distinct k values) :=
  loop lawful collects nil ascending

end Keeps

/-! ## Whole collections -/

/-- The collections of a column are read text by text: `taken` are the texts of a cell that are
read, one after another as `read` has it, and `calls` are the calls of readers for those that are
tried. -/
structure Row.ReadsEach (registry : Registry κ) (row : Row) (column : String) (k : κ)
    (taken : List String → List String) (read : String → Except MappingError (Value k))
    (calls : List String → List (String × String)) : Prop where
  list : ∀ items, row[column]? = some (.list items) →
    ∃ answer tried, Walks read (taken items) answer tried ∧
      (row.readList registry column k).traced = (answer, calls tried)
  set : ∀ items, row[column]? = some (.set items) → items.toList.Pairwise (· < ·) ∧
    ∃ answer tried, Walks read (taken items.toList) answer tried ∧
      match answer with
      | .error e => (row.readSet registry column k).traced = (.error e, calls tried)
      | .ok _ => ∃ elements,
          (row.readSet registry column k).traced = (.ok elements, calls tried) ∧
            ((Equivalence fun a b : Value k => FieldFamily.same k a b = true) →
              Keeps read (taken items.toList) elements)

section Cells

variable {row : Row} {read : String → Except MappingError (Value k)}
  {taken : List String → List String} {calls : List String → List (String × String)}

theorem traced_readList (registry : Registry κ) (k : κ) {items : List String}
    (held : row[column]? = some (.list items)) :
    (row.readList registry column k).traced =
      (Row.readItems registry column k items).traced := by
  rw [Row.readList, held]

theorem traced_readSet (registry : Registry κ) (k : κ) {items : Std.ExtTreeSet String}
    (held : row[column]? = some (.set items)) :
    (row.readSet registry column k).traced =
      ((Row.readItems registry column k items.toList).traced.1.map (FieldFamily.distinct k),
        (Row.readItems registry column k items.toList).traced.2) := by
  rw [Row.readSet, held]
  rcases run : (Row.readItems registry column k items.toList).traced with ⟨answer, made⟩
  cases answer with
  | error e => exact Action.traced_bind_of_error run
  | ok values =>
    simp only
    rw [Action.traced_bind_of_ok run]
    simp [Except.map, Action.traced]

theorem pairwise_lt_toList (items : Std.ExtTreeSet String) : items.toList.Pairwise (· < ·) :=
  Std.ExtTreeSet.ordered_toList.imp compare_lt_iff_lt.1

/-- What holds of texts one after another holds of the cells that they are in. -/
theorem readsEach_of_walks
    (walks : ∀ items, ∃ answer tried, Walks read (taken items) answer tried ∧
      (Row.readItems registry column k items).traced = (answer, calls tried))
    (sublist : ∀ items, (taken items).Sublist items) :
    row.ReadsEach registry column k taken read calls where
  list items held := by
    rw [traced_readList registry k held]
    exact walks items
  set items held := by
    have ascending := pairwise_lt_toList items
    obtain ⟨answer, tried, walked, run⟩ := walks items.toList
    refine ⟨ascending, answer, tried, walked, ?_⟩
    have whole := traced_readSet registry k held
    rw [run] at whole
    cases walked with
    | collects all =>
      -- The texts that are taken are still in ascending order.
      exact ⟨_, whole, fun lawful => .distinct lawful all (ascending.sublist (sublist _))⟩
    | stops => exact whole

end Cells

/-- The texts of a collection that are shown to a reader: all of them, or those that are not blank
while blank texts are absent. -/
def Registry.shown (registry : Registry κ) (items : List String) : List String :=
  if registry.options.blankIsAbsent then items.filter fun stored => !Text.isBlank stored else items

theorem Registry.filter_eq_shown (registry : Registry κ) (items : List String) :
    (items.filter fun stored => !(registry.options.blankIsAbsent && Text.isBlank stored)) =
      registry.shown items := by
  rw [shown]
  cases registry.options.blankIsAbsent <;> simp

/-- Where a type has a converter, its reader is called for the texts of a collection that it is
shown and for no others, in order and up to the first that it rejects; where it has none, all texts
are read in order, and each gives one value. Of values that are one element, a set keeps that of the
least text. -/
theorem Row.collections_are_read_in_order (registry : Registry κ) (row : Row) (column : String)
    (k : κ) :
    (∀ converter, registry.find? k = some converter →
      row.ReadsEach registry column k registry.shown
        (fun stored => (converter.read stored).mapError fun cause =>
          .conversion (.conversion (typeName k) .read cause))
        (fun tried => tried.map fun stored => (typeName k, stored))) ∧
    (registry.find? k = none →
      row.ReadsEach registry column k id
        (fun stored => (readDefault k stored).mapError fun fault =>
          .default column fault.message)
        (fun _ => []) ∧
      ∀ items values calls, row[column]? = some (.list items) →
        (row.readList registry column k).traced = (.ok values, calls) →
          values.length = items.length) := by
  refine ⟨?custom, ?default⟩
  case custom =>
    intro converter registered
    apply readsEach_of_walks
    · intro items
      obtain ⟨answer, tried, walks, run⟩ :=
        exists_walks_readItems _ _ _ (traced_decodeField_of_some registered column) items
      rw [registry.filter_eq_shown] at walks
      exact ⟨answer, tried, walks, run.trans (by rw [List.map_eq_flatMap])⟩
    · intro items
      rw [Registry.shown]
      split
      next => exact List.filter_sublist
      next => exact .refl _
  case default =>
    intro unregistered
    have reads : row.ReadsEach registry column k id
        (fun stored => (readDefault k stored).mapError fun fault => .default column fault.message)
        (fun _ => []) := by
      apply readsEach_of_walks
      · intro items
        obtain ⟨answer, tried, walks, run⟩ := exists_walks_readItems (fun _ => false) _
          (fun _ => []) (traced_decodeField_of_none unregistered column) items
        simp only [Bool.not_false, List.filter_true] at walks
        exact ⟨answer, tried, walks, run.trans (by simp)⟩
      · exact fun _ => .refl _
    refine ⟨reads, fun items values calls held answered => ?_⟩
    obtain ⟨answer, tried, walks, run⟩ := reads.list items held
    obtain rfl : .ok values = answer := (Prod.mk.inj (answered.symm.trans run)).1
    cases walks with
    | collects all => exact all.length_eq.symm

/-- Being one element is an equivalence for every type of the catalogue. -/
theorem FieldType.equivalence_same (type : FieldType) :
    Equivalence fun a b : Value type => FieldFamily.same type a b = true := by
  have equal : Equivalence fun a b : Value type => @decide (a = b) (type.decideEq a b) = true := by
    simp only [decide_eq_true_eq]
    exact eq_equivalence
  cases type with
  | ciName =>
    have alike : (fun a b : CiName => CiName.same a b = true) =
        fun a b => a.text.toLower = b.text.toLower := by
      funext a b
      rw [CiName.same, decide_eq_true_eq]
    refine cast (congrArg Equivalence alike.symm) ⟨fun _ => rfl, Eq.symm, Eq.trans⟩
  | _ => exact equal

/-- A blank text is passed over, a text that is rejected keeps those behind it from being read, and
of two names that differ in case alone the first is kept. Without a converter a blank text is read
like any other. -/
theorem Row.collections_are_read_in_order_tags :
    let registry : Registry FieldType :=
      { converters := [⟨.string, TextConverter.tagged⟩, ⟨.ciName, .json FieldType.ciName⟩],
        options := {} }
    let row : Row := (((∅ : Row).insert "tags" (.list ["", "s:a", " ", "b", "s:c"])).insert
      "nicknames" (.set (.ofList ["\"a\"", " ", "\"A\""]))).insert "names" (.list ["x", "", "x"])
    let string := typeName FieldType.string
    let name := typeName FieldType.ciName
    ((row.readList registry "tags" FieldType.string).traced =
        (.error (.conversion (.conversion string .read (.text "missing tag in 1 bytes"))),
          [(string, "s:a"), (string, "b")]) ∧
      ∃ answer, Walks (fun stored => (TextConverter.tagged.read stored).mapError fun cause =>
        MappingError.conversion (.conversion string .read cause))
          ["s:a", "b", "s:c"] answer ["s:a", "b"]) ∧
    ((row.readSet registry "nicknames" FieldType.ciName).traced =
        (.ok [⟨"A"⟩], [(name, "\"A\""), (name, "\"a\"")]) ∧
      Keeps (k := FieldType.ciName) (fun stored =>
        ((Converter.json FieldType.ciName).read stored).mapError fun cause =>
          .conversion (.conversion name .read cause)) ["\"A\"", "\"a\""] [⟨"A"⟩]) ∧
    (row.readList registry "names" FieldType.name).traced = (.ok [⟨"x"⟩, ⟨""⟩, ⟨"x"⟩], []) ∧
      [(⟨"x"⟩ : Name), ⟨""⟩, ⟨"x"⟩].length = ["x", "", "x"].length := by
  intro registry row string name
  have tags : (row.readList registry "tags" FieldType.string).traced =
      (.error (.conversion (.conversion string .read (.text "missing tag in 1 bytes"))),
        [(string, "s:a"), (string, "b")]) := by rfl
  have alike : ([⟨"A"⟩, ⟨"a"⟩] : List CiName).eraseDupsBy CiName.same = [⟨"A"⟩] := by
    decide +kernel
  have nicknames : (row.readSet registry "nicknames" FieldType.ciName).traced =
      (.ok [⟨"A"⟩], [(name, "\"A\""), (name, "\"a\"")]) := by
    rw [← alike]
    rfl
  have names : (row.readList registry "names" FieldType.name).traced =
      (.ok [⟨"x"⟩, ⟨""⟩, ⟨"x"⟩], []) := by rfl
  refine ⟨⟨tags, ?walks⟩, ⟨nicknames, ?keeps⟩, names, ?length⟩
  case walks =>
    have reads := (collections_are_read_in_order registry row "tags" FieldType.string).1
      TextConverter.tagged rfl
    obtain ⟨answer, tried, walks, run⟩ := reads.list ["", "s:a", " ", "b", "s:c"] (by decide)
    have calls := (Prod.mk.inj (tags.symm.trans run)).2
    obtain rfl : tried = ["s:a", "b"] := by
      simpa using congrArg (·.map Prod.snd) calls.symm
    exact ⟨answer, walks⟩
  case keeps =>
    have reads := (collections_are_read_in_order registry row "nicknames" FieldType.ciName).1
      (.json FieldType.ciName) rfl
    obtain ⟨-, answer, tried, walks, whole⟩ :=
      reads.set (.ofList ["\"a\"", " ", "\"A\""]) (by decide)
    cases answer with
    | error e =>
      have failed := (Prod.mk.inj (nicknames.symm.trans whole)).1
      cases failed
    | ok values =>
      obtain ⟨elements, run, keeps⟩ := whole
      obtain rfl : [⟨"A"⟩] = elements :=
        Except.ok.inj (Prod.mk.inj (nicknames.symm.trans run)).1
      exact keeps (FieldType.equivalence_same .ciName)
  case length =>
    exact ((collections_are_read_in_order registry row "names" FieldType.name).2 rfl).2 _ _ _
      (by decide) names

end Cellwise
