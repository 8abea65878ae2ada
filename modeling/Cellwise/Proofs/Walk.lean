import Mathlib.Data.List.Forall2

/-!
# Walks over lists that may fail

Something that may fail is done for the items of a list, one after another. Either it succeeds for
all of them, and the answers are collected in order (`Collects`), or the walk is stopped by the
first item for which it fails (`StopsAt`), and the items behind that one do not count. `Walks` says
of either what is answered and which items are tried.
-/

namespace Cellwise

variable {ε α β : Type}

/-- A walk collects the answers of its items, one for each. -/
def Collects (f : α → Except ε β) (items : List α) (answers : List β) : Prop :=
  List.Forall₂ (fun item answer => f item = .ok answer) items answers

/-- A walk is stopped by an item that fails behind items that do not. -/
def StopsAt (f : α → Except ε β) (items : List α) (e : ε) : Prop :=
  ∃ before item after, items = before ++ item :: after ∧
    (∀ earlier ∈ before, ∃ answer, f earlier = .ok answer) ∧ f item = .error e

theorem not_stopsAt_nil (f : α → Except ε β) (e : ε) : ¬StopsAt f [] e := by
  rintro ⟨before, item, after, split, -⟩
  simp at split

/-- A walk is stopped by its first item, or behind it. -/
theorem stopsAt_cons_iff {f : α → Except ε β} {item : α} {items : List α} {e : ε} :
    StopsAt f (item :: items) e ↔
      f item = .error e ∨ (∃ answer, f item = .ok answer) ∧ StopsAt f items e := by
  constructor
  · rintro ⟨before, stop, after, split, fine, failed⟩
    rcases List.cons_eq_append_iff.1 split with ⟨rfl, same⟩ | ⟨before, rfl, rfl⟩
    · obtain ⟨rfl, rfl⟩ := List.cons.inj same
      exact .inl failed
    · rcases List.forall_mem_cons.1 fine with ⟨first, fine⟩
      exact .inr ⟨first, before, stop, after, rfl, fine, failed⟩
  · rintro (failed | ⟨first, before, stop, after, rfl, fine, failed⟩)
    · exact ⟨[], item, items, rfl, nofun, failed⟩
    · exact ⟨item :: before, stop, after, rfl, List.forall_mem_cons.2 ⟨first, fine⟩, failed⟩

theorem StopsAt.exists_mem {f : α → Except ε β} {items : List α} {e : ε}
    (stops : StopsAt f items e) : ∃ item ∈ items, f item = .error e := by
  obtain ⟨before, item, after, rfl, -, failed⟩ := stops
  exact ⟨item, by simp, failed⟩

theorem Collects.exists_answer {f : α → Except ε β} {items : List α} {answers : List β}
    (collects : Collects f items answers) : ∀ item ∈ items, ∃ answer, f item = .ok answer := by
  induction collects with
  | nil => exact nofun
  | cons first _ ih => exact List.forall_mem_cons.2 ⟨⟨_, first⟩, ih⟩

theorem Collects.mem_iff {f : α → Except ε β} {items : List α} {answers : List β}
    (collects : Collects f items answers) {answer : β} :
    answer ∈ answers ↔ ∃ item ∈ items, f item = .ok answer := by
  induction collects with
  | nil => simp
  | cons first _ ih => simp [ih, first, eq_comm]

/-- A walk over items, with what it answers and the items that it tries: all of them, or those up to
the first that fails. -/
inductive Walks (f : α → Except ε β) (items : List α) : Except ε (List β) → List α → Prop where
  | collects {answers : List β} (all : Collects f items answers) : Walks f items (.ok answers) items
  | stops (before : List α) (item : α) (after : List α) {e : ε}
      (split : items = before ++ item :: after)
      (fine : ∀ earlier ∈ before, ∃ answer, f earlier = .ok answer) (failed : f item = .error e) :
      Walks f items (.error e) (before ++ [item])

namespace Walks

variable {f : α → Except ε β} {items tried : List α} {item : α} {result : Except ε (List β)}

theorem nil : Walks f [] (.ok []) [] := .collects .nil

/-- Behind an item that fails nothing is tried. -/
theorem of_error {e : ε} (failed : f item = .error e) (items : List α) :
    Walks f (item :: items) (.error e) [item] :=
  .stops [] item items rfl nofun failed

theorem of_ok {answer : β} (first : f item = .ok answer) (rest : Walks f items result tried) :
    Walks f (item :: items) (result.map (answer :: ·)) (item :: tried) := by
  cases rest with
  | collects all => exact .collects (.cons first all)
  | stops before stop after split fine failed =>
    have split' : item :: items = (item :: before) ++ stop :: after := congrArg (item :: ·) split
    exact .stops _ stop after split' (List.forall_mem_cons.2 ⟨⟨_, first⟩, fine⟩) failed

end Walks

/-! ## Walks as they are written -/

theorem mapM_eq_ok_iff {f : α → Except ε β} {items : List α} {answers : List β} :
    items.mapM f = .ok answers ↔ Collects f items answers := by
  constructor
  · intro all
    induction items generalizing answers with
    | nil =>
      obtain rfl : [] = answers := Except.ok.inj all
      exact .nil
    | cons item items ih =>
      rw [List.mapM_cons] at all
      cases first : f item with
      | error e => simp [first, bind, Except.bind] at all
      | ok answer =>
        cases rest : items.mapM f with
        | error e => simp [first, rest, bind, Except.bind] at all
        | ok others =>
          obtain rfl : answer :: others = answers := by
            simpa [first, rest, bind, Except.bind, pure, Except.pure] using all
          exact .cons first (ih rest)
  · intro all
    induction all with
    | nil => rfl
    | cons first _ ih => simp [List.mapM_cons, first, ih, bind, Except.bind, pure, Except.pure]

theorem mapM_eq_error_iff {f : α → Except ε β} {items : List α} {e : ε} :
    items.mapM f = .error e ↔ StopsAt f items e := by
  induction items with
  | nil => simpa [pure, Except.pure] using not_stopsAt_nil f e
  | cons item items ih =>
    rw [List.mapM_cons, stopsAt_cons_iff, ← ih]
    cases first : f item with
    | error e' => simp [bind, Except.bind]
    | ok answer => cases rest : items.mapM f <;> simp [bind, Except.bind, pure, Except.pure]

/-- Tests one after another succeed together when each of them does. -/
theorem forM_eq_ok_iff {test : α → Except ε Unit} {items : List α} :
    items.forM test = .ok () ↔ ∀ item ∈ items, test item = .ok () := by
  induction items with
  | nil => simp [pure, Except.pure]
  | cons item items ih =>
    rw [List.forM_eq_forM] at ih ⊢
    rw [List.forM_cons, List.forall_mem_cons, ← ih]
    cases h : test item <;> simp [bind, Except.bind]

theorem forM_eq_error_iff {test : α → Except ε Unit} {items : List α} {e : ε} :
    items.forM test = .error e ↔ StopsAt test items e := by
  induction items with
  | nil => simpa [pure, Except.pure] using not_stopsAt_nil test e
  | cons item items ih =>
    rw [List.forM_eq_forM] at ih ⊢
    rw [List.forM_cons, stopsAt_cons_iff, ← ih]
    cases first : test item <;> simp [bind, Except.bind]

end Cellwise
