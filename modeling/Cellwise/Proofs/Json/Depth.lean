import Cellwise.Json.Form
import Cellwise.Proofs.Json.Tree

/-!
# What readers let through

`Ensures reader post` says that every value that a reader takes off a text has a property; there is
a rule for each way of putting readers together. With them, no value that is read nests more deeply
than its reader allows, and bringing it into canonical form does not deepen it.
-/

namespace Cellwise.Json

namespace Reader

variable {α β σ : Type}

/-- Every value that a reader takes off a text has a property. -/
def Ensures (reader : Reader α) (post : α → Prop) : Prop :=
  ∀ input a rest, reader input = .ok (a, rest) → post a

namespace Ensures

variable {reader : Reader α} {post : α → Prop}

protected theorem trivial (reader : Reader α) : Ensures reader fun _ => True :=
  fun _ _ _ _ => True.intro

protected theorem fail (fault : Fault) : Ensures (fail fault) post := by
  intro input a rest taken
  cases taken

protected theorem pure {a : α} (holds : post a) : Ensures (pure a) post := by
  intro input b rest taken
  cases taken
  exact holds

protected theorem bind {next : α → Reader β} {P : α → Prop} {Q : β → Prop}
    (first : Ensures reader P) (second : ∀ a, P a → Ensures (next a) Q) :
    Ensures (reader >>= next) Q := by
  intro input b rest taken
  cases read : reader input with
  | error fault => simp [bind, StateT.bind, read, Except.bind] at taken
  | ok outcome =>
    rcases outcome with ⟨a, middle⟩
    simp only [bind, StateT.bind, read, Except.bind] at taken
    exact second a (first input a middle read) middle b rest taken

/-- A reader whose value does not count comes first. -/
theorem behind {next : α → Reader β} {Q : β → Prop} (second : ∀ a, Ensures (next a) Q) :
    Ensures (reader >>= next) Q :=
  .bind (.trivial reader) fun a _ => second a

theorem whole (ensures : Ensures reader post) {text : List Char} {a : α}
    (read : Reader.whole reader text = .ok a) : post a := by
  cases taken : reader text with
  | error fault => simp [Reader.whole, taken, bind, Except.bind] at read
  | ok outcome =>
    rcases outcome with ⟨b, rest⟩
    have holds := ensures text b rest taken
    simp only [Reader.whole, taken, bind, Except.bind] at read
    split at read
    · cases read
      exact holds
    · cases read

/-! ### Loops -/

/-- What every step of a loop keeps holds in the end. -/
theorem iterate {step : σ → Reader (Option σ)} {invariant : σ → Prop}
    (keeps : ∀ state, invariant state → Ensures (step state) fun next => ∀ s ∈ next, invariant s)
    {start : σ} (holds : invariant start) : Ensures (iterate step start) invariant := by
  have all (fuel : Nat) : ∀ state, invariant state →
      Ensures (iterateFrom step fuel state) invariant := by
    induction fuel with
    | zero =>
      intro state holds input last rest taken
      cases taken
    | succ fuel ih =>
      intro state holds input last rest taken
      rw [iterateFrom] at taken
      have kept := keeps state holds input
      split at taken
      next => cases taken
      next =>
        cases taken
        exact holds
      next next later went =>
        have next_holds : invariant next := kept (some next) later went next rfl
        exact ih next next_holds later last rest taken
  intro input last rest taken
  exact all _ start holds input last rest taken

theorem items {item : Reader α} (each : Ensures item post) :
    Ensures (items item) fun found => ∀ a ∈ found, post a := by
  -- The items are found last one first.
  refine .bind (P := fun state => ∀ a ∈ state.2, post a) (.iterate ?_ (by simp)) ?_
  · rintro ⟨first, found⟩ holds
    refine .behind fun follows => ?_
    split
    · refine .bind each fun a taken => .pure ?_
      rintro state ⟨⟩
      exact List.forall_mem_cons.2 ⟨taken, holds⟩
    · exact .pure (by simp)
  · rintro ⟨first, found⟩ holds
    refine .behind fun _ => .pure ?_
    intro a mem
    exact holds a (List.mem_reverse.1 mem)

theorem members {member : σ → Reader σ} {invariant : σ → Prop}
    (keeps : ∀ state, invariant state → Ensures (member state) invariant) {start : σ}
    (holds : invariant start) : Ensures (members member start) invariant := by
  refine .bind (P := fun state => invariant state.2) (.iterate ?_ holds) ?_
  · rintro ⟨first, state⟩ holds
    refine .behind fun follows => ?_
    split
    · refine .bind (keeps state holds) fun next kept => .pure ?_
      rintro state ⟨⟩
      exact kept
    · exact .pure (by simp)
  · rintro ⟨first, state⟩ holds
    exact .pure holds

/-! ### Values -/

theorem dispatch {null : Reader α} {bool : Bool → Reader α}
    {number string array object : Reader α} (at_null : Ensures null post)
    (at_bool : ∀ b, Ensures (bool b) post) (at_number : Ensures number post)
    (at_string : Ensures string post) (at_array : Ensures array post)
    (at_object : Ensures object post) :
    Ensures (dispatch null bool number string array object) post := by
  refine .behind fun next => ?_
  cases next with
  | none => exact .fail .unfinished
  | some c =>
    -- The character decides between the eight ways to go on.
    simp only
    split
    next => exact .behind fun _ => at_null
    split
    next => exact .behind fun _ => at_bool true
    split
    next => exact .behind fun _ => at_bool false
    split
    next => exact at_number
    split
    next => exact .behind fun _ => at_string
    split
    next => exact at_array
    split
    next => exact at_object
    next => exact .fail .malformed

theorem jsonWith {array object : Reader Json} {bound : Nat}
    (at_array : Ensures array fun j => j.depth ≤ bound)
    (at_object : Ensures object fun j => j.depth ≤ bound) :
    Ensures (jsonWith array object) fun j => j.depth ≤ bound := by
  refine .dispatch ?_ ?_ ?_ ?_ at_array at_object
  · exact .pure (Nat.zero_le bound)
  · exact fun b => .pure (Nat.zero_le bound)
  · exact .behind fun n => .pure (Nat.zero_le bound)
  · exact .behind fun s => .pure (Nat.zero_le bound)

theorem memberOf {value : Reader Json} {bound : Nat}
    (each : Ensures value fun j => j.depth ≤ bound) (found : List (String × Json))
    (before : ∀ member ∈ found, member.2.depth ≤ bound) :
    Ensures (memberOf value found) fun found => ∀ member ∈ found, member.2.depth ≤ bound := by
  refine .behind fun _ => .behind fun name => .behind fun _ => ?_
  refine .bind each fun value shallow => .pure ?_
  exact List.forall_mem_cons.2 ⟨shallow, before⟩

end Ensures

/-- No value nests more deeply than the reader allows. -/
theorem ensures_json (bound : Nat) : Ensures (json bound) fun j => j.depth ≤ bound := by
  induction bound with
  | zero => exact .jsonWith (.fail .malformed) (.fail .malformed)
  | succ bound ih =>
    refine .jsonWith (.behind fun _ => ?_) (.behind fun _ => ?_)
    · refine .bind (.items ih) fun found shallow => .pure ?_
      exact (depth_array_le_succ found bound).2 shallow
    · refine .bind (.members (.memberOf ih) (by simp)) fun found shallow => ?_
      refine .behind fun _ => .pure ?_
      rw [depth_object_le_succ]
      intro member mem
      exact shallow member (List.mem_reverse.1 mem)

end Reader

/-! ## Canonical form -/

theorem exists_of_mem_canonicalItems {items : List Json} {j : Json}
    (mem : j ∈ canonicalItems items) : ∃ item ∈ items, j = item.canonical := by
  induction items with
  | nil => cases mem
  | cons item items ih =>
    rcases List.mem_cons.1 mem with rfl | mem
    · exact ⟨item, List.mem_cons_self, rfl⟩
    · rcases ih mem with ⟨other, there, eq⟩
      exact ⟨other, List.mem_cons_of_mem item there, eq⟩

theorem exists_of_mem_canonicalMembers {members : List (String × Json)} {m : String × Json}
    (mem : m ∈ canonicalMembers members) : ∃ member ∈ members, m.2 = member.2.canonical := by
  induction members with
  | nil => cases mem
  | cons member members ih =>
    rcases mem_insertMember mem with rfl | mem
    · exact ⟨member, List.mem_cons_self, rfl⟩
    · rcases ih mem with ⟨other, there, eq⟩
      exact ⟨other, List.mem_cons_of_mem member there, eq⟩

/-- Members that are dropped and moved do not make a value deeper. -/
theorem depth_canonical_le {j : Json} {bound : Nat} (shallow : j.depth ≤ bound) :
    j.canonical.depth ≤ bound := by
  induction j using inductionOn generalizing bound with
  | array items ih =>
    cases bound with
    | zero => simp [depth] at shallow
    | succ bound =>
      rw [depth_array_le_succ] at shallow
      rw [canonical, depth_array_le_succ]
      intro item mem
      rcases exists_of_mem_canonicalItems mem with ⟨item, there, rfl⟩
      exact ih item there (shallow item there)
  | object members ih =>
    cases bound with
    | zero => simp [depth] at shallow
    | succ bound =>
      rw [depth_object_le_succ] at shallow
      rw [canonical, depth_object_le_succ]
      intro m mem
      rcases exists_of_mem_canonicalMembers mem with ⟨member, there, eq⟩
      rw [eq]
      exact ih member there (shallow member there)
  | _ => exact shallow

/-- What is read as a value in canonical form can be written and read again. -/
theorem depth_le_of_parse {text : String} {json : CanonicalJson}
    (parsed : parse text = .ok json) : json.val.depth ≤ maxDepth := by
  have ensures : Reader.Ensures (Form.read maxDepth : Reader CanonicalJson)
      fun json => json.val.depth ≤ maxDepth :=
    .bind (Reader.ensures_json maxDepth) fun j shallow => .pure (depth_canonical_le shallow)
  exact ensures.whole parsed

end Cellwise.Json
