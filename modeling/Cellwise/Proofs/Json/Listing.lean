import Cellwise.Proofs.Json.Reading

/-!
# Arrays and objects, entry by entry

The items of an array and the members of an object are both listed between brackets: blanks may
stand in front of an entry and in front of the closing bracket, and a comma behind every entry but
the last.

* `listingChars` is the text of such a list behind its opening bracket.
* `TakesAll` says what becomes of a state when the entries are taken one after another.
* `answers_items` and `members_listing` turn that into the answers of the readers.
-/

namespace Cellwise.Json.Reader

variable {α σ : Type}

/-! ## The text -/

/-- Entries behind the first, each with its comma, and what closes the list. -/
def furtherChars (pad closing : List Char) : List (List Char) → List Char
  | [] => closing
  | text :: texts => ',' :: pad ++ text ++ furtherChars pad closing texts

/-- The entries of a list and its closing bracket; blanks may surround the entries if there are
any. -/
def listingChars (pad gap : List Char) (close : Char) : List (List Char) → List Char
  | [] => [close]
  | text :: texts => pad ++ text ++ furtherChars pad (gap ++ [close]) texts

/-- Only blanks. -/
def Blank (blanks : List Char) : Prop := ∀ c ∈ blanks, isSpace c = true

theorem blank_nil : Blank [] := by
  intro c mem
  cases mem

/-- Blanks and brackets end a number. -/
theorem settled_blank_append {blanks : List Char} (blank : Blank blanks) {close : Char}
    (closes : close = ']' ∨ close = '\x7d') (rest : List Char) :
    Settled (blanks ++ close :: rest) := by
  cases blanks with
  | nil => rcases closes with rfl | rfl <;> exact ⟨rfl, by decide, by decide, by decide⟩
  | cons c blanks =>
    have space : isSpace c = true := blank c List.mem_cons_self
    simp only [isSpace, Bool.or_eq_true, decide_eq_true_eq] at space
    rcases space with ((rfl | rfl) | rfl) | rfl <;>
      exact ⟨rfl, by decide, by decide, by decide⟩

theorem settled_comma (rest : List Char) : Settled (',' :: rest) :=
  ⟨rfl, by decide, by decide, by decide⟩

/-! ## What follows -/

/-- How a reader tells whether a further entry follows: every entry begins with a character that
`opens` it, and the list ends with `close`. -/
structure Announces (follows : Bool → Reader Bool) (opens : Char → Prop) (close : Char) :
    Prop where
  bracket : close = ']' ∨ close = '\x7d'
  ends : ∀ (first : Bool) (blanks rest : List Char), Blank blanks →
    follows first (blanks ++ close :: rest) = .ok (false, close :: rest)
  begins : ∀ (blanks : List Char) (c : Char) (rest : List Char), Blank blanks → opens c →
    follows true (blanks ++ c :: rest) = .ok (true, c :: rest)
  goesOn : ∀ (blanks : List Char) (c : Char) (rest : List Char), Blank blanks → opens c →
    follows false (',' :: (blanks ++ c :: rest)) = .ok (true, c :: rest)

/-- What an item of an array begins with: no blank, and not the closing bracket. -/
def OpensItem (c : Char) : Prop := isSpace c = false ∧ c ≠ ']'

theorem announces_itemFollows : Announces itemFollows OpensItem ']' where
  bracket := .inl rfl
  ends first blanks rest blank := by
    rw [itemFollows, bind_of_ok (peek_append blanks rest ']' blank rfl)]
    rfl
  begins blanks c rest blank opens := by
    rw [itemFollows, bind_of_ok (peek_append blanks rest c blank opens.1)]
    simp [opens.2]
  goesOn blanks c rest blank opens := by
    have seen := peek_append blanks rest c blank opens.1
    rw [itemFollows, bind_of_ok (peek_cons _ rfl)]
    simp [bind_of_ok (drop_cons _ _), bind_of_ok seen, opens.2]

/-- What a member of an object begins with. -/
def OpensMember (c : Char) : Prop := c = '"'

theorem announces_memberFollows : Announces memberFollows OpensMember '\x7d' where
  bracket := .inr rfl
  ends first blanks rest blank := by
    rw [memberFollows, bind_of_ok (peek_append blanks rest '\x7d' blank rfl)]
    rfl
  begins blanks c rest blank opens := by
    obtain rfl : c = '"' := opens
    rw [memberFollows, bind_of_ok (peek_append blanks rest '"' blank rfl)]
    rfl
  goesOn blanks c rest blank opens := by
    obtain rfl : c = '"' := opens
    have seen := peek_append blanks rest '"' blank rfl
    rw [memberFollows, bind_of_ok (peek_cons _ rfl)]
    simp [bind_of_ok (drop_cons _ _), bind_of_ok seen]

/-! ## One entry after another -/

/-- What becomes of a state when the entries of a list are taken one after another, up to the first
that cannot be taken. -/
inductive TakesAll (opens : Char → Prop) (entry : σ → Reader σ) :
    σ → List (List Char) → Except Fault σ → Prop where
  | nil (state : σ) : TakesAll opens entry state [] (.ok state)
  | cons {state next : σ} {c : Char} {text : List Char} {texts : List (List Char)}
      {result : Except Fault σ} (opened : opens c) (taken : Reads (entry state) (c :: text) next)
      (later : TakesAll opens entry next texts result) :
      TakesAll opens entry state ((c :: text) :: texts) result
  | fault {state : σ} {c : Char} {text : List Char} {texts : List (List Char)} {fault : Fault}
      (opened : opens c) (failed : Answers (entry state) (c :: text) (.error fault)) :
      TakesAll opens entry state ((c :: text) :: texts) (.error fault)

/-- The last entry decides, whether it can be taken or not. -/
theorem TakesAll.last {opens : Char → Prop} {entry : σ → Reader σ} {state : σ} {c : Char}
    {text : List Char} {answer : Except Fault σ} (opened : opens c)
    (answers : Answers (entry state) (c :: text) answer) :
    TakesAll opens entry state [c :: text] answer := by
  cases answer with
  | error fault => exact .fault opened answers
  | ok next => exact .cons opened answers (.nil next)

/-- Entries that are put in front of those found before them. Each of them fits or not, and one that
does not fit ends in a fault. -/
theorem takesAll_of_forall {opens : Char → Prop} {entry : List α → Reader (List α)}
    {text : α → List Char} {fault : Fault} (fits : α → Prop) [DecidablePred fits] {entries : List α}
    (opened : ∀ a ∈ entries, ∃ c more, text a = c :: more ∧ opens c)
    (answers : ∀ a ∈ entries, ∀ found, Answers (entry found) (text a)
      (if fits a then .ok (a :: found) else .error fault)) (found : List α) :
    TakesAll opens entry found (entries.map text)
      (if ∀ a ∈ entries, fits a then .ok (entries.reverse ++ found) else .error fault) := by
  induction entries generalizing found with
  | nil => simpa using TakesAll.nil found
  | cons a entries ih =>
    rcases opened a List.mem_cons_self with ⟨c, more, eq, opens_c⟩
    have answer := answers a List.mem_cons_self found
    have later : TakesAll opens entry (a :: found) (entries.map text)
        (if ∀ a ∈ entries, fits a then .ok (entries.reverse ++ a :: found) else .error fault) := by
      refine ih ?_ ?_ (a :: found)
      · intro b mem
        exact opened b (List.mem_cons_of_mem a mem)
      · intro b mem
        exact answers b (List.mem_cons_of_mem a mem)
    rw [List.map_cons, eq]
    rw [eq] at answer
    -- The first entry that does not fit decides, whatever the later ones are like.
    by_cases fit : fits a
    · rw [if_pos fit] at answer
      simpa [fit] using TakesAll.cons opens_c answer later
    · rw [if_neg fit] at answer
      have failed : TakesAll opens entry found ((c :: more) :: entries.map text) (.error fault) :=
        .fault opens_c answer
      simpa [fit] using failed

/-- The step of the loop over the entries of a list. -/
def listingStep (follows : Bool → Reader Bool) (entry : σ → Reader σ) :
    Bool × σ → Reader (Option (Bool × σ)) := fun (first, state) => do
  if ← follows first then
    let next ← entry state
    pure (some (false, next))
  else pure none

section Listing

variable {follows : Bool → Reader Bool} {opens : Char → Prop} {close : Char}
  {entry : σ → Reader σ} {pad gap : List Char}

theorem listingStep_of_false {first : Bool} {state : σ} {input rest : List Char}
    (ends : follows first input = .ok (false, rest)) :
    listingStep follows entry (first, state) input = .ok (none, rest) := by
  rw [listingStep, bind_of_ok ends]
  rfl

/-- An entry that is taken leads on to what is behind it. -/
theorem iterates_of_entry {first : Bool} {state next : σ} {input text more : List Char}
    {result : Except Fault ((Bool × σ) × List Char)}
    (goes : follows first input = .ok (true, text ++ more)) (taken : Reads (entry state) text next)
    (settled : Settled more) (shorter : more.length < input.length)
    (later : Iterates (listingStep follows entry) (false, next) more result) :
    Iterates (listingStep follows entry) (first, state) input result := by
  have step : listingStep follows entry (first, state) input = .ok (some (false, next), more) := by
    rw [listingStep, bind_of_ok goes]
    simp [bind_of_ok (taken more settled)]
  exact .next step shorter later

/-- An entry that cannot be taken ends the loop. -/
theorem iterates_of_failed_entry {first : Bool} {state : σ} {input text more : List Char}
    {fault : Fault} (goes : follows first input = .ok (true, text ++ more))
    (failed : Answers (entry state) text (.error fault)) (settled : Settled more) :
    Iterates (listingStep follows entry) (first, state) input (.error fault) := by
  have step : listingStep follows entry (first, state) input = .error fault := by
    rw [listingStep, bind_of_ok goes]
    simp [bind_of_error (failed more settled)]
  exact .fault step

theorem settled_furtherChars (announces : Announces follows opens close) (blank : Blank gap)
    (texts : List (List Char)) (rest : List Char) :
    Settled (furtherChars pad (gap ++ [close]) texts ++ rest) := by
  cases texts with
  | nil => simpa [furtherChars] using settled_blank_append blank announces.bracket rest
  | cons text texts => exact settled_comma _

/-- The loop behind an entry. The bracket that closes the list is left on the text. -/
theorem iterates_furtherChars (announces : Announces follows opens close) (padding : Blank pad)
    (blank : Blank gap) {state : σ} {texts : List (List Char)} {result : Except Fault σ}
    (all : TakesAll opens entry state texts result) (rest : List Char) :
    Iterates (listingStep follows entry) (false, state)
      (furtherChars pad (gap ++ [close]) texts ++ rest)
      (result.map fun state => ((false, state), close :: rest)) := by
  -- The induction is on the entries that are left; each begins with a comma, the bracket does not.
  induction all with
  | nil state =>
    have stopped : listingStep follows entry (false, state) (gap ++ close :: rest) =
        .ok (none, close :: rest) :=
      listingStep_of_false (announces.ends false gap rest blank)
    simpa [furtherChars, Except.map] using Iterates.stop stopped
  | @cons state next c text texts result opened taken later ih =>
    refine iterates_of_entry ?_ taken (settled_furtherChars announces blank texts rest) ?_ ih
    · simpa [furtherChars] using announces.goesOn pad c
        (text ++ (furtherChars pad (gap ++ [close]) texts ++ rest)) padding opened
    · simp [furtherChars]
      omega
  | @fault state c text texts fault opened failed =>
    have settled : Settled (furtherChars pad (gap ++ [close]) texts ++ rest) :=
      settled_furtherChars announces blank texts rest
    refine iterates_of_failed_entry ?_ failed settled
    simpa [furtherChars] using announces.goesOn pad c
      (text ++ (furtherChars pad (gap ++ [close]) texts ++ rest)) padding opened

/-- The loop behind the opening bracket. Only the first entry has no comma in front. -/
theorem iterates_listingChars (announces : Announces follows opens close) (padding : Blank pad)
    (blank : Blank gap) {state : σ} {texts : List (List Char)} {result : Except Fault σ}
    (all : TakesAll opens entry state texts result) (rest : List Char) :
    Iterates (listingStep follows entry) (true, state) (listingChars pad gap close texts ++ rest)
      (result.map fun state => ((texts.isEmpty, state), close :: rest)) := by
  cases all with
  | nil =>
    exact .stop (listingStep_of_false (announces.ends true [] rest blank_nil))
  | @cons _ next c text texts result opened taken later =>
    refine iterates_of_entry ?_ taken (settled_furtherChars announces blank texts rest) ?_
      (iterates_furtherChars announces padding blank later rest)
    · simpa [listingChars] using announces.begins pad c
        (text ++ (furtherChars pad (gap ++ [close]) texts ++ rest)) padding opened
    · simp [listingChars]
      omega
  | @fault _ c text texts fault opened failed =>
    have settled : Settled (furtherChars pad (gap ++ [close]) texts ++ rest) :=
      settled_furtherChars announces blank texts rest
    refine iterates_of_failed_entry ?_ failed settled
    simpa [listingChars] using announces.begins pad c
      (text ++ (furtherChars pad (gap ++ [close]) texts ++ rest)) padding opened

end Listing

/-! ## Items and members -/

/-- Reads an item in front of the items found before it. -/
def itemOnto (item : Reader α) (found : List α) : Reader (List α) := do
  let next ← item
  pure (next :: found)

/-- The loop over the items is one over entries, with the items found as its state. -/
theorem items_eq (item : Reader α) :
    items item = (do
      let (_, found) ← iterate (listingStep itemFollows (itemOnto item)) (true, [])
      closeArray
      pure found.reverse) := by
  unfold items listingStep itemOnto
  simp only [bind_assoc, pure_bind]

theorem closeArray_cons (rest : List Char) : closeArray (']' :: rest) = .ok ((), rest) := rfl

/-- The items of an array are what is found, the last one in front. -/
theorem answers_items {item : Reader α} {texts : List (List Char)} {pad gap : List Char}
    {result : Except Fault (List α)} (all : TakesAll OpensItem (itemOnto item) [] texts result)
    (padding : Blank pad) (blank : Blank gap) :
    Answers (items item) (listingChars pad gap ']' texts) (result.map List.reverse) := by
  intro rest _
  have run := iterate_eq (iterates_listingChars announces_itemFollows padding blank all rest)
  rw [items_eq]
  cases result with
  | error fault => exact bind_of_error run
  | ok found =>
    rw [bind_of_ok run]
    simp [bind_of_ok (closeArray_cons rest), Except.map]

theorem closeObject_cons (rest : List Char) : closeObject ('\x7d' :: rest) = .ok ((), rest) := rfl

/-- The members of an object are folded into the state; the closing brace is left. -/
theorem members_listing {member : σ → Reader σ} {start : σ} {texts : List (List Char)}
    {pad gap : List Char} {result : Except Fault σ}
    (all : TakesAll OpensMember member start texts result) (padding : Blank pad)
    (blank : Blank gap) (rest : List Char) :
    members member start (listingChars pad gap '\x7d' texts ++ rest) =
      result.map (·, '\x7d' :: rest) := by
  have run := iterate_eq (iterates_listingChars announces_memberFollows padding blank all rest)
  cases result with
  | error fault => exact bind_of_error run
  | ok state =>
    have loop : members member start = (do
        let (_, state) ← iterate (listingStep memberFollows member) (true, start)
        pure state) := rfl
    rw [loop, bind_of_ok run]
    rfl

end Cellwise.Json.Reader
