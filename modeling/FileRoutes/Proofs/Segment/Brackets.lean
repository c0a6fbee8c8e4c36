import FileRoutes.Proofs.Segment.Canonical
import Mathlib.Data.List.Induction

namespace FileRoutes.Segment

/-!
# Segments — what stands between two brackets

All that the reader knows within a parameter can be told from the characters behind its opening
bracket, without reading them one by one.

* `parameterKind`, `parameterName` — the parameter that a pair of brackets stands for, by the
  characters between them;
* `Closes` — whether a closing bracket behind such characters ends the parameter;
* `State.Within` — the state of a reader behind an opening bracket and some more characters;
* `State.Within.step_close`, `State.Within.step_open` — the two things that one character can do to
  it;
* `scan_literal`, `scan_closed`, `scan_unclosed` — the reader takes a literal, a parameter or the
  open rest of a segment as a whole.
-/

/-! ### The parameter of a pair of brackets -/

/-- The characters of names: ASCII letters and digits, `_` and `.`. -/
def NameChar (c : Char) : Prop :=
  ('A' ≤ c ∧ c ≤ 'Z') ∨ ('a' ≤ c ∧ c ≤ 'z') ∨ ('0' ≤ c ∧ c ≤ '9') ∨ c = '_' ∨ c = '.'

instance : DecidablePred NameChar := fun c =>
  inferInstanceAs (Decidable (('A' ≤ c ∧ c ≤ 'Z') ∨ ('a' ≤ c ∧ c ≤ 'z') ∨ ('0' ≤ c ∧ c ≤ '9') ∨
    c = '_' ∨ c = '.'))

/-- The mark of a catch-all. -/
abbrev mark : List Char := ['.', '.', '.']

/-- The name characters among those between two brackets. -/
def nameChars (inside : List Char) : List Char := inside.filter (NameChar ·)

/-- A name without the marks at its start. -/
def dropMarks : List Char → List Char
  | '.' :: '.' :: '.' :: name => dropMarks name
  | name => name

/-- The name of the parameter with these characters between its brackets. -/
def parameterName (inside : List Char) : List Char := dropMarks (nameChars inside)

/-- The kind of the parameter with these characters between its brackets. -/
def parameterKind (inside : List Char) : Kind :=
  if mark <+: nameChars inside then .catchAll
  else if '[' ∈ inside then .optional
  else .required

/-- Whether a closing bracket behind these characters ends the parameter: always, but for an
    optional one, which needs a closing bracket before it. -/
def Closes (inside : List Char) : Prop :=
  mark <+: nameChars inside ∨ '[' ∉ inside ∨ inside.getLast? = some ']'

instance : DecidablePred Closes := fun inside =>
  inferInstanceAs
    (Decidable (mark <+: nameChars inside ∨ '[' ∉ inside ∨ inside.getLast? = some ']'))

/-- The name read so far in a parameter that is never closed. A mark is taken off only once another
    character follows it. -/
def openName (inside : List Char) : List Char :=
  match inside.getLast? with
  | none => []
  | some last => parameterName inside.dropLast ++ nameChars [last]

/-- None of the closing brackets among these characters ends the parameter. -/
def StaysOpen (inside : List Char) : Prop :=
  ∀ front, front ++ [']'] <+: inside → ¬ Closes front

/-! ### One character more -/

/-- The reader lets the same characters into a name. -/
theorem isNameChar_iff (c : Char) : isNameChar c = true ↔ NameChar c := by
  have hupper : c.isUpper = decide ('A' ≤ c ∧ c ≤ 'Z') := rfl
  have hlower : c.isLower = (decide ('a' ≤ c) && decide (c ≤ 'z')) := rfl
  have hdigit : c.isDigit = (decide ('0' ≤ c) && decide (c ≤ '9')) := rfl
  have halphanum : c.isAlphanum = (c.isUpper || c.isLower || c.isDigit) := rfl
  rw [isNameChar, halphanum, hupper, hlower, hdigit, NameChar]
  simp only [Bool.or_eq_true, Bool.and_eq_true, decide_eq_true_eq, beq_iff_eq, or_assoc]

/-- Unfolding lemma: the name characters of two runs in a row. -/
theorem nameChars_append (left right : List Char) :
    nameChars (left ++ right) = nameChars left ++ nameChars right := List.filter_append ..

/-- Adding a character to a name read so far, its last character first. -/
theorem extendName_reverse (name : List Char) (c : Char) :
    extendName name.reverse c = (name ++ nameChars [c]).reverse := by
  unfold extendName
  by_cases hc : NameChar c
  · rw [if_pos ((isNameChar_iff c).mpr hc)]
    simp [nameChars, hc]
  · rw [if_neg fun h => hc ((isNameChar_iff c).mp h)]
    simp [nameChars, hc]

/-- A name without a mark at its start is left as it is. -/
theorem dropMarks_of_not_mark {name : List Char} (h : ¬ mark <+: name) : dropMarks name = name := by
  unfold dropMarks
  split
  · rename_i rest
    exact absurd ⟨rest, rfl⟩ h
  · rfl

/-- One more character completes a mark only if there is nothing else. -/
theorem mark_prefix_concat {name : List Char} (h : ¬ mark <+: name) (c : Char) :
    mark <+: name ++ nameChars [c] ↔ name ++ nameChars [c] = mark := by
  by_cases hc : NameChar c
  · have hone : nameChars [c] = [c] := by simp [nameChars, hc]
    rw [hone, List.prefix_concat_iff, or_iff_left h, eq_comm]
  · have hnone : nameChars [c] = [] := by simp [nameChars, hc]
    rw [hnone, List.append_nil]
    exact ⟨fun hmark => absurd hmark h, fun heq => absurd (heq ▸ List.prefix_rfl) h⟩

/-- No mark is left where the marks are taken off. -/
theorem not_mark_dropMarks (name : List Char) : ¬ mark <+: dropMarks name := by
  fun_induction dropMarks name with
  | case1 name ih => exact ih
  | case2 name hname =>
    rintro ⟨rest, rfl⟩
    exact hname rest rfl

/-- Marks are taken off a longer name in two steps. -/
theorem dropMarks_append (name more : List Char) :
    dropMarks (name ++ more) = dropMarks (dropMarks name ++ more) := by
  fun_induction dropMarks name with
  | case1 name ih => exact ih
  | case2 name hname => rfl

/-- The name of a parameter with one more character. -/
theorem parameterName_concat (inside : List Char) (c : Char) :
    parameterName (inside ++ [c])
      = if parameterName inside ++ nameChars [c] = mark then []
        else parameterName inside ++ nameChars [c] := by
  rw [parameterName, nameChars_append, dropMarks_append, ← parameterName]
  split
  · rename_i heq
    rw [heq]
    rfl
  · rename_i hne
    apply dropMarks_of_not_mark
    exact fun hmark => hne ((mark_prefix_concat (not_mark_dropMarks _) c).mp hmark)

/-- The kind of a parameter with one more character. -/
theorem parameterKind_concat (inside : List Char) (c : Char) :
    parameterKind (inside ++ [c])
      = if parameterName inside ++ nameChars [c] = mark then .catchAll
        else if parameterKind inside = .required ∧ c = '[' then .optional
        else parameterKind inside := by
  by_cases hmark : mark <+: nameChars inside
  · -- once a catch-all, it stays one
    have hmore : mark <+: nameChars (inside ++ [c]) := by
      rw [nameChars_append]
      exact hmark.trans (List.prefix_append _ _)
    simp [parameterKind, hmark, hmore]
  · have hname : parameterName inside = nameChars inside := dropMarks_of_not_mark hmark
    rw [hname]
    unfold parameterKind
    rw [nameChars_append, if_congr (mark_prefix_concat hmark c) rfl rfl, if_neg hmark]
    by_cases hopened : '[' ∈ inside
    · simp [hopened]
    · by_cases hc : c = '['
      · simp [hopened, hc]
      · simp [hopened, hc, Ne.symm hc]

/-! ### The state of the reader -/

/-- The state of a reader in a parameter. -/
def State.parameter (kind : Kind) (name : List Char) (closing : Bool) : State :=
  match kind with
  | .optional => .optional name closing
  | .catchAll => .catchAll name
  | .literal | .required => .required name

/-- A parameter whose name is no mark is settled already. -/
theorem State.settle_eq_self {state : State} {kind : Kind} {name : List Char}
    (h : state.parameter? = some (kind, name)) (hname : name ≠ mark) : state.settle = state := by
  unfold State.settle
  split
  · cases h
    exact absurd rfl hname
  · cases h
    exact absurd rfl hname
  · cases h
    exact absurd rfl hname
  · rfl

/-- A mark makes a parameter a catch-all without a name. -/
theorem State.settle_parameter (kind : Kind) (name : List Char) (closing : Bool) :
    (State.parameter kind name closing).settle
      = if name = mark then .catchAll [] else .parameter kind name closing := by
  split
  · rename_i hname
    subst hname
    cases kind <;> rfl
  · rename_i hname
    cases kind with
    | literal => exact State.settle_eq_self rfl hname
    | required => exact State.settle_eq_self rfl hname
    | optional => exact State.settle_eq_self rfl hname
    | catchAll => exact State.settle_eq_self rfl hname

/-- Within a parameter, the text cannot end. -/
theorem State.finish_parameter (kind : Kind) (name : List Char) (closing : Bool) :
    (State.parameter kind name closing).finish = .error name.reverse := by
  cases kind <;> rfl

/-- The state that a reader is in behind an opening bracket and these characters, once a mark is
    taken off. -/
def State.behind (inside : List Char) : State :=
  .parameter (parameterKind inside) (parameterName inside).reverse (inside.getLast? == some ']')

/-- Whether a reader can be in this state behind an opening bracket and these characters. -/
structure State.Within (inside : List Char) (state : State) : Prop where
  settle : state.settle = .behind inside
  finish : state.finish = .error (openName inside)

/-- Behind the opening bracket itself. -/
theorem State.within_start : (State.required []).Within [] := ⟨rfl, rfl⟩

/-- Unfolding lemma: the name read so far, once there is a last character. -/
theorem openName_concat (inside : List Char) (c : Char) :
    openName (inside ++ [c]) = parameterName inside ++ nameChars [c] := by
  simp [openName]

/-- A closing bracket that ends the parameter closes it under its kind and its name. -/
theorem State.Within.step_close {inside : List Char} {state : State} (h : state.Within inside)
    (hcloses : Closes inside) :
    state.step ']' = close (parameterKind inside) (parameterName inside).reverse := by
  unfold State.step
  rw [h.settle, State.behind]
  unfold parameterKind
  -- a catch-all, an optional parameter, or a required one
  by_cases hmark : mark <+: nameChars inside
  · simp [hmark, State.parameter]
  · by_cases hopened : '[' ∈ inside
    · have hlast := (hcloses.resolve_left hmark).resolve_left (not_not.mpr hopened)
      simp [hmark, hopened, hlast, State.parameter]
    · simp [hmark, hopened, State.parameter]

/-- Where a character does not end the parameter, it may make it optional and add to its name. -/
theorem State.Within.step_parameter {inside : List Char} {state : State} (h : state.Within inside)
    {c : Char} (hopen : c = ']' → ¬ Closes inside) :
    state.step c = some ([], .parameter
      (if parameterKind inside = .required ∧ c = '[' then .optional else parameterKind inside)
      (extendName (parameterName inside).reverse c) (c == ']')) := by
  unfold State.step
  rw [h.settle, State.behind]
  unfold parameterKind
  -- only an optional parameter stays open behind a closing bracket, and notes that it was there
  by_cases hmark : mark <+: nameChars inside
  · have hc : c ≠ ']' := fun hc => hopen hc (.inl hmark)
    simp [hmark, hc, State.parameter]
  · by_cases hopened : '[' ∈ inside
    · by_cases hc : c = ']'
      · have hlast : inside.getLast? ≠ some ']' := fun hlast => hopen hc (.inr (.inr hlast))
        simp [hmark, hopened, hc, hlast, State.parameter, extendName_bracket]
      · simp [hmark, hopened, hc, State.parameter]
    · have hc : c ≠ ']' := fun hc => hopen hc (.inr (.inl hopened))
      by_cases hbracket : c = '['
      · simp [hmark, hopened, hbracket, State.parameter, extendName_bracket]
      · simp [hmark, hopened, hc, hbracket, State.parameter]

/-- **One step within brackets.** A character that does not end the parameter leaves the reader in
    the state that belongs to one character more. -/
theorem State.Within.step_open {inside : List Char} {state : State} (h : state.Within inside)
    {c : Char} (hopen : c = ']' → ¬ Closes inside) :
    ∃ next, state.step c = some ([], next) ∧ next.Within (inside ++ [c]) := by
  refine ⟨_, h.step_parameter hopen, ?_, ?_⟩
  · -- a mark reads the same in either direction
    have hmark : extendName (parameterName inside).reverse c = mark ↔
        parameterName inside ++ nameChars [c] = mark := by
      rw [extendName_reverse, List.reverse_eq_iff]
      rfl
    rw [State.settle_parameter, State.behind, parameterKind_concat, parameterName_concat,
      if_congr hmark rfl rfl, extendName_reverse, List.getLast?_concat]
    split
    · rfl
    · rfl
  · rw [State.finish_parameter, extendName_reverse, List.reverse_reverse, openName_concat]

/-! ### Runs of the reader -/

/-- A character that completes no token leaves the tokens of the rest. -/
theorem scan_of_step {state next : State} {c : Char} (h : state.step c = some ([], next))
    (rest : List Char) : scan state (c :: rest) = scan next rest := by
  rw [scan, h]
  show (scan next rest).map ([] ++ ·) = scan next rest
  cases scan next rest <;> rfl

/-- The characters before one of those that a parameter stays open behind. -/
theorem StaysOpen.front {inside more : List Char} (h : StaysOpen (inside ++ more)) :
    StaysOpen inside :=
  fun front hfront => h front (hfront.trans (List.prefix_append _ _))

/-- **A run within brackets.** A reader that starts behind an opening bracket is still within the
    parameter behind characters that do not end it. -/
theorem scan_within {inside : List Char} (h : StaysOpen inside) (rest : List Char) :
    ∃ next, scan (.required []) (inside ++ rest) = scan next rest ∧ next.Within inside := by
  -- from the right: the last character is one step from the state behind those before it
  induction inside using List.reverseRecOn generalizing rest with
  | nil => exact ⟨.required [], rfl, State.within_start⟩
  | append_singleton front c ih =>
    obtain ⟨state, hscan, hwithin⟩ := ih h.front (c :: rest)
    have hopen : c = ']' → ¬ Closes front := by
      rintro rfl
      exact h front List.prefix_rfl
    obtain ⟨next, hstep, hnext⟩ := hwithin.step_open hopen
    refine ⟨next, ?_, hnext⟩
    rw [List.append_assoc, List.singleton_append, hscan, scan_of_step hstep]

/-- A literal that has been read is the first token if a bracket follows or the text ends. -/
theorem scan_literal_end {read rest : List Char} (hrest : ∀ c ∈ rest.head?, c = '[') :
    scan (.literal read) rest
      = (scan (.literal []) rest).map (complete .literal read ++ ·) := by
  cases rest with
  | nil => simp [scan, State.finish, Except.mapError, Except.map, complete]
  | cons c rest =>
    have hc : c = '[' := hrest c rfl
    subst hc
    simp only [scan, State.step, State.settle, if_true]
    cases scan (.required []) rest with
    | error fault => rfl
    | ok tokens => rfl

/-- Characters other than an opening bracket are added to a literal. -/
theorem scan_literal_append {text : List Char} (htext : '[' ∉ text) (read rest : List Char) :
    scan (.literal read) (text ++ rest) = scan (.literal (text.reverse ++ read)) rest := by
  induction text generalizing read with
  | nil => rfl
  | cons c text ih =>
    rw [List.mem_cons, not_or] at htext
    have hstep : (State.literal read).step c = some ([], .literal (c :: read)) := by
      simp [State.step, State.settle, Ne.symm htext.1]
    rw [List.cons_append, scan_of_step hstep, ih htext.2, List.reverse_cons, List.append_assoc]
    rfl

/-- **A literal is read as a whole** if a bracket follows it or the text ends. -/
theorem scan_literal {text rest : List Char} (hne : text ≠ []) (htext : '[' ∉ text)
    (hrest : ∀ c ∈ rest.head?, c = '[') :
    scan (.literal []) (text ++ rest)
      = (scan (.literal []) rest).map (⟨.literal, String.ofList text⟩ :: ·) := by
  have htoken : complete .literal (text.reverse ++ []) = [⟨.literal, String.ofList text⟩] := by
    simp [complete, hne]
  rw [scan_literal_append htext, scan_literal_end hrest, htoken]
  rfl

/-- An opening bracket starts a parameter. -/
theorem scan_bracket (rest : List Char) :
    scan (.literal []) ('[' :: rest) = scan (.required []) rest := scan_of_step rfl rest

/-- **A parameter is read as a whole** up to the first bracket that ends it. -/
theorem scan_closed {inside : List Char} (hopen : StaysOpen inside) (hcloses : Closes inside)
    (rest : List Char) :
    scan (.literal []) ('[' :: inside ++ ']' :: rest)
      = if parameterName inside = [] then .error (.emptyName, [])
        else (scan (.literal []) rest).map
          (⟨parameterKind inside, String.ofList (parameterName inside)⟩ :: ·) := by
  obtain ⟨state, hscan, hwithin⟩ := scan_within hopen (']' :: rest)
  rw [List.cons_append, scan_bracket, hscan, scan, hwithin.step_close hcloses]
  by_cases hname : parameterName inside = []
  · simp [close, hname]
  · simp [close, hname, complete]

/-- **A parameter that no bracket ends** is not finished. -/
theorem scan_unclosed {text : List Char} (hopen : StaysOpen text) :
    scan (.literal []) ('[' :: text) = .error (.unterminated, openName text) := by
  obtain ⟨state, hscan, hwithin⟩ := scan_within hopen []
  rw [List.append_nil] at hscan
  rw [scan_bracket, hscan, scan, hwithin.finish]
  rfl

end FileRoutes.Segment
