import FileRoutes.Segment.Token

namespace FileRoutes.Segment

/-!
# Segments — reading the tokens of a segment

The reader passes once over the characters and keeps a `State`: the literal text or the
parameter name read so far, its last character first.

* `State.settle` — a name of exactly three dots is no name but the mark of a catch-all;
* `State.step` — the tokens completed by a character, and the state after it;
* `scan` — the tokens of a run of characters, or why there are none;
* `tokenize` — the tokens of a segment;
* `scan_eq_scanBehind` — the mark of an optional parameter stands for a look at the character
  before.

Inside brackets only ASCII letters, digits, `_` and `.` are part of a name; other
characters are passed over. A bracket within a required parameter makes it optional, and an
optional parameter is closed by the second of two closing brackets in a row.
-/

/-- What the reader is in the middle of. The characters read so far stand in reverse. -/
inductive State where
  | literal (text : List Char)
  | required (name : List Char)
  /-- `closing` tells that the character before was a closing bracket. -/
  | optional (name : List Char) (closing : Bool)
  | catchAll (name : List Char)
deriving Repr, DecidableEq

/-- Whether a character can be part of a parameter's name. -/
def isNameChar (c : Char) : Bool := c.isAlphanum || c == '_' || c == '.'

/-- The token of the given kind and characters, or none if there are no characters. -/
def complete (kind : Kind) (reversed : List Char) : List Token :=
  if reversed.isEmpty then [] else [⟨kind, String.ofList reversed.reverse⟩]

/-- Turns a parameter whose name is three dots into a catch-all without a name. -/
def State.settle : State → State
  | .required ['.', '.', '.'] => .catchAll []
  | .optional ['.', '.', '.'] _ => .catchAll []
  | .catchAll ['.', '.', '.'] => .catchAll []
  | state => state

/-- The name with the character added, if it can be part of one. -/
def extendName (name : List Char) (c : Char) : List Char :=
  if isNameChar c then c :: name else name

/-- Closes a parameter: its token, and the start of a new literal. A parameter without a
    name cannot be closed. -/
def close (kind : Kind) (name : List Char) : Option (List Token × State) :=
  if name.isEmpty then none else some (complete kind name, .literal [])

/-- Reads one character: the tokens it completes and the state after it, or nothing if it
    closes a parameter without a name. -/
def State.step (state : State) (c : Char) : Option (List Token × State) :=
  match state.settle with
  | .literal text =>
    if c = '[' then some (complete .literal text, .required [])
    else some ([], .literal (c :: text))
  | .required name =>
    -- The name goes on behind the second bracket: `[a[b]]` is the optional parameter `ab`.
    if c = '[' then some ([], .optional name false)
    else if c = ']' then close .required name
    else some ([], .required (extendName name c))
  | .optional name closing =>
    if c = ']' then
      -- The first of two closing brackets only gets ready for the second.
      if closing then close .optional name else some ([], .optional name true)
    else some ([], .optional (extendName name c) false)
  | .catchAll name =>
    if c = ']' then close .catchAll name
    else some ([], .catchAll (extendName name c))

/-- Ends the segment: the last literal, or the name of the parameter left open. -/
def State.finish : State → Except (List Char) (List Token)
  | .literal text => .ok (complete .literal text)
  | .required name => .error name.reverse
  | .optional name _ => .error name.reverse
  | .catchAll name => .error name.reverse

/-- Reads characters from the given state on: their tokens, or the reason why there are none
    with the name read up to there. -/
def scan : State → List Char → Except (Reason × List Char) (List Token)
  | state, [] => state.finish.mapError fun name => (.unterminated, name)
  | state, c :: rest =>
    match state.step c with
    | none => .error (.emptyName, [])
    | some (tokens, next) => (scan next rest).map (tokens ++ ·)

/-- The tokens of a segment. -/
def tokenize (segment : String) : Except Malformed (List Token) :=
  (scan (.literal []) segment.toList).mapError fun (reason, name) =>
    ⟨segment, reason, String.ofList name⟩

/-! ### The character before -/

/-- The state with the mark of an optional parameter set anew from the character before. -/
def State.lookBack (previous : Option Char) : State → State
  | .optional name _ => .optional name (previous == some ']')
  | state => state

/-- Reads characters with a look at the character before in place of a mark: the mark that the
    state has is not used. -/
def scanBehind (previous : Option Char) :
    State → List Char → Except (Reason × List Char) (List Token)
  | state, [] => state.finish.mapError fun name => (.unterminated, name)
  | state, c :: rest =>
    match (state.lookBack previous).step c with
    | none => .error (.emptyName, [])
    | some (tokens, next) => (scanBehind (some c) next rest).map (tokens ++ ·)

/-- Behind a closed parameter, a new literal begins. -/
theorem eq_literal_of_close {kind : Kind} {name : List Char} {tokens : List Token} {next : State}
    (h : close kind name = some (tokens, next)) : next = .literal [] := by
  unfold close at h
  split at h
  · cases h
  · cases h
    rfl

/-- One step leaves the mark that the character just read would set. -/
theorem State.lookBack_of_step {state next : State} {c : Char} {tokens : List Token}
    (h : state.step c = some (tokens, next)) : next.lookBack (some c) = next := by
  unfold State.step at h
  split at h
  case h_1 text _ =>
    split at h
    · cases h
      rfl
    · cases h
      rfl
  case h_2 name _ =>
    split at h
    · -- the bracket that makes a parameter optional is not a closing one
      rename_i hc
      cases h
      rw [hc]
      rfl
    · split at h
      · rw [eq_literal_of_close h]
        rfl
      · cases h
        rfl
  case h_3 name closing _ =>
    split at h
    · rename_i hc
      split at h
      · rw [eq_literal_of_close h]
        rfl
      · cases h
        rw [hc]
        rfl
    · rename_i hc
      cases h
      have hbefore : (some c == some ']') = false := by simpa using hc
      rw [lookBack, hbefore]
  case h_4 name _ =>
    split at h
    · rw [eq_literal_of_close h]
      rfl
    · cases h
      rfl

/-- **The mark is a look at the character before.** From a state whose mark is right, both readers
    find the same. -/
theorem scan_eq_scanBehind {state : State} {previous : Option Char}
    (h : state.lookBack previous = state) (text : List Char) :
    scan state text = scanBehind previous state text := by
  induction text generalizing state previous with
  | nil => rfl
  | cons c rest ih =>
    rw [scan, scanBehind, h]
    cases hstep : state.step c with
    | none => rfl
    | some result =>
      obtain ⟨tokens, next⟩ := result
      dsimp only
      rw [ih (State.lookBack_of_step hstep)]

/-- A segment has the tokens that are read with a look at the character before. -/
theorem tokenize_eq_scanBehind (segment : String) :
    tokenize segment
      = (scanBehind none (.literal []) segment.toList).mapError fun (reason, name) =>
          ⟨segment, reason, String.ofList name⟩ := by
  rw [tokenize, scan_eq_scanBehind rfl]

end FileRoutes.Segment
