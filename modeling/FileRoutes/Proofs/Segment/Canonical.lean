import FileRoutes.Segment.Scan
import Mathlib.Data.List.Chain

namespace FileRoutes.Segment

/-!
# Segments — the form of the tokens that are read

* `State.step_cases` — all that one step of the reader can do; every other fact about a run is
  an induction over the characters with these four cases;
* `Canonical` — token lists without empty values and without two literals in a row, whose
  literals have no `[` and whose names have only name characters and no leading `...`;
* `canonical_of_tokenize` — only such lists are read;
* `tokenize_eq_nil` — only the empty segment has no tokens;
* `mem_of_tokenize` — every character of a value stands in the segment.
-/

/-! ### One step of the reader -/

/-- The kind and the name of the parameter that the reader is in, if it is in one. -/
def State.parameter? : State → Option (Kind × List Char)
  | .literal _ => none
  | .required name => some (.required, name)
  | .optional name _ => some (.optional, name)
  | .catchAll name => some (.catchAll, name)

/-- The characters that wait to become a token. -/
def State.read : State → List Char
  | .literal text => text
  | .required name | .optional name _ | .catchAll name => name

/-- A literal does not become a parameter, nor the other way round. -/
theorem State.eq_literal_of_settle {state : State} {text : List Char}
    (h : state.settle = .literal text) : state = .literal text := by
  unfold State.settle at h
  split at h
  · cases h
  · cases h
  · cases h
  · exact h

/-- A name keeps its characters when a bracket is read. -/
theorem extendName_bracket (name : List Char) {c : Char} (hc : c = '[' ∨ c = ']') :
    extendName name c = name := by
  rcases hc with rfl | rfl
  · simp [extendName, show isNameChar '[' = false by decide]
  · simp [extendName, show isNameChar ']' = false by decide]

/-- All that one step of the reader can do: end a literal at a bracket, go on with a literal,
    close a parameter that has a name, or go on with a parameter. -/
theorem State.step_cases {state next : State} {c : Char} {tokens : List Token}
    (h : state.step c = some (tokens, next)) :
    (∃ text, state = .literal text ∧ c = '[' ∧ tokens = complete .literal text ∧
      next = .required []) ∨
    (∃ text, state = .literal text ∧ c ≠ '[' ∧ tokens = [] ∧ next = .literal (c :: text)) ∨
    (∃ kind name, state.settle.parameter? = some (kind, name) ∧ name ≠ [] ∧ c = ']' ∧
      tokens = complete kind name ∧ next = .literal []) ∨
    (∃ kind kind' name, state.settle.parameter? = some (kind, name) ∧ tokens = [] ∧
      next.parameter? = some (kind', extendName name c)) := by
  -- Closing is the same for the three kinds of parameters.
  have hclose : ∀ {kind name}, state.settle.parameter? = some (kind, name) → c = ']' →
      close kind name = some (tokens, next) →
      ∃ kind name, state.settle.parameter? = some (kind, name) ∧ name ≠ [] ∧ c = ']' ∧
        tokens = complete kind name ∧ next = .literal [] := by
    intro kind name hstate hc hclose
    cases name with
    | nil => simp [close] at hclose
    | cons d name =>
      simp only [close, List.isEmpty_cons, Bool.false_eq_true, if_false, Option.some.injEq,
        Prod.mk.injEq] at hclose
      exact ⟨kind, d :: name, hstate, by simp, hc, hclose.1.symm, hclose.2.symm⟩
  unfold State.step at h
  split at h
  case h_1 text hstate =>
    have hliteral := State.eq_literal_of_settle hstate
    split at h
    · rename_i hc
      cases h
      exact .inl ⟨text, hliteral, hc, rfl, rfl⟩
    · rename_i hc
      cases h
      exact .inr (.inl ⟨text, hliteral, hc, rfl, rfl⟩)
  case h_2 name hstate =>
    have hparameter : state.settle.parameter? = some (.required, name) := by rw [hstate]; rfl
    split at h
    · rename_i hc
      cases h
      refine .inr (.inr (.inr ⟨_, .optional, name, hparameter, rfl, ?_⟩))
      rw [extendName_bracket name (.inl hc)]
      rfl
    · split at h
      · rename_i hc
        exact .inr (.inr (.inl (hclose hparameter hc h)))
      · cases h
        exact .inr (.inr (.inr ⟨_, .required, name, hparameter, rfl, rfl⟩))
  case h_3 name closing hstate =>
    have hparameter : state.settle.parameter? = some (.optional, name) := by rw [hstate]; rfl
    split at h
    · rename_i hc
      split at h
      · exact .inr (.inr (.inl (hclose hparameter hc h)))
      · cases h
        refine .inr (.inr (.inr ⟨_, .optional, name, hparameter, rfl, ?_⟩))
        rw [extendName_bracket name (.inr hc)]
        rfl
    · cases h
      exact .inr (.inr (.inr ⟨_, .optional, name, hparameter, rfl, rfl⟩))
  case h_4 name hstate =>
    have hparameter : state.settle.parameter? = some (.catchAll, name) := by rw [hstate]; rfl
    split at h
    · rename_i hc
      exact .inr (.inr (.inl (hclose hparameter hc h)))
    · cases h
      exact .inr (.inr (.inr ⟨_, .catchAll, name, hparameter, rfl, rfl⟩))

/-- A run that succeeds at the end of the text ends within a literal. -/
theorem scan_nil_eq_ok {state : State} {tokens : List Token} (h : scan state [] = .ok tokens) :
    ∃ read, state = .literal read ∧ tokens = complete .literal read := by
  cases state with
  | literal read =>
    cases h
    exact ⟨read, rfl, rfl⟩
  | required name => cases h
  | optional name closing => cases h
  | catchAll name => cases h

/-- A run that succeeds on a text with a first character takes a step at it and succeeds on the
    rest. -/
theorem scan_cons_eq_ok {state : State} {c : Char} {text : List Char} {tokens : List Token}
    (h : scan state (c :: text) = .ok tokens) :
    ∃ done next later, state.step c = some (done, next) ∧ scan next text = .ok later ∧
      tokens = done ++ later := by
  rw [scan] at h
  split at h
  · cases h
  · rename_i done next hstep
    cases hscan : scan next text with
    | error fault => rw [hscan] at h; cases h
    | ok later =>
      rw [hscan] at h
      cases h
      exact ⟨done, next, later, hstep, hscan, rfl⟩

/-- A segment has the tokens of a run over its characters. -/
theorem tokenize_eq_ok {segment : String} {tokens : List Token} :
    tokenize segment = .ok tokens ↔ scan (.literal []) segment.toList = .ok tokens := by
  unfold tokenize
  cases scan (.literal []) segment.toList <;> simp [Except.mapError]

/-! ### Canonical token lists -/

/-- A parameter is any token that is no literal. -/
theorem Token.isParameter_iff {token : Token} :
    token.isParameter = true ↔ token.kind ≠ .literal := bne_iff_ne

/-- Whether a token has a value that can be read for its kind: a literal without an opening
    bracket, or a name of name characters that does not start with the mark of a catch-all. -/
def Token.IsCanonical (token : Token) : Prop :=
  token.value ≠ "" ∧
    if token.kind = .literal then '[' ∉ token.value.toList
    else (∀ c ∈ token.value.toList, isNameChar c = true) ∧
      ¬ ['.', '.', '.'] <+: token.value.toList

/-- The value of a canonical token has a character. -/
theorem Token.IsCanonical.toList_ne_nil {token : Token} (h : token.IsCanonical) :
    token.value.toList ≠ [] :=
  fun hvalue => h.1 (String.toList_inj.mp hvalue)

/-- Token lists that are read from segments: every token is canonical, and of two neighbours one
    is a parameter. -/
structure Canonical (tokens : List Token) : Prop where
  token : ∀ token ∈ tokens, token.IsCanonical
  chain : tokens.IsChain fun left right => left.isParameter = true ∨ right.isParameter = true

/-- The rest of a canonical list is canonical. -/
theorem Canonical.tail {token : Token} {later : List Token} (h : Canonical (token :: later)) :
    Canonical later :=
  ⟨fun t ht => h.token t (List.mem_cons_of_mem _ ht), h.chain.tail⟩

/-- What follows a literal in a canonical list is a parameter. -/
theorem Canonical.next_ne_literal {token next : Token} {later : List Token}
    (h : Canonical (token :: next :: later)) (hkind : token.kind = .literal) :
    next.kind ≠ .literal := by
  have hchain := (List.isChain_cons_cons.mp h.chain).1
  rw [Token.isParameter_iff, Token.isParameter_iff] at hchain
  exact hchain.resolve_left fun hparameter => hparameter hkind

/-- Whether a name read so far, its last character first, can be the name of a parameter once the
    mark of a catch-all is taken off: three dots at its start are all there is. -/
def NameSound (name : List Char) : Prop :=
  (∀ c ∈ name, isNameChar c = true) ∧ (['.', '.', '.'] <+: name.reverse → name = ['.', '.', '.'])

/-- The states that the reader can be in. -/
def State.Sound : State → Prop
  | .literal text => '[' ∉ text
  | .required name | .optional name _ | .catchAll name => NameSound name

/-- The name of a parameter is sound in every state of a reader. -/
theorem State.Sound.name {state : State} (h : state.Sound) {kind : Kind} {name : List Char}
    (hname : state.parameter? = some (kind, name)) : NameSound name := by
  cases state <;> cases hname <;> exact h

/-- A state is sound if the name in it is. -/
theorem State.Sound.of_name {state : State} {kind : Kind} {name : List Char}
    (hname : state.parameter? = some (kind, name)) (h : NameSound name) : state.Sound := by
  cases state <;> cases hname <;> exact h

/-- Once the mark of a catch-all is taken off, a name does not start with one. -/
theorem State.Sound.settle {state : State} (h : state.Sound) {kind : Kind} {name : List Char}
    (hname : state.settle.parameter? = some (kind, name)) :
    (∀ c ∈ name, isNameChar c = true) ∧ ¬ ['.', '.', '.'] <+: name.reverse := by
  unfold State.settle at hname
  split at hname
  · cases hname; simp
  · cases hname; simp
  · cases hname; simp
  · rename_i hrequired hoptional hcatchAll
    obtain ⟨hchars, hdots⟩ := h.name hname
    refine ⟨hchars, fun hmark => ?_⟩
    cases hdots hmark
    cases state with
    | literal text => cases hname
    | required name => cases hname; exact hrequired rfl
    | optional name closing => cases hname; exact hoptional closing rfl
    | catchAll name => cases hname; exact hcatchAll rfl

/-- A name without the mark of a catch-all stays sound with one more character. -/
theorem NameSound.extend {name : List Char} (hchars : ∀ c ∈ name, isNameChar c = true)
    (hmark : ¬ ['.', '.', '.'] <+: name.reverse) (c : Char) : NameSound (extendName name c) := by
  unfold extendName
  split
  · rename_i hc
    refine ⟨by simpa [hc] using hchars, fun h => ?_⟩
    rw [List.reverse_cons, List.prefix_concat_iff] at h
    rcases h with h | h
    · rw [← List.reverse_inj, List.reverse_cons, ← h]
      rfl
    · exact absurd h hmark
  · exact ⟨hchars, fun h => absurd h hmark⟩

/-- A name without the mark of a catch-all makes a canonical token. -/
theorem Token.isCanonical_of_name {kind : Kind} (hkind : kind ≠ .literal) {name : List Char}
    (hname : name ≠ []) (hchars : ∀ c ∈ name, isNameChar c = true)
    (hmark : ¬ ['.', '.', '.'] <+: name.reverse) :
    (Token.mk kind (String.ofList name.reverse)).IsCanonical := by
  refine ⟨by simpa [← String.toList_inj] using hname, ?_⟩
  rw [if_neg hkind, String.toList_ofList]
  exact ⟨fun c hc => hchars c (List.mem_reverse.mp hc), hmark⟩

/-- A parameter is no literal. -/
theorem State.kind_ne_literal {state : State} {kind : Kind} {name : List Char}
    (h : state.parameter? = some (kind, name)) : kind ≠ .literal := by
  cases state <;> cases h <;> decide

/-- A literal that is complete is a canonical token, or no token if it has no characters. -/
theorem canonical_complete_literal {text : List Char} (h : '[' ∉ text) :
    Canonical (complete .literal text) := by
  unfold complete
  split
  · exact ⟨by simp, .nil⟩
  · rename_i htext
    refine ⟨?_, .singleton _⟩
    simp only [List.mem_singleton, forall_eq]
    refine ⟨by simpa [← String.toList_inj] using htext, ?_⟩
    simpa using h

/-- The start of a segment is sound. -/
theorem sound_start : (State.literal []).Sound := by
  simp [State.Sound]

/-- One step keeps a state sound. -/
theorem State.Sound.step {state next : State} (h : state.Sound) {c : Char} {tokens : List Token}
    (hstep : state.step c = some (tokens, next)) : next.Sound := by
  rcases State.step_cases hstep with ⟨read, -, -, -, rfl⟩ | ⟨read, rfl, hc, -, rfl⟩ |
    ⟨kind, name, -, -, -, -, rfl⟩ | ⟨kind, kind', name, hname, -, hnext⟩
  · simp [State.Sound, NameSound]
  · have hread : '[' ∉ read := h
    simpa [State.Sound] using ⟨Ne.symm hc, hread⟩
  · exact sound_start
  · obtain ⟨hchars, hmark⟩ := h.settle hname
    exact State.Sound.of_name hnext (NameSound.extend hchars hmark c)

/-- **Only canonical lists are read.** A run from a sound state has canonical tokens, and a run
    that starts within a parameter has that parameter as its first token. -/
theorem canonical_of_scan {state : State} (hsound : state.Sound) {text : List Char}
    {tokens : List Token} (h : scan state text = .ok tokens) :
    Canonical tokens ∧ (state.parameter?.isSome = true →
      ∃ first later, tokens = first :: later ∧ first.isParameter = true) := by
  induction text generalizing state tokens with
  | nil =>
    obtain ⟨read, rfl, rfl⟩ := scan_nil_eq_ok h
    have hread : '[' ∉ read := hsound
    exact ⟨canonical_complete_literal hread, fun hp => by cases hp⟩
  | cons c text ih =>
    obtain ⟨done, next, later, hstep, hscan, rfl⟩ := scan_cons_eq_ok h
    obtain ⟨hlater, hstart⟩ := ih (hsound.step hstep) hscan
    rcases State.step_cases hstep with ⟨read, rfl, -, rfl, rfl⟩ | ⟨read, rfl, -, rfl, rfl⟩ |
      ⟨kind, name, hname, hne, -, rfl, rfl⟩ | ⟨kind, kind', name, hname, rfl, hnext⟩
    · -- a literal ends, so the next token is the parameter behind the bracket
      obtain ⟨first, others, rfl, hfirst⟩ := hstart rfl
      have hread : '[' ∉ read := hsound
      have hdone := canonical_complete_literal hread
      refine ⟨⟨?_, ?_⟩, fun hp => by cases hp⟩
      · intro token ht
        rcases List.mem_append.mp ht with ht | ht
        · exact hdone.token token ht
        · exact hlater.token token ht
      · refine List.IsChain.append hdone.chain hlater.chain ?_
        intro left _ right hright
        cases hright
        exact .inr hfirst
    · -- a literal goes on
      exact ⟨hlater, fun hp => by cases hp⟩
    · -- a parameter ends; it is no literal, so that any token may follow it
      obtain ⟨hchars, hmark⟩ := hsound.settle hname
      have hkind := State.kind_ne_literal hname
      have htoken := Token.isCanonical_of_name hkind hne hchars hmark
      have hparameter : (Token.mk kind (String.ofList name.reverse)).isParameter = true :=
        Token.isParameter_iff.mpr hkind
      have hdone : complete kind name = [⟨kind, String.ofList name.reverse⟩] := by
        simp [complete, hne]
      rw [hdone, List.singleton_append]
      refine ⟨⟨?_, ?_⟩, fun _ => ⟨_, later, rfl, hparameter⟩⟩
      · intro token ht
        rcases List.mem_cons.mp ht with rfl | ht
        · exact htoken
        · exact hlater.token token ht
      · exact List.IsChain.cons hlater.chain fun right _ => .inl hparameter
    · -- a parameter goes on, and will be the first token
      exact ⟨hlater, fun _ => hstart (by rw [hnext]; rfl)⟩

/-- The tokens of a segment are canonical. -/
theorem canonical_of_tokenize {segment : String} {tokens : List Token}
    (h : tokenize segment = .ok tokens) : Canonical tokens :=
  (canonical_of_scan sound_start (tokenize_eq_ok.mp h)).1

/-- A run without tokens starts at an empty literal and reads nothing. -/
theorem eq_nil_of_scan {state : State} {text : List Char} (h : scan state text = .ok []) :
    state = .literal [] ∧ text = [] := by
  induction text generalizing state with
  | nil =>
    obtain ⟨read, rfl, hread⟩ := scan_nil_eq_ok h
    cases read with
    | nil => exact ⟨rfl, rfl⟩
    | cons d read => cases hread
  | cons c text ih =>
    -- after one step the run would go on without tokens from an empty literal, which is entered
    -- only by closing a parameter, and that gives a token
    exfalso
    obtain ⟨done, next, later, hstep, hscan, hnil⟩ := scan_cons_eq_ok h
    obtain ⟨hdone, rfl⟩ := List.append_eq_nil_iff.mp hnil.symm
    obtain ⟨hnext, -⟩ := ih hscan
    rcases State.step_cases hstep with ⟨read, -, -, -, hstate⟩ | ⟨read, -, -, -, hstate⟩ |
      ⟨kind, name, -, hne, -, htoken, -⟩ | ⟨kind, kind', name, -, -, hname⟩
    · rw [hstate] at hnext
      cases hnext
    · rw [hstate] at hnext
      cases hnext
    · rw [hdone] at htoken
      simp [complete, hne] at htoken
    · rw [hnext] at hname
      cases hname

/-- Only the empty segment has no tokens. -/
theorem tokenize_eq_nil {segment : String} (h : tokenize segment = .ok []) : segment = "" := by
  have htext := (eq_nil_of_scan (tokenize_eq_ok.mp h)).2
  exact String.toList_inj.mp htext

/-! ### The characters of values -/

/-- In a parameter, it is the name that waits to become a token. -/
theorem State.read_eq_name {state : State} {kind : Kind} {name : List Char}
    (h : state.parameter? = some (kind, name)) : state.read = name := by
  cases state <;> cases h <;> rfl

/-- Settling adds no characters. -/
theorem State.read_settle_subset (state : State) : state.settle.read ⊆ state.read := by
  unfold State.settle
  split <;> simp [State.read]

/-- A completed token has the characters that were read for it. -/
theorem mem_read_of_complete {kind : Kind} {read : List Char} {token : Token}
    (h : token ∈ complete kind read) {c : Char} (hc : c ∈ token.value.toList) : c ∈ read := by
  unfold complete at h
  split at h
  · simp at h
  · rw [List.mem_singleton] at h
    subst h
    simpa using hc

/-- Every character of a token comes from the state or from the text of the run. -/
theorem mem_of_scan {state : State} {text : List Char} {tokens : List Token}
    (h : scan state text = .ok tokens) {token : Token} (ht : token ∈ tokens) {c : Char}
    (hc : c ∈ token.value.toList) : c ∈ state.read ∨ c ∈ text := by
  induction text generalizing state tokens with
  | nil =>
    obtain ⟨read, rfl, rfl⟩ := scan_nil_eq_ok h
    exact .inl (mem_read_of_complete ht hc)
  | cons d text ih =>
    obtain ⟨done, next, later, hstep, hscan, rfl⟩ := scan_cons_eq_ok h
    have hsettled : ∀ {kind name}, state.settle.parameter? = some (kind, name) →
        name ⊆ state.read := by
      intro kind name hname
      rw [← State.read_eq_name hname]
      exact state.read_settle_subset
    rcases State.step_cases hstep with ⟨read, rfl, -, rfl, rfl⟩ | ⟨read, rfl, -, rfl, rfl⟩ |
      ⟨kind, name, hname, -, -, rfl, rfl⟩ | ⟨kind, kind', name, hname, rfl, hnext⟩
    · rcases List.mem_append.mp ht with ht | ht
      · exact .inl (mem_read_of_complete ht hc)
      · exact .inr (by simpa [State.read] using (ih hscan ht).imp_right (List.mem_cons_of_mem d))
    · rcases ih hscan ht with hread | htext
      · rcases List.mem_cons.mp hread with rfl | hread
        · exact .inr (by simp)
        · exact .inl hread
      · exact .inr (List.mem_cons_of_mem d htext)
    · rcases List.mem_append.mp ht with ht | ht
      · exact .inl (hsettled hname (mem_read_of_complete ht hc))
      · exact .inr (by simpa [State.read] using (ih hscan ht).imp_right (List.mem_cons_of_mem d))
    · rcases ih hscan ht with hread | htext
      · rw [State.read_eq_name hnext] at hread
        unfold extendName at hread
        split at hread
        · rcases List.mem_cons.mp hread with rfl | hread
          · exact .inr (by simp)
          · exact .inl (hsettled hname hread)
        · exact .inl (hsettled hname hread)
      · exact .inr (List.mem_cons_of_mem d htext)

/-- Every character of a token's value stands in the segment. -/
theorem mem_of_tokenize {segment : String} {tokens : List Token}
    (h : tokenize segment = .ok tokens) {token : Token} (ht : token ∈ tokens) {c : Char}
    (hc : c ∈ token.value.toList) : c ∈ segment.toList := by
  rcases mem_of_scan (tokenize_eq_ok.mp h) ht hc with hread | htext
  · exact absurd hread (by simp [State.read])
  · exact htext

end FileRoutes.Segment
