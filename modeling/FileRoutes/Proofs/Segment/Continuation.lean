import FileRoutes.Proofs.Segment.Brackets

namespace FileRoutes.Segment

/-!
# Segments — a segment that goes on

The reader of a segment that goes on is, at the joint, where the reader of its first part ended. So
what the first part completes or spoils is settled there, and the rest is read from the state that
is left.

* `State.run` — the tokens that some characters complete, and the state behind them;
* `scan_append` — two texts in a row are read one after the other;
* `scan_eq_ok_iff`, `scan_eq_unterminated_iff`, `scan_eq_emptyName_iff` — where the reader of a text
  ended, by the result;
* `tokenize_append` — a finished part is read alike before every rest, unless the rest goes on
  with its last literal;
* `State.Sound.run` — a name that is being read has only name characters;
* `fault_append` — an empty name stays a fault, and an open parameter can be closed.
-/

/-! ### Two texts in a row -/

/-- The tokens that a run over some characters completes and the state behind them, or nothing if
    the run closes a parameter without a name. -/
def State.run : State → List Char → Option (List Token × State)
  | state, [] => some ([], state)
  | state, c :: rest =>
    match state.step c with
    | none => none
    | some (tokens, next) => (next.run rest).map fun (later, last) => (tokens ++ later, last)

/-- **Two texts in a row are read one after the other**, the second from the state that the first
    leaves. -/
theorem scan_append (state : State) (front rest : List Char) :
    scan state (front ++ rest)
      = match state.run front with
        | none => .error (.emptyName, [])
        | some (tokens, next) => (scan next rest).map (tokens ++ ·) := by
  induction front generalizing state with
  | nil =>
    rw [List.nil_append, State.run]
    dsimp only
    cases scan state rest <;> rfl
  | cons c front ih =>
    rw [List.cons_append, scan, State.run]
    cases state.step c with
    | none => rfl
    | some result =>
      obtain ⟨tokens, next⟩ := result
      dsimp only
      rw [ih]
      cases next.run front with
      | none => rfl
      | some run =>
        obtain ⟨later, last⟩ := run
        dsimp only [Option.map_some]
        cases scan last rest with
        | error fault => rfl
        | ok others => simp only [Except.map, List.append_assoc]

/-- The result of a whole text, by the state behind it. -/
theorem scan_eq_run (state : State) (text : List Char) :
    scan state text
      = match state.run text with
        | none => .error (.emptyName, [])
        | some (done, last) =>
          match last.finish with
          | .error name => .error (.unterminated, name)
          | .ok tokens => .ok (done ++ tokens) := by
  have happend := scan_append state text []
  rw [List.append_nil] at happend
  rw [happend]
  cases state.run text with
  | none => rfl
  | some result =>
    obtain ⟨done, last⟩ := result
    dsimp only
    rw [scan]
    cases last.finish <;> rfl

/-- A text has tokens exactly if the reader ends in a literal, which is the last one of them. -/
theorem scan_eq_ok_iff {state : State} {text : List Char} {tokens : List Token} :
    scan state text = .ok tokens ↔
      ∃ done read, state.run text = some (done, .literal read) ∧
        tokens = done ++ complete .literal read := by
  rw [scan_eq_run]
  constructor
  · intro h
    split at h
    · cases h
    · rename_i done last hrun
      cases last with
      | literal read =>
        cases h
        exact ⟨done, read, hrun, rfl⟩
      | required name => cases h
      | optional name closing => cases h
      | catchAll name => cases h
  · rintro ⟨done, read, hrun, rfl⟩
    rw [hrun]
    rfl

/-- A text ends within a parameter exactly if the reader does. -/
theorem scan_eq_unterminated_iff {state : State} {text name : List Char} :
    scan state text = .error (.unterminated, name) ↔
      ∃ done last, state.run text = some (done, last) ∧ last.finish = .error name := by
  rw [scan_eq_run]
  cases state.run text with
  | none => simp
  | some result =>
    obtain ⟨done, last⟩ := result
    cases hlast : last.finish with
    | error read => simp [hlast]
    | ok tokens => simp [hlast]

/-- A text closes a parameter without a name exactly if the reader stops there. -/
theorem scan_eq_emptyName_iff {state : State} {text name : List Char} :
    scan state text = .error (.emptyName, name) ↔ state.run text = none ∧ name = [] := by
  rw [scan_eq_run]
  cases state.run text with
  | none => simp [eq_comm]
  | some result =>
    obtain ⟨done, last⟩ := result
    cases hlast : last.finish with
    | error read => simp [hlast]
    | ok tokens => simp [hlast]

/-! ### Behind a finished part -/

/-- A literal that ends a text is the last token. -/
theorem getLast?_complete_literal {done : List Token} {read : List Char} (h : read ≠ []) :
    (done ++ complete .literal read).getLast?
      = some ⟨.literal, String.ofList read.reverse⟩ := by
  simp [complete, h]

/-- Behind tokens that are finished, the rest is read like a segment of its own: there are none, the
    last one is a parameter, or the rest starts with the bracket that ends a literal. -/
theorem scan_append_of_ok {left right : List Char} {tokens : List Token}
    (hleft : scan (.literal []) left = .ok tokens)
    (hjoint : tokens = [] ∨ (∃ last, tokens.getLast? = some last ∧ last.isParameter = true) ∨
      right.head? = some '[') :
    scan (.literal []) (left ++ right) = (scan (.literal []) right).map (tokens ++ ·) := by
  obtain ⟨done, read, hrun, rfl⟩ := scan_eq_ok_iff.mp hleft
  -- the reader stands in a literal, which is empty or completed by the bracket
  have hliteral : scan (.literal read) right
      = (scan (.literal []) right).map (complete .literal read ++ ·) := by
    by_cases hread : read = []
    · subst hread
      cases scan (.literal []) right <;> rfl
    · apply scan_literal_end
      intro c hc
      rcases hjoint with hnone | ⟨last, hlast, hparameter⟩ | hbracket
      · rw [List.append_eq_nil_iff] at hnone
        simp [complete, hread] at hnone
      · rw [getLast?_complete_literal hread, Option.some.injEq] at hlast
        rw [← hlast] at hparameter
        cases hparameter
      · rw [hbracket] at hc
        exact (Option.some.inj hc).symm
  rw [scan_append, hrun]
  dsimp only
  rw [hliteral]
  cases scan (.literal []) right with
  | error fault => rfl
  | ok later => simp only [Except.map, List.append_assoc]

/-- **Reading is local.** If a text has tokens, a text behind it adds its own tokens to them, or has
    its own fault, unless both texts meet within a literal. -/
theorem tokenize_append {left right : String} {tokens : List Token}
    (hleft : tokenize left = .ok tokens)
    (hjoint : tokens = [] ∨ (∃ last, tokens.getLast? = some last ∧ last.isParameter = true) ∨
      right.toList.head? = some '[') :
    (∀ later, tokenize right = .ok later → tokenize (left ++ right) = .ok (tokens ++ later)) ∧
      ∀ fault, tokenize right = .error fault →
        tokenize (left ++ right) = .error { fault with segment := left ++ right } := by
  have hscan := scan_append_of_ok (tokenize_eq_ok.mp hleft) hjoint
  rw [← String.toList_append] at hscan
  unfold tokenize
  rw [hscan]
  cases scan (.literal []) right.toList with
  | error result =>
    refine ⟨fun later h => (by cases h), fun fault h => ?_⟩
    cases h
    rfl
  | ok others =>
    refine ⟨fun later h => ?_, fun fault h => (by cases h)⟩
    cases h
    rfl

/-- The bracket that ends a parameter does not help to close the next one. -/
theorem open_parameter_behind_closed :
    tokenize "post-[[id]]" = .ok [⟨.literal, "post-"⟩, ⟨.optional, "id"⟩] ∧
      tokenize "[[to]" = .error ⟨"[[to]", .unterminated, "to"⟩ ∧
      tokenize ("post-[[id]]" ++ "[[to]")
        = .error ⟨"post-[[id]]" ++ "[[to]", .unterminated, "to"⟩ := by
  have hleft : tokenize "post-[[id]]" = .ok [⟨.literal, "post-"⟩, ⟨.optional, "id"⟩] := by
    decide +kernel
  have hright : tokenize "[[to]" = .error ⟨"[[to]", .unterminated, "to"⟩ := by decide +kernel
  exact ⟨hleft, hright, (tokenize_append hleft (.inr (.inl ⟨_, rfl, rfl⟩))).2 _ hright⟩

/-! ### Behind a fault -/

/-- **A run keeps a state sound**: a literal has no opening bracket, and a name only name
    characters. -/
theorem State.Sound.run {state last : State} (h : state.Sound) {text : List Char}
    {tokens : List Token} (hrun : state.run text = some (tokens, last)) : last.Sound := by
  induction text generalizing state tokens with
  | nil =>
    cases hrun
    exact h
  | cons c text ih =>
    rw [State.run] at hrun
    split at hrun
    · cases hrun
    · rename_i done next hstep
      obtain ⟨⟨later, stop⟩, hnext, heq⟩ := Option.map_eq_some_iff.mp hrun
      cases heq
      exact ih (h.step hstep) hnext

/-- The name that a sound state leaves open has only name characters. -/
theorem State.Sound.finish {state : State} (h : state.Sound) {name : List Char}
    (hname : state.finish = .error name) : ∀ c ∈ name, NameChar c := by
  have hchars : ∀ {kind read}, state.parameter? = some (kind, read) →
      ∀ c ∈ read.reverse, NameChar c :=
    fun hread c hc => (isNameChar_iff c).mp ((h.name hread).1 c (List.mem_reverse.mp hc))
  cases state with
  | literal text => cases hname
  | required read => cases hname; exact hchars rfl
  | optional read closing => cases hname; exact hchars rfl
  | catchAll read => cases hname; exact hchars rfl

/-- A letter becomes the last one of the name in an open parameter, of whichever kind. -/
theorem State.step_letter {state : State} {name : List Char} (h : state.finish = .error name) :
    ∃ kind before, state.step 'x' = some ([], .parameter kind ('x' :: before) false) := by
  have hletter : ∀ read, extendName read 'x' = 'x' :: read := fun _ => rfl
  unfold State.step
  cases hsettle : state.settle with
  | literal text =>
    rw [State.eq_literal_of_settle hsettle] at h
    cases h
  | required before => exact ⟨.required, before, by simp [hletter, State.parameter]⟩
  | optional before closing => exact ⟨.optional, before, by simp [hletter, State.parameter]⟩
  | catchAll before => exact ⟨.catchAll, before, by simp [hletter, State.parameter]⟩

/-- Two closing brackets end a parameter that has a name. Where one is enough, the other one is
    literal text. -/
theorem scan_closing_brackets (kind : Kind) {name : List Char} (hname : name ≠ [])
    (hmark : name ≠ mark) :
    ∃ tokens, scan (.parameter kind name false) [']', ']'] = .ok tokens := by
  have hclose : ∀ kind, close kind name = some (complete kind name, .literal []) := by
    intro kind
    simp [close, hname]
  have hsettle : ∀ closing, (State.parameter kind name closing).settle
      = .parameter kind name closing := by
    intro closing
    rw [State.settle_parameter, if_neg hmark]
  by_cases hkind : kind = .optional
  · subst hkind
    have hfirst : (State.parameter .optional name false).step ']'
        = some ([], .parameter .optional name true) := by
      rw [State.step, hsettle]
      rfl
    have hsecond : (State.parameter .optional name true).step ']'
        = some (complete .optional name, .literal []) := by
      rw [State.step, hsettle, ← hclose]
      rfl
    rw [scan_of_step hfirst, scan, hsecond]
    exact ⟨_, rfl⟩
  · obtain ⟨done, hstep⟩ : ∃ done, (State.parameter kind name false).step ']'
        = some (done, .literal []) := by
      unfold State.step
      rw [hsettle]
      cases kind with
      | optional => exact absurd rfl hkind
      | literal | required | catchAll => simp [State.parameter, hclose]
    rw [scan, hstep]
    exact ⟨_, rfl⟩

/-- An open parameter can be closed. -/
theorem State.exists_scan_closing {state : State} {name : List Char}
    (h : state.finish = .error name) : ∃ tokens, scan state ['x', ']', ']'] = .ok tokens := by
  obtain ⟨kind, before, hstep⟩ := state.step_letter h
  rw [scan_of_step hstep]
  exact scan_closing_brackets kind (List.cons_ne_nil _ _) (by simp)

/-- **What a fault means.** A segment with an empty parameter name keeps that fault whatever
    follows. A segment that ends within a parameter has read name characters there, and a letter
    and two brackets behind it make it a segment with tokens. -/
theorem fault_append {segment : String} {fault : Malformed}
    (h : tokenize segment = .error fault) :
    (fault.reason = .emptyName → ∀ more, tokenize (segment ++ more)
        = .error ⟨segment ++ more, .emptyName, ""⟩) ∧
      (fault.reason = .unterminated → (∀ c ∈ fault.buffer.toList, NameChar c) ∧
        ∃ tokens, tokenize (segment ++ "x]]") = .ok tokens) := by
  unfold tokenize at h
  cases hscan : scan (.literal []) segment.toList with
  | ok tokens => rw [hscan] at h; cases h
  | error result =>
    obtain ⟨reason, name⟩ := result
    rw [hscan] at h
    cases h
    constructor
    · rintro (rfl : reason = .emptyName)
      intro more
      obtain ⟨hrun, -⟩ := scan_eq_emptyName_iff.mp hscan
      rw [tokenize, String.toList_append, scan_append, hrun]
      rfl
    · rintro (rfl : reason = .unterminated)
      obtain ⟨done, last, hrun, hlast⟩ := scan_eq_unterminated_iff.mp hscan
      refine ⟨?_, ?_⟩
      · intro c hc
        rw [String.toList_ofList] at hc
        exact (sound_start.run hrun).finish hlast c hc
      · obtain ⟨tokens, htokens⟩ := last.exists_scan_closing hlast
        refine ⟨done ++ tokens, tokenize_eq_ok.mpr ?_⟩
        have hclosing : "x]]".toList = ['x', ']', ']'] := rfl
        rw [String.toList_append, hclosing, scan_append, hrun]
        dsimp only
        rw [htokens]
        rfl

/-- A mark without a name can still get one, and brackets around a dash cannot. -/
theorem mark_and_dash_faults :
    tokenize "to-[[..." = .error ⟨"to-[[...", .unterminated, "..."⟩ ∧
      (∃ tokens, tokenize ("to-[[..." ++ "x]]") = .ok tokens) ∧
      tokenize "[-]" = .error ⟨"[-]", .emptyName, ""⟩ ∧
      ∀ more, tokenize ("[-]" ++ more) = .error ⟨"[-]" ++ more, .emptyName, ""⟩ := by
  have hopen : tokenize "to-[[..." = .error ⟨"to-[[...", .unterminated, "..."⟩ := by
    decide +kernel
  have hempty : tokenize "[-]" = .error ⟨"[-]", .emptyName, ""⟩ := by decide +kernel
  exact ⟨hopen, ((fault_append hopen).2 rfl).2, hempty, (fault_append hempty).1 rfl⟩

end FileRoutes.Segment
