import FileRoutes.Proofs.Segment.Brackets
import Mathlib.Data.List.TakeWhile

namespace FileRoutes.Segment

/-!
# Segments — reading by search

The reader passes over a segment once. Another way to find its tokens is to search for the bracket
that ends each parameter, and to look at all that stands before it at once.

* `closing?` — the place of the first bracket that ends a parameter;
* `parseChars`, `parse` — the tokens of a segment, parameter by parameter;
* `closing?_eq_some`, `closing?_eq_none` — the parts of a text before and behind that bracket;
* `tokenize_eq_parse` — both ways give the same tokens, and the same faults.
-/

/-- Whether the parameter that is opened right before the text ends at this place of it. -/
def EndsAt (text : List Char) (place : Nat) : Prop :=
  text[place]? = some ']' ∧ Closes (text.take place)

instance (text : List Char) : DecidablePred (EndsAt text) := fun place =>
  inferInstanceAs (Decidable (text[place]? = some ']' ∧ Closes (text.take place)))

/-- The first place at which the parameter ends that is opened right before the text. -/
def closing? (text : List Char) : Option Nat :=
  (List.range text.length).find? (EndsAt text ·)

/-- The tokens of a text, or the reason why there are none with the name read up to there. -/
def parseChars : List Char → Except (Reason × List Char) (List Token)
  | [] => .ok []
  | '[' :: text =>
    match closing? text with
    | none => .error (.unterminated, openName text)
    | some place =>
      let inside := text.take place
      if parameterName inside = [] then .error (.emptyName, [])
      else (parseChars (text.drop (place + 1))).map
        (⟨parameterKind inside, String.ofList (parameterName inside)⟩ :: ·)
  | c :: text =>
    -- A literal goes on up to the next opening bracket.
    (parseChars (text.dropWhile (· != '['))).map
      (⟨.literal, String.ofList (c :: text.takeWhile (· != '['))⟩ :: ·)
termination_by text => text.length
decreasing_by
  · simp only [List.length_drop, List.length_cons]
    omega
  · have := (List.dropWhile_suffix (p := (· != '[')) (l := text)).length_le
    simp only [List.length_cons]
    omega

/-- The tokens of a segment, found by search. -/
def parse (segment : String) : Except Malformed (List Token) :=
  (parseChars segment.toList).mapError fun (reason, name) =>
    ⟨segment, reason, String.ofList name⟩

/-! ### The bracket that is searched for -/

/-- A closing bracket that ends the parameter behind some characters stands where it ends. -/
theorem endsAt_of_closes {front text : List Char} (hfront : front ++ [']'] <+: text)
    (hcloses : Closes front) : EndsAt text front.length := by
  obtain ⟨rest, rfl⟩ := hfront
  simpa [EndsAt] using hcloses

/-- Where no place is found, nothing ends the parameter. -/
theorem closing?_eq_none {text : List Char} (h : closing? text = none) : StaysOpen text := by
  intro front hfront hcloses
  have hlength : front.length < text.length := by
    simpa [Nat.succ_le_iff] using hfront.length_le
  have hnone := List.find?_eq_none.mp h front.length (List.mem_range.mpr hlength)
  exact hnone (decide_eq_true (endsAt_of_closes hfront hcloses))

/-- The place that is found splits the text at the first bracket that ends the parameter. -/
theorem closing?_eq_some {text : List Char} {place : Nat} (h : closing? text = some place) :
    StaysOpen (text.take place) ∧ Closes (text.take place) ∧
      text = text.take place ++ ']' :: text.drop (place + 1) := by
  obtain ⟨hends, -, hfirst⟩ := List.find?_range_eq_some.mp h
  obtain ⟨hbracket, hcloses⟩ := of_decide_eq_true hends
  refine ⟨fun front hfront hearlier => ?_, hcloses, ?_⟩
  · have hlength : front.length < place := by
      have hle := hfront.length_le
      simp only [List.length_append, List.length_singleton, List.length_take] at hle
      omega
    have hnot := hfirst front.length hlength
    have hends := endsAt_of_closes (hfront.trans (List.take_prefix place text)) hearlier
    simp [hends] at hnot
  · obtain ⟨hlt, hget⟩ := List.getElem?_eq_some_iff.mp hbracket
    rw [← hget, List.getElem_cons_drop, List.take_append_drop]

/-! ### Both ways of reading -/

/-- The reader takes a parameter up to the bracket that is found. -/
theorem scan_of_closing {text : List Char} {place : Nat} (h : closing? text = some place) :
    scan (.literal []) ('[' :: text)
      = if parameterName (text.take place) = [] then .error (.emptyName, [])
        else (scan (.literal []) (text.drop (place + 1))).map
          (⟨parameterKind (text.take place), String.ofList (parameterName (text.take place))⟩
            :: ·) := by
  obtain ⟨hopen, hcloses, htext⟩ := closing?_eq_some h
  rw [← scan_closed hopen hcloses, List.cons_append, ← htext]

/-- The reader takes a literal up to the next opening bracket. -/
theorem scan_of_ne {c : Char} (hc : c ≠ '[') (text : List Char) :
    scan (.literal []) (c :: text)
      = (scan (.literal []) (text.dropWhile (· != '['))).map
        (⟨.literal, String.ofList (c :: text.takeWhile (· != '['))⟩ :: ·) := by
  have hliteral : '[' ∉ c :: text.takeWhile (· != '[') := by
    intro hbracket
    rcases List.mem_cons.mp hbracket with heq | hbracket
    · exact hc heq.symm
    · simpa using List.mem_takeWhile_imp hbracket
  have hrest : ∀ d ∈ (text.dropWhile (· != '[')).head?, d = '[' := by
    intro d hd
    have hstop := List.head?_dropWhile_not (· != '[') text
    rw [hd] at hstop
    simpa using hstop
  rw [← scan_literal (List.cons_ne_nil _ _) hliteral hrest, List.cons_append,
    List.takeWhile_append_dropWhile]

/-- A run of the reader has the tokens that are found by search. -/
theorem scan_eq_parseChars (text : List Char) : scan (.literal []) text = parseChars text := by
  fun_induction parseChars text with
  | case1 => rfl
  | case2 text hnone => exact scan_unclosed (closing?_eq_none hnone)
  | case3 text place hplace inside hname => rw [scan_of_closing hplace, if_pos hname]
  | case4 text place hplace inside hname ih => rw [scan_of_closing hplace, if_neg hname, ih]
  | case5 c text hc ih => rw [scan_of_ne hc, ih]

/-- **Reading is searching.** The reader that passes over a segment once gives the tokens that are
    found by search, parameter by parameter, and the same fault where there are none. -/
theorem tokenize_eq_parse (segment : String) : tokenize segment = parse segment := by
  rw [tokenize, parse, scan_eq_parseChars]

/-- The first closing bracket is passed over, and the mark of a catch-all goes on behind it. -/
example : tokenize "[[..].x]" = .ok [⟨.catchAll, "x"⟩] := by decide +kernel

end FileRoutes.Segment
