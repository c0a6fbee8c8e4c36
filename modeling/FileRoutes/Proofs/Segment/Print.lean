import FileRoutes.Proofs.Segment.Brackets

namespace FileRoutes.Segment

/-!
# Segments — writing tokens down

* `print` — the plain way to write tokens as a segment;
* `StandsFor`, `Token.IsCanonical.standsFor` — the brackets of a printed parameter stand for that
  parameter;
* `scan_print` — canonical tokens are read back from the segment that they are printed as;
* `tokenize_print_iff` — canonical lists are the lists that are read back, and the lists that are
  read at all.
-/

/-! ### Printed tokens -/

/-- A token as it is written in a segment. -/
def Token.print (token : Token) : String :=
  match token.kind with
  | .literal => token.value
  | .required => "[" ++ token.value ++ "]"
  | .optional => "[[" ++ token.value ++ "]]"
  | .catchAll => "[..." ++ token.value ++ "]"

/-- Tokens as they are written in a segment. -/
def print (tokens : List Token) : String := String.join (tokens.map Token.print)

/-- Unfolding lemma: the characters of printed tokens. -/
@[simp] theorem toList_print (tokens : List Token) :
    (print tokens).toList = tokens.flatMap (·.print.toList) := by
  simp [print, List.flatMap_map]

/-- What is written between the outer brackets of a parameter. -/
def Token.inside (token : Token) : List Char :=
  match token.kind with
  | .literal | .required => token.value.toList
  | .optional => ('[' :: token.value.toList) ++ [']']
  | .catchAll => mark ++ token.value.toList

/-- Unfolding lemma: a literal is written as it is. -/
theorem Token.toList_print_literal {token : Token} (h : token.kind = .literal) :
    token.print.toList = token.value.toList := by
  simp [Token.print, h]

/-- Unfolding lemma: a parameter is written between brackets. -/
theorem Token.toList_print_parameter {token : Token} (h : token.kind ≠ .literal) :
    token.print.toList = '[' :: token.inside ++ [']'] := by
  obtain ⟨kind, value⟩ := token
  cases kind with
  | literal => exact absurd rfl h
  | required => simp [Token.print, Token.inside]
  | optional => simp [Token.print, Token.inside]
  | catchAll => simp [Token.print, Token.inside]

/-! ### Reading them back -/

/-- Whether brackets around these characters stand for the parameter of a kind and a name. -/
structure StandsFor (inside : List Char) (kind : Kind) (name : List Char) : Prop where
  staysOpen : StaysOpen inside
  closes : Closes inside
  kind_eq : parameterKind inside = kind
  name_eq : parameterName inside = name

/-- Without a closing bracket, a parameter stays open. -/
theorem staysOpen_of_not_mem {inside : List Char} (h : ']' ∉ inside) : StaysOpen inside :=
  fun _ hfront _ => h (hfront.subset (by simp))

/-- Unfolding lemma: an opening bracket adds nothing to a name. -/
theorem nameChars_opening (inside : List Char) : nameChars ('[' :: inside) = nameChars inside :=
  List.filter_cons_of_neg (by decide)

/-- Unfolding lemma: a closing bracket adds nothing to a name. -/
theorem nameChars_closing (inside : List Char) : nameChars (inside ++ [']']) = nameChars inside := by
  rw [nameChars_append, show nameChars [']'] = [] by decide, List.append_nil]

/-- A bracket is no part of a name. -/
theorem bracket_not_mem {name : List Char} (h : nameChars name = name) {c : Char}
    (hc : c = '[' ∨ c = ']') : c ∉ name := by
  intro hmem
  have hchar := (List.filter_eq_self.mp h) c hmem
  rcases hc with rfl | rfl
  · exact absurd hchar (by decide)
  · exact absurd hchar (by decide)

section

variable {name : List Char} (hname : nameChars name = name) (hmark : ¬ mark <+: name)

include hname hmark

/-- A name alone stands for a required parameter. -/
theorem standsFor_required : StandsFor name .required name where
  staysOpen := staysOpen_of_not_mem (bracket_not_mem hname (.inr rfl))
  closes := .inr (.inl (bracket_not_mem hname (.inl rfl)))
  kind_eq := by
    rw [parameterKind, hname, if_neg hmark, if_neg (bracket_not_mem hname (.inl rfl))]
  name_eq := by rw [parameterName, hname, dropMarks_of_not_mark hmark]

/-- A name between brackets of its own stands for an optional parameter. -/
theorem standsFor_optional : StandsFor (('[' :: name) ++ [']']) .optional name where
  staysOpen := by
    have hclosing : ']' ∉ '[' :: name := by
      simpa using bracket_not_mem hname (.inr rfl)
    intro front hfront hcloses
    -- The only closing bracket is the last one, and none comes before it.
    rcases List.prefix_concat_iff.mp hfront with heq | hearlier
    · obtain rfl : front = '[' :: name := List.append_cancel_right heq
      rcases hcloses with hmarked | hopening | hlast
      · rw [nameChars_opening, hname] at hmarked
        exact hmark hmarked
      · exact hopening (by simp)
      · exact hclosing (List.mem_of_getLast? hlast)
    · exact hclosing (hearlier.subset (by simp))
  closes := .inr (.inr List.getLast?_concat)
  kind_eq := by
    rw [parameterKind, nameChars_closing, nameChars_opening, hname, if_neg hmark,
      if_pos (by simp)]
  name_eq := by
    rw [parameterName, nameChars_closing, nameChars_opening, hname, dropMarks_of_not_mark hmark]

/-- A name behind a mark stands for a catch-all. -/
theorem standsFor_catchAll : StandsFor (mark ++ name) .catchAll name where
  staysOpen := staysOpen_of_not_mem (by simpa using bracket_not_mem hname (.inr rfl))
  closes := .inl (by rw [nameChars_append]; exact List.prefix_append _ _)
  kind_eq := if_pos (by rw [nameChars_append]; exact List.prefix_append _ _)
  name_eq := by
    rw [parameterName, nameChars_append, hname]
    exact dropMarks_of_not_mark hmark

end

/-- The brackets of a printed parameter stand for that parameter. -/
theorem Token.IsCanonical.standsFor {token : Token} (h : token.IsCanonical)
    (hkind : token.kind ≠ .literal) :
    StandsFor token.inside token.kind token.value.toList := by
  obtain ⟨-, hvalue⟩ := h
  rw [if_neg hkind] at hvalue
  obtain ⟨hchars, hmark⟩ := hvalue
  have hname : nameChars token.value.toList = token.value.toList :=
    List.filter_eq_self.mpr fun c hc => decide_eq_true ((isNameChar_iff c).mp (hchars c hc))
  obtain ⟨kind, value⟩ := token
  cases kind with
  | literal => exact absurd rfl hkind
  | required => exact standsFor_required hname hmark
  | optional => exact standsFor_optional hname hmark
  | catchAll => exact standsFor_catchAll hname hmark

/-- What is printed behind a literal is nothing, or starts with a bracket. -/
theorem head?_print_after_literal {token : Token} {later : List Token}
    (h : Canonical (token :: later)) (hkind : token.kind = .literal) :
    ∀ c ∈ (later.flatMap (·.print.toList)).head?, c = '[' := by
  intro c hc
  cases later with
  | nil => cases hc
  | cons next later =>
    rw [List.flatMap_cons, Token.toList_print_parameter (h.next_ne_literal hkind)] at hc
    cases hc
    rfl

/-- **Canonical tokens are read back** from the segment that they are printed as. -/
theorem scan_print {tokens : List Token} (h : Canonical tokens) :
    scan (.literal []) (tokens.flatMap (·.print.toList)) = .ok tokens := by
  induction tokens with
  | nil => rfl
  | cons token later ih =>
    have hcanonical := h.token token List.mem_cons_self
    rw [List.flatMap_cons]
    by_cases hkind : token.kind = .literal
    · have hbracket : '[' ∉ token.value.toList := by
        have hvalue := hcanonical.2
        rwa [if_pos hkind] at hvalue
      rw [Token.toList_print_literal hkind,
        scan_literal hcanonical.toList_ne_nil hbracket (head?_print_after_literal h hkind),
        ih h.tail, ← hkind, String.ofList_toList]
      rfl
    · obtain ⟨hopen, hcloses, hkind_eq, hname_eq⟩ := hcanonical.standsFor hkind
      rw [Token.toList_print_parameter hkind, List.append_assoc, List.singleton_append,
        scan_closed hopen hcloses, hname_eq, if_neg hcanonical.toList_ne_nil, ih h.tail, hkind_eq,
        String.ofList_toList]
      rfl

/-- **Canonical lists are what is read.** A list of tokens is canonical exactly if it is read back
    from the segment that it is printed as, and exactly if it is read from any segment. -/
theorem tokenize_print_iff (tokens : List Token) :
    (tokenize (print tokens) = .ok tokens ↔ Canonical tokens) ∧
      ((∃ segment, tokenize segment = .ok tokens) ↔ Canonical tokens) := by
  have hback : Canonical tokens → tokenize (print tokens) = .ok tokens := by
    intro h
    rw [tokenize_eq_ok, toList_print]
    exact scan_print h
  constructor
  · exact ⟨canonical_of_tokenize, hback⟩
  · constructor
    · rintro ⟨segment, hsegment⟩
      exact canonical_of_tokenize hsegment
    · intro h
      exact ⟨print tokens, hback h⟩

end FileRoutes.Segment
