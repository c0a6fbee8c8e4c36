import FileRoutes.Proofs.Segment.Pattern

namespace FileRoutes

/-!
# Segments — patterns are unambiguous

A slash in literal text may be written as `%2F` or as `%2f` already, and both are kept as `%2F` in a
pattern. This is all that a pattern does not tell of its tokens.

* `Url.upperSlashes` — a text with its encoded slashes in upper case;
* `Url.units_eq_iff` — texts have the same units exactly if they are the same in that form;
* `Segment.Token.upperSlashes` — a token with its literal text in that form;
* `Segment.pattern_eq_iff` — two segments have one pattern exactly if their tokens are the same in
  that form.
-/

/-! ### Encoded slashes -/

/-- The text with every `%2f` written as `%2F`. -/
def Url.upperSlashes : List Char → List Char
  | [] => []
  | '%' :: '2' :: 'f' :: rest => '%' :: '2' :: 'F' :: Url.upperSlashes rest
  | c :: rest => c :: Url.upperSlashes rest

namespace Url

/-- No text starts otherwise in this form. -/
theorem head?_upperSlashes (text : List Char) : (upperSlashes text).head? = text.head? := by
  fun_cases upperSlashes text <;> rfl

/-- Unfolding lemma: what starts with another character than `%` keeps it. -/
theorem upperSlashes_cons {c : Char} (h : c ≠ '%') (rest : List Char) :
    upperSlashes (c :: rest) = c :: upperSlashes rest := by
  rw [upperSlashes]
  rintro later rfl -
  exact h rfl

/-- A text starts with an encoded slash in upper case in this form only if it starts with an encoded
    slash. The `%` is left out here. -/
theorem exists_of_upperSlashes_eq {text later : List Char} {d : Char}
    (h : upperSlashes text = '2' :: d :: later) : ∃ rest, text = '2' :: d :: rest := by
  cases text with
  | nil => cases h
  | cons c rest =>
    have hc : c = '2' := by
      have hhead := head?_upperSlashes (c :: rest)
      rw [h] at hhead
      exact (Option.some.inj hhead).symm
    subst hc
    rw [upperSlashes_cons (by decide), List.cons.injEq] at h
    have hhead := head?_upperSlashes rest
    rw [h.2] at hhead
    obtain ⟨more, rfl⟩ := List.head?_eq_some_iff.mp hhead.symm
    exact ⟨more, rfl⟩

/-- A text has the same units in this form. -/
theorem units_upperSlashes (text : List Char) : units (upperSlashes text) = units text := by
  fun_induction units text with
  | case1 => rfl
  | case2 rest ih =>
    rw [← ih]
    rfl
  | case3 rest ih =>
    rw [← ih]
    rfl
  | case4 c rest hupper hlower ih =>
    -- the form does not make an encoded slash of text that is none
    have hsame : upperSlashes (c :: rest) = c :: upperSlashes rest := by
      rw [upperSlashes]
      exact hlower
    rw [hsame, units, ih]
    · intro later hc hlater
      obtain ⟨more, hmore⟩ := exists_of_upperSlashes_eq hlater
      exact hupper more hc hmore
    · intro later hc hlater
      obtain ⟨more, hmore⟩ := exists_of_upperSlashes_eq hlater
      exact hlower more hc hmore

/-- The text that a unit stands for in this form. -/
def unitText : Option Char → List Char
  | none => ['%', '2', 'F']
  | some c => [c]

/-- The units of a text tell its form. -/
theorem upperSlashes_eq_flatMap (text : List Char) :
    upperSlashes text = (units text).flatMap unitText := by
  fun_induction units text with
  | case1 => rfl
  | case2 rest ih =>
    rw [List.flatMap_cons, ← ih]
    rfl
  | case3 rest ih =>
    rw [List.flatMap_cons, ← ih]
    rfl
  | case4 c rest hupper hlower ih =>
    rw [List.flatMap_cons, ← ih, upperSlashes]
    · rfl
    · exact hlower

/-- **Texts have the same units exactly if they are the same up to the case of encoded slashes.** -/
theorem units_eq_iff {left right : List Char} :
    units left = units right ↔ upperSlashes left = upperSlashes right := by
  constructor
  · intro h
    rw [upperSlashes_eq_flatMap, upperSlashes_eq_flatMap, h]
  · intro h
    rw [← units_upperSlashes left, h, units_upperSlashes]

end Url

namespace Segment

/-! ### Tokens -/

/-- The token with every `%2f` of literal text written as `%2F`; names have none. -/
def Token.upperSlashes (token : Token) : Token :=
  if token.kind = .literal then
    { token with value := String.ofList (Url.upperSlashes token.value.toList) }
  else token

/-- Tokens mean the same exactly if they are the same in this form. -/
theorem Token.alike_iff {left right : Token} :
    left.Alike right ↔ left.upperSlashes = right.upperSlashes := by
  obtain ⟨kind, value⟩ := left
  obtain ⟨kind', value'⟩ := right
  unfold Token.Alike Token.upperSlashes
  by_cases hkind : kind = .literal <;> by_cases hkind' : kind' = .literal
  · simp [hkind, hkind', Url.units_eq_iff, String.ofList_inj]
  · simp [hkind, hkind', Ne.symm hkind']
  · simp [hkind, hkind']
  · simp [hkind, hkind']

/-- Tokens that mean the same have one pattern. -/
theorem Token.Alike.pattern_eq {left right : Token} (h : left.Alike right) :
    left.pattern = right.pattern := by
  obtain ⟨kind, value⟩ := left
  obtain ⟨kind', value'⟩ := right
  obtain ⟨hkind, hvalue⟩ := h
  dsimp only at hkind hvalue
  subst hkind
  by_cases hliteral : kind = .literal
  · rw [if_pos hliteral] at hvalue
    subst hliteral
    unfold Token.pattern
    rw [Url.encodeChars_eq_flatMap, Url.encodeChars_eq_flatMap, hvalue]
  · rw [if_neg hliteral] at hvalue
    rw [hvalue]

/-- Token lists that mean the same have one pattern. -/
theorem pattern_eq_of_alike {left right : List Token} (h : List.Forall₂ Token.Alike left right) :
    pattern left = pattern right := by
  have hpieces : left.map Token.pattern = right.map Token.pattern := by
    induction h with
    | nil => rfl
    | cons halike _ ih => rw [List.map_cons, List.map_cons, halike.pattern_eq, ih]
  rw [pattern, pattern, hpieces]

/-- Token lists mean the same exactly if they are the same in this form. -/
theorem forall₂_alike_iff {left right : List Token} :
    List.Forall₂ Token.Alike left right ↔
      left.map Token.upperSlashes = right.map Token.upperSlashes := by
  have halike : Token.Alike = fun left right => left.upperSlashes = right.upperSlashes :=
    funext₂ fun _ _ => propext Token.alike_iff
  rw [halike, ← List.forall₂_eq_eq_eq, List.forall₂_map_left_iff, List.forall₂_map_right_iff]

/-- Lists of canonical token lists have the same patterns, one by one, exactly if they are the same in
    this form. -/
theorem map_pattern_eq_iff {left right : List (List Token)}
    (hleft : ∀ tokens ∈ left, Canonical tokens) (hright : ∀ tokens ∈ right, Canonical tokens) :
    left.map pattern = right.map pattern ↔
      left.map (List.map Token.upperSlashes) = right.map (List.map Token.upperSlashes) := by
  induction left generalizing right with
  | nil =>
    cases right <;> simp
  | cons tokens left ih =>
    cases right with
    | nil => simp
    | cons other right =>
      obtain ⟨htokens, hleft⟩ := List.forall_mem_cons.mp hleft
      obtain ⟨hother, hright⟩ := List.forall_mem_cons.mp hright
      have hfirst : pattern tokens = pattern other ↔
          tokens.map Token.upperSlashes = other.map Token.upperSlashes := by
        rw [← forall₂_alike_iff]
        exact ⟨alike_of_pattern_eq htokens hother, pattern_eq_of_alike⟩
      rw [List.map_cons, List.map_cons, List.map_cons, List.map_cons, List.cons.injEq,
        List.cons.injEq, hfirst, ih hleft hright]

/-- **Patterns are unambiguous.** Two segments have one pattern exactly if they have as many tokens
    which are, one by one, of the same kind and the same value, where `%2f` in literal text
    counts as `%2F`. So no literal text reads like a parameter, and no parameter takes in the
    text beside it. -/
theorem pattern_eq_iff {segment other : String} {left right : List Token}
    (hleft : tokenize segment = .ok left) (hright : tokenize other = .ok right) :
    pattern left = pattern right ↔ left.map Token.upperSlashes = right.map Token.upperSlashes := by
  have halike : List.Forall₂ Token.Alike left right ↔
      left.map Token.upperSlashes = right.map Token.upperSlashes := by
    rw [← List.forall₂_eq_eq_eq, List.forall₂_map_left_iff, List.forall₂_map_right_iff]
    constructor
    · exact List.Forall₂.imp fun _ _ => Token.alike_iff.mp
    · exact List.Forall₂.imp fun _ _ => Token.alike_iff.mpr
  rw [← halike]
  exact ⟨alike_of_pattern_eq (canonical_of_tokenize hleft) (canonical_of_tokenize hright),
    pattern_eq_of_alike⟩

/-- Two spellings of a literal before a parameter have one pattern, and the literal text that spells
    the pattern of a parameter has another one. -/
theorem pattern_of_spellings :
    ∃ lower upper spelled, tokenize "a%2fb:[id]" = .ok lower ∧ tokenize "a%2Fb:[id]" = .ok upper ∧
      tokenize "a%2Fb::id()" = .ok spelled ∧
      pattern lower = pattern upper ∧ pattern lower ≠ pattern spelled := by
  have hlower : tokenize "a%2fb:[id]" = .ok [⟨.literal, "a%2fb:"⟩, ⟨.required, "id"⟩] := by
    decide +kernel
  have hupper : tokenize "a%2Fb:[id]" = .ok [⟨.literal, "a%2Fb:"⟩, ⟨.required, "id"⟩] := by
    decide +kernel
  have hspelled : tokenize "a%2Fb::id()" = .ok [⟨.literal, "a%2Fb::id()"⟩] := by decide +kernel
  refine ⟨_, _, _, hlower, hupper, hspelled, ?_, ?_⟩
  · exact (pattern_eq_iff hlower hupper).mpr (by decide +kernel)
  · intro heq
    have hsame := (pattern_eq_iff hlower hspelled).mp heq
    exact absurd hsame (by decide +kernel)

end Segment

end FileRoutes
