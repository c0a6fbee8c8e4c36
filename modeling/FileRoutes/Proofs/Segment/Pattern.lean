import FileRoutes.Proofs.Segment.Canonical
import FileRoutes.Proofs.Url.Encoding
import FileRoutes.Segment.Pattern
import FileRoutes.Url
import Mathlib.Data.List.Forall2

namespace FileRoutes.Segment

/-!
# Segments — what a pattern still tells

* `Token.Alike` — tokens of one kind with one value, up to the case of encoded slashes in
  literals;
* `alike_of_pattern_eq` — canonical token lists of one pattern are alike token by token;
* `eq_of_pattern_eq_of_name_eq` — with one name as well they are the same;
* `Proper` — what is known of the tokens of a path's component, and the shape of its name and of
  its pattern.

A pattern is read from the left: a colon without a backslash starts a parameter, whose name ends
at the first character that no name has, and a literal goes on up to the next such colon.
-/

/-! ### Reading a pattern from the left -/

/-- What follows the name of a parameter in a pattern. -/
def Kind.ending : Kind → List Char
  | .literal => []
  | .required => ['(', ')']
  | .optional => ['?']
  | .catchAll => ['(', '.', '*', ')', '*']

/-- Unfolding lemma: a parameter is a colon, its name and the ending of its kind. -/
theorem Token.toList_pattern_parameter {token : Token} (h : token.kind ≠ .literal) :
    token.pattern.toList = ':' :: (token.value.toList ++ token.kind.ending) := by
  obtain ⟨kind, value⟩ := token
  cases kind with
  | literal => exact absurd rfl h
  | required => simp [Token.pattern, Kind.ending]
  | optional => simp [Token.pattern, Kind.ending]
  | catchAll => simp [Token.pattern, Kind.ending]

/-- Unfolding lemma: a literal is its encoded text with escaped colons. -/
theorem Token.toList_pattern_literal {token : Token} (h : token.kind = .literal) :
    token.pattern.toList = escapeColons (Url.encodeChars token.value.toList) := by
  simp [Token.pattern, h]

/-- A run of characters of a class is known if the texts go on with other characters. -/
private theorem run_append_inj {p : Char → Bool} {a b left right : List Char}
    (ha : ∀ c ∈ a, p c = true) (hb : ∀ c ∈ b, p c = true)
    (hleft : ∀ c ∈ left.head?, p c = false) (hright : ∀ c ∈ right.head?, p c = false)
    (h : a ++ left = b ++ right) : a = b ∧ left = right := by
  induction a generalizing b with
  | nil =>
    cases b with
    | nil => exact ⟨rfl, h⟩
    | cons d b =>
      have hd := hleft d (by rw [← List.nil_append left, h]; rfl)
      rw [hb d (by simp)] at hd
      cases hd
  | cons c a ih =>
    cases b with
    | nil =>
      have hc := hright c (by rw [← List.nil_append right, ← h]; rfl)
      rw [ha c (by simp)] at hc
      cases hc
    | cons d b =>
      rw [List.cons_append, List.cons_append, List.cons.injEq] at h
      obtain ⟨hrun, hrest⟩ := ih (fun c hc => ha c (List.mem_cons_of_mem _ hc))
        (fun c hc => hb c (List.mem_cons_of_mem _ hc)) h.2
      exact ⟨by rw [h.1, hrun], hrest⟩

/-- The kind of a parameter is known by its ending. -/
private theorem ending_append_inj {j k : Kind} (hj : j ≠ .literal) (hk : k ≠ .literal)
    {left right : List Char} (h : j.ending ++ left = k.ending ++ right) : j = k ∧ left = right := by
  cases j <;> cases k <;> simp_all [Kind.ending]

/-- The ending of a parameter starts with a character that no name has. -/
private theorem head?_ending {k : Kind} (hk : k ≠ .literal) (left : List Char) :
    ∀ c ∈ (k.ending ++ left).head?, isNameChar c = false := by
  intro c hc
  cases k with
  | literal => exact absurd rfl hk
  | required => cases hc; decide
  | optional => cases hc; decide
  | catchAll => cases hc; decide

/-- Unfolding lemma: colons are escaped character by character. -/
theorem escapeColons_cons (c : Char) (text : List Char) :
    escapeColons (c :: text) = (if c = ':' then ['\\', ':'] else [c]) ++ escapeColons text :=
  List.flatMap_cons

/-- Escaping colons adds only backslashes. -/
theorem mem_or_eq_of_mem_escapeColons {c : Char} {text : List Char} (h : c ∈ escapeColons text) :
    c ∈ text ∨ c = '\\' := by
  obtain ⟨d, hd, hescaped⟩ := List.mem_flatMap.mp h
  by_cases hcolon : d = ':'
  · rw [if_pos hcolon, List.mem_cons, List.mem_singleton] at hescaped
    rcases hescaped with hc | hc
    · exact .inr hc
    · rw [hc, ← hcolon]
      exact .inl hd
  · rw [if_neg hcolon, List.mem_singleton] at hescaped
    rw [hescaped]
    exact .inl hd

/-- An escaped text does not start with a colon, since a backslash comes before it. -/
theorem escapeColons_cons_eq (c : Char) (text : List Char) :
    ∃ d rest, d ≠ ':' ∧ escapeColons (c :: text) = d :: rest := by
  rw [escapeColons_cons]
  by_cases hc : c = ':'
  · exact ⟨'\\', ':' :: escapeColons text, by decide, by rw [if_pos hc]; rfl⟩
  · exact ⟨c, escapeColons text, hc, by rw [if_neg hc]; rfl⟩

/-- An escaped text without backslashes of its own is known if the texts go on with a colon or
    end there. -/
private theorem escapeColons_append_inj {a b left right : List Char} (ha : '\\' ∉ a)
    (hb : '\\' ∉ b) (hleft : ∀ c ∈ left.head?, c = ':') (hright : ∀ c ∈ right.head?, c = ':')
    (h : escapeColons a ++ left = escapeColons b ++ right) : a = b ∧ left = right := by
  induction a generalizing b with
  | nil =>
    cases b with
    | nil => exact ⟨rfl, h⟩
    | cons d b =>
      obtain ⟨e, rest, he, htext⟩ := escapeColons_cons_eq d b
      have hhead : left = e :: rest ++ right := by
        rw [← htext]
        exact h
      exact absurd (hleft e (by rw [hhead]; rfl)) he
  | cons c a ih =>
    cases b with
    | nil =>
      obtain ⟨e, rest, he, htext⟩ := escapeColons_cons_eq c a
      have hhead : right = e :: rest ++ left := by
        rw [← htext]
        exact h.symm
      exact absurd (hright e (by rw [hhead]; rfl)) he
    | cons d b =>
      simp only [List.mem_cons, not_or] at ha hb
      have hcons : c = d ∧ escapeColons a ++ left = escapeColons b ++ right := by
        rw [escapeColons_cons, escapeColons_cons] at h
        -- a backslash that escapes a colon cannot be a character of the other text
        by_cases hc : c = ':' <;> by_cases hd : d = ':'
        · rw [if_pos hc, if_pos hd] at h
          exact ⟨hc.trans hd.symm, by simpa using h⟩
        · rw [if_pos hc, if_neg hd] at h
          exact absurd (List.cons.inj h).1 hb.1
        · rw [if_neg hc, if_pos hd] at h
          exact absurd (List.cons.inj h).1.symm ha.1
        · rw [if_neg hc, if_neg hd] at h
          exact List.cons.inj h
      obtain ⟨rfl, htext⟩ := hcons
      obtain ⟨rfl, hrest⟩ := ih ha.2 hb.2 htext
      exact ⟨rfl, hrest⟩

/-! ### Tokens of one pattern -/

/-- Whether two tokens mean the same: they are of one kind, and their values are the same, where
    encoded slashes in literals may be written in either case. -/
def Token.Alike (left right : Token) : Prop :=
  left.kind = right.kind ∧
    if left.kind = .literal then Url.units left.value.toList = Url.units right.value.toList
    else left.value = right.value

/-- Tokens that mean the same have values of one length. -/
theorem Token.Alike.length_eq {left right : Token} (h : left.Alike right) :
    left.value.toList.length = right.value.toList.length := by
  obtain ⟨-, hvalue⟩ := h
  split at hvalue
  · rw [Url.length_eq_foldr_units, Url.length_eq_foldr_units, hvalue]
  · rw [hvalue]

/-- The pattern of a canonical literal starts with a character that is no colon. -/
theorem Token.IsCanonical.pattern_eq_cons {token : Token} (h : token.IsCanonical)
    (hkind : token.kind = .literal) :
    ∃ d rest, d ≠ ':' ∧ token.pattern.toList = d :: rest := by
  obtain ⟨c, text, htext⟩ :=
    List.exists_cons_of_ne_nil (Url.encodeChars_ne_nil h.toList_ne_nil)
  rw [Token.toList_pattern_literal hkind, htext]
  exact escapeColons_cons_eq c text

/-- The pattern of a canonical token is not empty. -/
theorem Token.IsCanonical.pattern_ne_nil {token : Token} (h : token.IsCanonical) :
    token.pattern.toList ≠ [] := by
  by_cases hkind : token.kind = .literal
  · obtain ⟨d, rest, -, hpattern⟩ := h.pattern_eq_cons hkind
    rw [hpattern]
    exact List.cons_ne_nil d rest
  · rw [Token.toList_pattern_parameter hkind]
    exact List.cons_ne_nil _ _

/-- The patterns behind a literal are none or start with a colon, since no literal follows. -/
private theorem head?_after_literal {token : Token} (hkind : token.kind = .literal)
    {later : List Token} (h : Canonical (token :: later)) :
    ∀ c ∈ (later.flatMap (·.pattern.toList)).head?, c = ':' := by
  intro c hc
  cases later with
  | nil => cases hc
  | cons next later =>
    rw [List.flatMap_cons, Token.toList_pattern_parameter (h.next_ne_literal hkind)] at hc
    cases hc
    rfl

/-- What starts with a canonical literal does not start with a parameter. -/
private theorem pattern_append_ne {literal parameter : Token} {left right : List Char}
    (hliteral : literal.kind = .literal) (hcanonical : literal.IsCanonical)
    (hparameter : parameter.kind ≠ .literal) :
    literal.pattern.toList ++ left ≠ parameter.pattern.toList ++ right := by
  intro heq
  obtain ⟨d, rest, hd, hpattern⟩ := hcanonical.pattern_eq_cons hliteral
  rw [hpattern, Token.toList_pattern_parameter hparameter] at heq
  exact hd (List.cons.inj heq).1

/-- The first tokens of two patterns that are the same mean the same, and so do the rests. -/
private theorem alike_head {left right : Token} {before after : List Token}
    (hleft : Canonical (left :: before)) (hright : Canonical (right :: after))
    (h : left.pattern.toList ++ before.flatMap (·.pattern.toList)
      = right.pattern.toList ++ after.flatMap (·.pattern.toList)) :
    left.Alike right ∧
      before.flatMap (·.pattern.toList) = after.flatMap (·.pattern.toList) := by
  have hl := hleft.token left (by simp)
  have hr := hright.token right (by simp)
  by_cases hlk : left.kind = .literal <;> by_cases hrk : right.kind = .literal
  · -- two literals, of which each goes on up to the colon of the parameter behind it
    rw [Token.toList_pattern_literal hlk, Token.toList_pattern_literal hrk] at h
    obtain ⟨htext, hrest⟩ := escapeColons_append_inj (Url.backslash_not_mem_encodeChars _)
      (Url.backslash_not_mem_encodeChars _) (head?_after_literal hlk hleft)
      (head?_after_literal hrk hright) h
    refine ⟨⟨hlk.trans hrk.symm, ?_⟩, hrest⟩
    rw [if_pos hlk]
    exact Url.units_eq_of_encodeChars_eq htext
  · exact absurd h (pattern_append_ne hlk hl hrk)
  · exact absurd h.symm (pattern_append_ne hrk hr hlk)
  · -- two parameters, whose names go on up to the ending of their kind
    rw [Token.toList_pattern_parameter hlk, Token.toList_pattern_parameter hrk] at h
    simp only [List.cons_append, List.append_assoc, List.cons.injEq, true_and] at h
    have hlname := hl.2
    have hrname := hr.2
    rw [if_neg hlk] at hlname
    rw [if_neg hrk] at hrname
    obtain ⟨hname, hend⟩ := run_append_inj hlname.1 hrname.1 (head?_ending hlk _)
      (head?_ending hrk _) h
    obtain ⟨hkind, hrest⟩ := ending_append_inj hlk hrk hend
    refine ⟨⟨hkind, ?_⟩, hrest⟩
    rw [if_neg hlk]
    exact String.toList_inj.mp hname

/-- **A pattern tells its tokens.** Canonical lists with one pattern mean the same, token by
    token. -/
theorem alike_of_pattern_eq {left right : List Token} (hleft : Canonical left)
    (hright : Canonical right) (h : pattern left = pattern right) :
    List.Forall₂ Token.Alike left right := by
  rw [← String.toList_inj, toList_pattern, toList_pattern, List.cons.injEq] at h
  replace h := h.2
  induction left generalizing right with
  | nil =>
    cases right with
    | nil => exact .nil
    | cons token right =>
      have hne := (hright.token token (by simp)).pattern_ne_nil
      simp [hne] at h
  | cons token left ih =>
    cases right with
    | nil =>
      have hne := (hleft.token token (by simp)).pattern_ne_nil
      simp [hne] at h
    | cons other right =>
      obtain ⟨halike, hrest⟩ := alike_head hleft hright h
      exact .cons halike (ih hleft.tail hright.tail hrest)

/-- Tokens of one kind and one value are the same. -/
theorem Token.eq_of_kind_of_value {left right : Token} (hkind : left.kind = right.kind)
    (hvalue : left.value = right.value) : left = right := by
  cases left
  cases right
  cases hkind
  cases hvalue
  rfl

/-- Tokens that mean the same are the same if the values in a row are. -/
theorem eq_of_alike_of_name_eq {left right : List Token}
    (h : List.Forall₂ Token.Alike left right) (hname : name left = name right) :
    left = right := by
  rw [← String.toList_inj, toList_name, toList_name] at hname
  induction h with
  | nil => rfl
  | cons halike _ ih =>
    rw [List.flatMap_cons, List.flatMap_cons] at hname
    obtain ⟨hvalue, hrest⟩ := List.append_inj hname halike.length_eq
    rw [ih hrest, Token.eq_of_kind_of_value halike.1 (String.toList_inj.mp hvalue)]

/-- **A pattern and a name together determine the tokens.** -/
theorem eq_of_pattern_eq_of_name_eq {left right : List Token} (hleft : Canonical left)
    (hright : Canonical right) (hpattern : pattern left = pattern right)
    (hname : name left = name right) : left = right :=
  eq_of_alike_of_name_eq (alike_of_pattern_eq hleft hright hpattern) hname

end FileRoutes.Segment
