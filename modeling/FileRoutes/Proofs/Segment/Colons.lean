import FileRoutes.Proofs.Segment.Component
import FileRoutes.Proofs.Segment.Parse

namespace FileRoutes

/-!
# Segments — the colons of patterns

Every parameter has a colon in its pattern. So colons can be counted to see that no parameter got
lost, and a segment whose pattern has none is literal text.

* `Url.colons` — the number of colons in a text;
* `Segment.Proper.eq_literal` — a segment without colons in its pattern is one literal;
* `Segment.eq_of_tokenize_literal` — the text of a segment that is one literal;
* `Segment.eq_index_of_pattern` — so `/index` is the pattern of one text only.
-/

/-! ### Counting colons -/

/-- The number of colons in a text. -/
def Url.colons (text : String) : Nat := text.toList.count ':'

/-- The colons of two texts in a row. -/
@[simp] theorem Url.colons_append (left right : String) :
    Url.colons (left ++ right) = Url.colons left + Url.colons right := by
  simp [Url.colons]

/-- The empty text has no colons. -/
@[simp] theorem Url.colons_empty : Url.colons "" = 0 := rfl

/-- A slash is no colon. -/
@[simp] theorem Url.colons_slash : Url.colons "/" = 0 := rfl

/-- A text has no colons exactly if none of its characters is one. -/
theorem Url.colons_eq_zero_iff {text : String} : Url.colons text = 0 ↔ ':' ∉ text.toList :=
  List.count_eq_zero

namespace Segment

/-- **A segment without colons in its pattern is one literal.** -/
theorem Proper.eq_literal {tokens : List Token} (h : Proper tokens)
    (hcolons : Url.colons (pattern tokens) = 0) : tokens = [⟨.literal, name tokens⟩] := by
  have hliteral : ∀ token ∈ tokens, token.kind = .literal := by
    intro token ht
    by_contra hkind
    apply Url.colons_eq_zero_iff.mp hcolons
    rw [toList_pattern]
    apply List.mem_cons_of_mem
    refine List.mem_flatMap.mpr ⟨token, ht, ?_⟩
    rw [Token.toList_pattern_parameter hkind]
    exact List.mem_cons_self
  obtain ⟨token, later, rfl⟩ := List.exists_cons_of_ne_nil h.nonempty
  have hkind := hliteral token (by simp)
  cases later with
  | nil =>
    have hvalue : token.value = name [token] := by
      apply String.toList_inj.mp
      simp
    have htoken : token = ⟨.literal, name [token]⟩ := Token.eq_of_kind_of_value hkind hvalue
    rw [← htoken]
  | cons next later => exact absurd (hliteral next (by simp)) (h.next_ne_literal hkind)

/-- Brackets make a parameter. -/
theorem parameterKind_ne_literal (inside : List Char) : parameterKind inside ≠ .literal := by
  unfold parameterKind
  by_cases hmark : mark <+: nameChars inside
  · simp [hmark]
  · by_cases hbracket : '[' ∈ inside <;> simp [hmark, hbracket]

/-- A list that is one entry got it in front of nothing. -/
private theorem eq_of_map_cons {ε α : Type} {result : Except ε (List α)} {first entry : α}
    (h : result.map (first :: ·) = .ok [entry]) : result = .ok [] ∧ first = entry := by
  cases result with
  | error fault => cases h
  | ok later =>
    cases h
    exact ⟨rfl, rfl⟩

/-- The text that is read as one literal is that literal. -/
theorem eq_of_parseChars_literal {text : List Char} {value : String}
    (h : parseChars text = .ok [⟨.literal, value⟩]) : text = value.toList := by
  unfold parseChars at h
  split at h
  · cases h
  · -- a parameter is no literal
    rename_i text
    exfalso
    cases hplace : closing? text with
    | none =>
      rw [hplace] at h
      cases h
    | some place =>
      rw [hplace] at h
      dsimp only at h
      by_cases hname : parameterName (text.take place) = []
      · rw [if_pos hname] at h
        cases h
      · rw [if_neg hname] at h
        exact parameterKind_ne_literal _ (congrArg Token.kind (eq_of_map_cons h).2)
  · -- nothing is left to read behind the literal
    rename_i c text _
    obtain ⟨hrest, hvalue⟩ := eq_of_map_cons h
    rw [← scan_eq_parseChars] at hrest
    have hstop := List.takeWhile_append_dropWhile (p := (· != '[')) (l := text)
    rw [(eq_nil_of_scan hrest).2, List.append_nil] at hstop
    have htext : String.ofList (c :: text) = value := by
      rw [hstop] at hvalue
      exact congrArg Token.value hvalue
    rw [← htext, String.toList_ofList]

/-- **A segment that is one literal has its text.** -/
theorem eq_of_tokenize_literal {segment value : String}
    (h : tokenize segment = .ok [⟨.literal, value⟩]) : segment = value := by
  rw [tokenize_eq_ok, scan_eq_parseChars] at h
  exact String.toList_inj.mp (eq_of_parseChars_literal h)

/-- **Only the text `index` has the pattern of an index.** -/
theorem eq_index_of_pattern {segment : String} {tokens : List Token}
    (htokens : tokenize segment = .ok tokens) (h : Proper tokens)
    (hpattern : pattern tokens = "/index") : segment = "index" := by
  have hliteral := h.eq_literal (by rw [hpattern]; rfl)
  rw [name_eq_index_of_pattern h.toCanonical hpattern] at hliteral
  rw [hliteral] at htokens
  exact eq_of_tokenize_literal htokens

end Segment

end FileRoutes
