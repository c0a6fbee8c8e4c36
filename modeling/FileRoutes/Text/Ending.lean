namespace FileRoutes.Text

/-!
# Text — endings

* `hasEnding` — whether a text ends in another one;
* `dropEnding?` — the part of a text before a given ending;
* `dropEnding?_eq_some_iff` — it is the one text that gives the whole again when the
  ending is put back.
-/

/-- Whether `text` ends in `ending`. -/
def hasEnding (ending text : String) : Bool :=
  ending.toList.isSuffixOf text.toList

/-- A text has an ending exactly when it is some text followed by it. -/
theorem hasEnding_iff {ending text : String} :
    hasEnding ending text = true ↔ ∃ rest, text = rest ++ ending := by
  unfold hasEnding
  rw [List.isSuffixOf_iff_suffix]
  constructor
  · rintro ⟨front, hf⟩
    refine ⟨String.ofList front, ?_⟩
    apply String.toList_inj.mp
    simp [← hf]
  · rintro ⟨rest, rfl⟩
    simp

/-- The part of `text` before a final `ending`, or nothing if the text does not end so. -/
def dropEnding? (ending text : String) : Option String :=
  if hasEnding ending text then
    some (String.ofList (text.toList.take (text.toList.length - ending.toList.length)))
  else none

/-- Taking off an ending that was just put on changes nothing. -/
@[simp] theorem dropEnding?_append (rest ending : String) :
    dropEnding? ending (rest ++ ending) = some rest := by
  have h : hasEnding ending (rest ++ ending) = true := hasEnding_iff.mpr ⟨rest, rfl⟩
  simp [dropEnding?, h]

/-- A text loses its ending exactly when it is the rest followed by that ending. -/
theorem dropEnding?_eq_some_iff {ending text rest : String} :
    dropEnding? ending text = some rest ↔ text = rest ++ ending := by
  constructor
  · intro h
    by_cases he : hasEnding ending text = true
    · obtain ⟨front, rfl⟩ := hasEnding_iff.mp he
      rw [dropEnding?_append] at h
      injection h with h
      rw [h]
    · simp [dropEnding?, he] at h
  · rintro rfl
    exact dropEnding?_append rest ending

end FileRoutes.Text
