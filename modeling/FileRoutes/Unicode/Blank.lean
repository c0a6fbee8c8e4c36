import FileRoutes.Unicode.Span

namespace FileRoutes.Unicode

/-!
# Unicode — blanks

* `isBlank` — the characters with the property White_Space: they sort before all
  others and are trimmed from both ends of a line;
* `trim` — a text without the blanks at its two ends.
-/

/-- The code points with the property White_Space. -/
def blankSpans : List Span := [
  ⟨0x9, 0xD, 1⟩, ⟨0x20, 0x20, 1⟩, ⟨0x85, 0x85, 1⟩, ⟨0xA0, 0xA0, 1⟩, ⟨0x1680, 0x1680, 1⟩,
  ⟨0x2000, 0x200A, 1⟩, ⟨0x2028, 0x2029, 1⟩, ⟨0x202F, 0x202F, 1⟩, ⟨0x205F, 0x205F, 1⟩,
  ⟨0x3000, 0x3000, 1⟩]

/-- Whether the character has the property White_Space. -/
def isBlank (c : Char) : Bool := covered blankSpans c

/-- White space in the narrow sense of ASCII is blank. -/
theorem isBlank_of_isWhitespace {c : Char} (h : c.isWhitespace = true) : isBlank c = true := by
  simp only [Char.isWhitespace, Bool.or_eq_true, decide_eq_true_eq] at h
  rcases h with ((rfl | rfl) | rfl) | rfl <;> decide

/-- Drops the blanks at both ends of a text. -/
def trim (text : String) : String :=
  String.ofList ((text.toList.dropWhile isBlank).reverse.dropWhile isBlank).reverse

/-- Unfolding lemma: the characters of a trimmed text. -/
@[simp] theorem toList_trim (text : String) :
    (trim text).toList = ((text.toList.dropWhile isBlank).reverse.dropWhile isBlank).reverse := by
  simp [trim]

end FileRoutes.Unicode
