import FileRoutes.Proofs.Path.Trim
import FileRoutes.ScannedFile

namespace FileRoutes

/-!
# Scanned files — the full path of a file below a root

The full path of a file is its relative path behind a text that the root alone decides. That text
is the root with one slash at its end, or nothing where the root is made of slashes alone.

* `Path.joint` — the text in front, with `Path.below_eq_joint_append`;
* `Path.head?_below_iff` — the path below a root starts with a slash exactly if the root does and
  is not empty;
* `ScannedFile.absolute_under` — the statement about the files below a root;
* `ScannedFile.slash_root_lost` — a root of slashes alone, below which full paths start without a
  slash.
-/

/-! ### Below a root -/

/-- What stands in front of the relative paths below a root. -/
def Path.joint (root : String) : String := if root = "" then "" else root ++ "/"

/-- The path of a file below a root stands behind the same text for all files. -/
theorem Path.below_eq_joint_append (root relative : String) :
    Path.below root relative = Path.joint root ++ relative := by
  unfold Path.below Path.joint
  by_cases hroot : root = ""
  · rw [if_pos hroot, if_pos hroot, String.empty_append]
  · rw [if_neg hroot, if_neg hroot]

/-- What stands in front has only the characters of the root and a slash. -/
theorem Path.mem_joint {root : String} {c : Char} (h : c ∈ (Path.joint root).toList) :
    c ∈ root.toList ∨ c = '/' := by
  unfold Path.joint at h
  by_cases hroot : root = ""
  · rw [if_pos hroot] at h
    cases h
  · rw [if_neg hroot] at h
    simpa using h

/-- The path of a file below a root starts with a slash exactly if the root does, where an empty
    root leaves a relative path without slashes at its start. -/
theorem Path.head?_below_iff {root relative : String} (h : relative.toList.head? ≠ some '/') :
    (Path.below root relative).toList.head? = some '/' ↔ root.toList.head? = some '/' := by
  unfold Path.below
  by_cases hroot : root = ""
  · rw [if_pos hroot, hroot]
    exact ⟨fun hslash => absurd hslash h, fun hslash => by cases hslash⟩
  · have hne : root.toList ≠ [] := fun hnil => hroot (String.toList_inj.mp hnil)
    rw [if_neg hroot, String.append_assoc, String.toList_append, List.head?_append,
      List.head?_eq_some_head hne, Option.some_or]

/-- A path without its trailing slashes starts with a slash exactly if it did before and is not made
    of slashes alone. -/
theorem Path.head?_trimTrailing_iff (path : String) :
    (Path.trimTrailing path).toList.head? = some '/' ↔
      path.toList.head? = some '/' ∧ ∃ c ∈ path.toList, c ≠ '/' := by
  have hslashes := Path.trimTrailing_eq_empty_iff path
  by_cases hempty : Path.trimTrailing path = ""
  · rw [hempty]
    constructor
    · exact nofun
    · rintro ⟨-, c, hc, hne⟩
      exact absurd (hslashes.mp hempty c hc) hne
  · rw [Path.head?_trimTrailing hempty]
    have hother : ∃ c ∈ path.toList, c ≠ '/' := by
      by_contra hnone
      refine hempty (hslashes.mpr fun c hc => ?_)
      by_contra hne
      exact hnone ⟨c, hc, hne⟩
    exact ⟨fun hhead => ⟨hhead, hother⟩, And.left⟩

/-! ### Files below a root -/

namespace ScannedFile

/-- Unfolding lemma: the relative path of a file below a root. -/
theorem relative_under (root relative domain : String) :
    (under root relative domain).relative
      = Path.trimLeading (Path.forwardSlashes relative) := rfl

/-- Unfolding lemma: the full path of a file below a root. -/
theorem absolute_eq_below (root relative domain : String) :
    (under root relative domain).absolute
      = Path.below (Path.trimTrailing (Path.forwardSlashes root))
        (under root relative domain).relative := by
  dsimp only [under]

/-- The full path of a file stands behind the same text for all files below a root. -/
theorem absolute_eq_joint_append (root relative domain : String) :
    (under root relative domain).absolute
      = Path.joint (Path.trimTrailing (Path.forwardSlashes root))
        ++ (under root relative domain).relative := by
  rw [absolute_eq_below, Path.below_eq_joint_append]

/-- The relative path of a file below a root has no backslash. -/
theorem backslash_not_mem_relative (root relative domain : String) :
    '\\' ∉ (under root relative domain).relative.toList := by
  intro hmem
  rw [relative_under] at hmem
  exact Path.backslash_not_mem_forwardSlashes relative
    ((Path.trimLeading_suffix _).subset hmem)

/-- The full path of a file below a root has no backslash. -/
theorem backslash_not_mem_absolute (root relative domain : String) :
    '\\' ∉ (under root relative domain).absolute.toList := by
  rw [absolute_eq_joint_append, String.toList_append, List.mem_append]
  rintro (hroot | hrelative)
  · rcases Path.mem_joint hroot with hmem | heq
    · exact Path.backslash_not_mem_forwardSlashes root
        ((Path.trimTrailing_prefix _).subset hmem)
    · exact absurd heq (by decide)
  · exact backslash_not_mem_relative root relative domain hrelative

/-- **Full paths tell files apart.** Two files below one root have the same full path exactly if
    they have the same relative path. The full path ends in the relative path, and none of the two
    has a backslash. The full path starts with a slash exactly if the root does, written with
    slashes, and is not made of slashes alone. -/
theorem absolute_under (root first second domain : String) :
    ((under root first domain).absolute = (under root second domain).absolute ↔
        (under root first domain).relative = (under root second domain).relative) ∧
      (∃ front, (under root first domain).absolute
        = front ++ (under root first domain).relative) ∧
      '\\' ∉ (under root first domain).relative.toList ∧
      '\\' ∉ (under root first domain).absolute.toList ∧
      ((under root first domain).absolute.toList.head? = some '/' ↔
        (Path.forwardSlashes root).toList.head? = some '/' ∧
          ∃ c ∈ (Path.forwardSlashes root).toList, c ≠ '/') := by
  refine ⟨?_, ⟨_, absolute_eq_joint_append root first domain⟩,
    backslash_not_mem_relative root first domain, backslash_not_mem_absolute root first domain, ?_⟩
  · rw [absolute_eq_joint_append, absolute_eq_joint_append, String.append_right_inj]
  · rw [← Path.head?_trimTrailing_iff, absolute_eq_below]
    have hrelative : (under root first domain).relative.toList.head? ≠ some '/' := by
      rw [relative_under]
      exact Path.head?_trimLeading _
    exact Path.head?_below_iff hrelative

/-- **A root of slashes alone is lost.** It starts with a slash, and the full path of a file below
    it does not. -/
theorem slash_root_lost :
    (Path.forwardSlashes "/").toList.head? = some '/' ∧
      (under "/" "index.vue" "Hello").absolute = "index.vue" ∧
      (under "/" "index.vue" "Hello").absolute.toList.head? ≠ some '/' ∧
      (Path.forwardSlashes "\\/").toList.head? = some '/' ∧
      (under "\\/" "index.vue" "Hello").absolute.toList.head? ≠ some '/' := by
  decide +kernel

end ScannedFile

end FileRoutes
