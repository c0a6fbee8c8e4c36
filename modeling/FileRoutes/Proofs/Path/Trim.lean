import FileRoutes.Path
import Mathlib.Data.List.TakeWhile

namespace FileRoutes.Path

/-!
# Paths — slashes at the ends

* `trimLeading_suffix`, `trimTrailing_prefix` — what is left of a path without its slashes at one
  end;
* `head?_trimLeading`, `getLast?_trimTrailing` — there are no more slashes at that end;
* `trimTrailing_eq_empty_iff` — nothing is left of slashes alone;
* `trim_eq_self` — nothing is cut off where there are no slashes;
* `backslash_not_mem_forwardSlashes`, `forwardSlashes_eq_self` — a path with all backslashes
  exchanged has none, and where there is none, nothing is exchanged.
-/

/-! ### Slashes cut off -/

/-- A path without its leading slashes is an end of it. -/
theorem trimLeading_suffix (path : String) : (trimLeading path).toList <:+ path.toList := by
  rw [toList_trimLeading]
  exact List.dropWhile_suffix _

/-- A path without its trailing slashes is a start of it. -/
theorem trimTrailing_prefix (path : String) : (trimTrailing path).toList <+: path.toList := by
  rw [toList_trimTrailing]
  have hsuffix : path.toList.reverse.dropWhile (· == '/') <:+ path.toList.reverse :=
    List.dropWhile_suffix _
  simpa using List.reverse_prefix.mpr hsuffix

/-- A path does not start with the slashes that were cut off its start. -/
theorem head?_trimLeading (path : String) : (trimLeading path).toList.head? ≠ some '/' := by
  rw [toList_trimLeading]
  intro hhead
  have hnot := List.head?_dropWhile_not (· == '/') path.toList
  rw [hhead] at hnot
  simp at hnot

/-- A path does not end in the slashes that were cut off its end. -/
theorem getLast?_trimTrailing (path : String) :
    (trimTrailing path).toList.getLast? ≠ some '/' := by
  rw [toList_trimTrailing, List.getLast?_reverse]
  intro hhead
  have hnot := List.head?_dropWhile_not (· == '/') path.toList.reverse
  rw [hhead] at hnot
  simp at hnot

/-- Nothing is left of a path exactly if it is made of slashes alone. -/
theorem trimTrailing_eq_empty_iff (path : String) :
    trimTrailing path = "" ↔ ∀ c ∈ path.toList, c = '/' := by
  rw [← String.toList_inj, toList_trimTrailing]
  simp [List.dropWhile_eq_nil_iff]

/-- A path of which something is left starts as it did. -/
theorem head?_trimTrailing {path : String} (h : trimTrailing path ≠ "") :
    (trimTrailing path).toList.head? = path.toList.head? := by
  obtain ⟨slashes, hslashes⟩ := trimTrailing_prefix path
  have hne : (trimTrailing path).toList ≠ [] := fun hnil => h (String.toList_inj.mp hnil)
  rw [← hslashes, List.head?_append, List.head?_eq_some_head hne, Option.some_or]

/-- A text that starts with another character has no slashes to cut off. -/
private theorem dropWhile_slash_eq_self {text : List Char} (h : text.head? ≠ some '/') :
    text.dropWhile (· == '/') = text := by
  cases text with
  | nil => rfl
  | cons c rest =>
    have hc : c ≠ '/' := fun heq => h (by rw [heq]; rfl)
    rw [List.dropWhile_cons_of_neg (by simpa using hc)]

/-- A path without slashes at its ends has none to cut off. -/
theorem trim_eq_self {path : String} (hstart : path.toList.head? ≠ some '/')
    (hend : path.toList.getLast? ≠ some '/') :
    trimTrailing (trimLeading path) = path := by
  apply String.toList_inj.mp
  rw [← List.head?_reverse] at hend
  rw [toList_trimTrailing, toList_trimLeading, dropWhile_slash_eq_self hstart,
    dropWhile_slash_eq_self hend, List.reverse_reverse]

/-! ### Backslashes exchanged -/

/-- A path in which all backslashes were exchanged has none. -/
theorem backslash_not_mem_forwardSlashes (path : String) :
    '\\' ∉ (forwardSlashes path).toList := by
  rw [toList_forwardSlashes]
  intro hmem
  obtain ⟨c, -, hc⟩ := List.mem_map.mp hmem
  by_cases hback : c = '\\'
  · rw [if_pos hback] at hc
    exact absurd hc (by decide)
  · rw [if_neg hback] at hc
    exact hback hc

/-- A path without backslashes is written with slashes already. -/
theorem forwardSlashes_eq_self {path : String} (h : '\\' ∉ path.toList) :
    forwardSlashes path = path := by
  apply String.toList_inj.mp
  rw [toList_forwardSlashes]
  refine (List.map_congr_left fun c hc => ?_).trans (List.map_id _)
  have hne : c ≠ '\\' := fun heq => h (heq ▸ hc)
  exact if_neg hne

end FileRoutes.Path
