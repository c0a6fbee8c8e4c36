import FileRoutes.Path
import FileRoutes.Text.Ending

namespace FileRoutes.Path

/-!
# Paths — components and the extension

The components of a path are found again after two paths are joined by a slash, so that a
statement about slashes in a text becomes one about lists of components:

* `components_append` — the components of two paths joined by a slash;
* `length_components` — there is one component more than there are slashes;
* `components_append_join` — texts without slashes, each behind a slash, are one more component each,
  so that they are found again in the path (`eq_of_join_slashed`);
* `dropEnding?_index` — only the last component is a final index;
* `stripExtension_spec` — what is cut off is a dot and what follows it in the last component;
* `stripExtension_append` — below a folder, only the rest of the path can lose an extension.
-/

/-! ### Components -/

/-- Two paths with a slash between them have the components of both. -/
theorem components_append (left right : String) :
    components (left ++ "/" ++ right) = components left ++ components right := by
  unfold components
  rw [← List.map_append, ← List.splitOn_append_cons_self left.toList right.toList]
  simp

/-- A path without slashes is its only component. -/
theorem components_eq_singleton {path : String} (h : '/' ∉ path.toList) :
    components path = [path] := by
  simp [components, List.splitOn_eq_singleton h]

/-- The empty path has an empty component. -/
@[simp] theorem components_empty : components "" = [""] := by
  exact components_eq_singleton (by simp)

/-- A path ends in an index only if that is its last component. -/
theorem dropEnding?_index {last : String} (hlast : '/' ∉ last.toList) (hindex : last ≠ "index")
    (folder : String) : Text.dropEnding? "/index" (folder ++ "/" ++ last) = none := by
  rw [Option.eq_none_iff_forall_ne_some]
  intro front hfront
  have hpath : folder ++ "/" ++ last = front ++ "/" ++ "index" := by
    rw [Text.dropEnding?_eq_some_iff.mp hfront, String.append_assoc]
    rfl
  have hindex_part : components "index" = ["index"] := components_eq_singleton (by decide)
  have hparts := congrArg components hpath
  rw [components_append, components_append, components_eq_singleton hlast, hindex_part] at hparts
  exact hindex (List.cons.inj (List.append_inj_right' hparts rfl)).1

/-- The parts of a list that is split at an element do not have that element. -/
private theorem not_mem_of_mem_splitOn {c : Char} {text part : List Char}
    (h : part ∈ text.splitOn c) : c ∉ part := by
  induction text generalizing part with
  | nil =>
    rw [List.splitOn_nil, List.mem_singleton] at h
    simp [h]
  | cons d text ih =>
    obtain ⟨first, others, hsplit⟩ := List.exists_cons_of_ne_nil (List.splitOn_ne_nil c text)
    rw [List.splitOn_cons_eq_if_modifyHead, hsplit] at h
    rw [hsplit] at ih
    by_cases hd : d = c
    · simp only [hd, beq_self_eq_true, if_true, List.mem_cons] at h
      rcases h with rfl | h
      · simp
      · exact ih (List.mem_cons.mpr h)
    · simp only [beq_iff_eq, hd, if_false, List.modifyHead_cons, List.mem_cons] at h
      rcases h with rfl | h
      · have hfirst : c ∉ first := ih (by simp)
        simp [hfirst, Ne.symm hd]
      · exact ih (List.mem_cons_of_mem _ h)

/-- No component has a slash. -/
theorem slash_not_mem_component {path component : String} (h : component ∈ components path) :
    '/' ∉ component.toList := by
  unfold components at h
  obtain ⟨part, hpart, rfl⟩ := List.mem_map.mp h
  rw [String.toList_ofList]
  exact not_mem_of_mem_splitOn hpart

/-- There is one component more than there are slashes. -/
theorem length_components (path : String) :
    (components path).length = path.toList.count '/' + 1 := by
  unfold components
  rw [List.length_map]
  induction path.toList with
  | nil => rfl
  | cons c text ih =>
    rw [List.splitOn_cons_eq_if_modifyHead, List.count_cons]
    by_cases hc : c = '/'
    · simp [hc, ih]
    · simp [hc, ih]

/-- Texts without slashes behind a path, each with a slash in front, are one more component each. -/
theorem components_append_join (path : String) {parts : List String}
    (h : ∀ part ∈ parts, '/' ∉ part.toList) :
    components (path ++ String.join (parts.map ("/" ++ ·))) = components path ++ parts := by
  induction parts generalizing path with
  | nil => simp
  | cons part parts ih =>
    obtain ⟨hpart, hparts⟩ := List.forall_mem_cons.mp h
    rw [List.map_cons, String.join_cons, ← String.append_assoc, ← String.append_assoc,
      ih _ hparts, components_append, components_eq_singleton hpart, List.append_assoc,
      List.singleton_append]

/-- Texts without slashes, each with a slash in front, are found again in their path. -/
theorem eq_of_join_slashed {left right : List String} (hleft : ∀ part ∈ left, '/' ∉ part.toList)
    (hright : ∀ part ∈ right, '/' ∉ part.toList)
    (h : String.join (left.map ("/" ++ ·)) = String.join (right.map ("/" ++ ·))) :
    left = right := by
  have hparts := components_append_join "" hleft
  rw [h, components_append_join "" hright] at hparts
  exact (List.append_cancel_left hparts).symm

/-! ### The extension -/

/-- What is cut off a path is nothing, or a dot and the rest of the last component, where some
    character other than a slash stands before the dot. -/
theorem stripExtension_spec (path : String) :
    stripExtension path = path ∨
      ∃ extension : List Char, '/' ∉ extension ∧ '.' ∉ extension ∧
        (stripExtension path).toList.getLast? ≠ some '/' ∧
        path.toList = (stripExtension path).toList ++ '.' :: extension := by
  unfold stripExtension
  split
  · rename_i c stem hdrop
    by_cases hc : c = '/'
    · exact .inl (by rw [if_pos hc])
    · right
      rw [if_neg hc]
      have hsplit := List.takeWhile_append_dropWhile
        (p := fun c => c != '.' && c != '/') (l := path.toList.reverse)
      have hall := List.all_takeWhile
        (p := fun c => c != '.' && c != '/') (l := path.toList.reverse)
      rw [hdrop] at hsplit
      generalize path.toList.reverse.takeWhile _ = read at hsplit hall
      have hread : ∀ d ∈ read, d ≠ '.' ∧ d ≠ '/' := by simpa using hall
      refine ⟨read.reverse, fun hm => (hread '/' (List.mem_reverse.mp hm)).2 rfl,
        fun hm => (hread '.' (List.mem_reverse.mp hm)).1 rfl, ?_, ?_⟩
      · simpa using hc
      · rw [String.toList_ofList, ← List.reverse_inj, ← hsplit]
        simp
  · exact .inl rfl

/-- Below a folder, only the rest of the path can lose an extension. -/
theorem stripExtension_append (folder rest : String) :
    stripExtension (folder ++ "/" ++ rest) = folder ++ "/" ++ stripExtension rest := by
  have hrev : (folder ++ "/" ++ rest).toList.reverse
      = rest.toList.reverse ++ '/' :: folder.toList.reverse := by simp
  unfold stripExtension
  rw [hrev, List.dropWhile_append]
  rcases hdrop : rest.toList.reverse.dropWhile (fun c => c != '.' && c != '/') with _ | ⟨d, stem⟩
  · -- no dot and no slash below the folder: the search ends at the slash
    simp
  · have hd : d = '.' ∨ d = '/' := by
      have hnot := List.head?_dropWhile_not (fun c => c != '.' && c != '/') rest.toList.reverse
      rw [hdrop] at hnot
      simpa [Decidable.imp_iff_not_or] using hnot
    rcases hd with rfl | rfl
    · rcases stem with _ | ⟨c, stem⟩
      · simp
      · by_cases hc : c = '/'
        · simp [hc]
        · simp only [List.isEmpty_cons, Bool.false_eq_true, if_false, List.cons_append, hc]
          apply String.toList_inj.mp
          simp
    · simp

/-- A path without its extension has as many slashes as before. -/
theorem count_slash_stripExtension (path : String) :
    (stripExtension path).toList.count '/' = path.toList.count '/' := by
  rcases stripExtension_spec path with h | ⟨extension, hslash, -, -, h⟩
  · rw [h]
  · rw [h, List.count_append, List.count_cons_of_ne (by decide), List.count_eq_zero.mpr hslash,
      Nat.add_zero]

/-! ### Segments -/

/-- There is one segment more than there are slashes. -/
theorem length_segments (path : String) :
    (segments path).length = path.toList.count '/' + 1 := by
  rw [segments, length_components, count_slash_stripExtension]

/-- The segments of a path below the folder that a page is named like are those of the page and
    those of the rest. -/
theorem segments_append (page rest : String) :
    segments (stripExtension page ++ "/" ++ rest) = segments page ++ segments rest := by
  rw [segments, stripExtension_append, components_append, segments, segments]

end FileRoutes.Path
