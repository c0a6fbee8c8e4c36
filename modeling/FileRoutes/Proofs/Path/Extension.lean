import FileRoutes.Proofs.Path.Components

namespace FileRoutes.Path

/-!
# Paths — the extension of the last component

* `IsFolder` — a text that a last component can follow: nothing, or folders with their slash;
* `HasExtension` — a path taken apart at the extension of its last component;
* `HasExtension.stripExtension_eq` — the extension is what is cut off;
* `stripExtension_eq_self_iff` — nothing is cut off exactly where there is no extension;
* `stripExtension_exact` — the statement about each path, with what it means for the components.
-/

/-! ### Folders and the last component -/

/-- A text that a last component can follow: it is empty, or it ends in a slash. -/
def IsFolder (folder : String) : Prop := folder = "" ∨ folder.toList.getLast? = some '/'

instance : DecidablePred IsFolder := fun folder =>
  inferInstanceAs (Decidable (folder = "" ∨ folder.toList.getLast? = some '/'))

/-- Folders are nothing, or some text and a slash. -/
theorem IsFolder.eq_empty_or_append {folder : String} (h : IsFolder folder) :
    folder = "" ∨ ∃ front, folder = front ++ "/" := by
  rcases h with h | h
  · exact .inl h
  · right
    obtain ⟨front, hfront⟩ := List.getLast?_eq_some_iff.mp h
    refine ⟨String.ofList front, ?_⟩
    apply String.toList_inj.mp
    simp [hfront]

/-- Every path is folders and a last component. -/
theorem exists_folder (path : String) :
    ∃ folder last, path = folder ++ last ∧ IsFolder folder ∧ '/' ∉ last.toList := by
  have hsplit := List.takeWhile_append_dropWhile (p := (· != '/')) (l := path.toList.reverse)
  have hlast := List.all_takeWhile (p := (· != '/')) (l := path.toList.reverse)
  have hstop := List.head?_dropWhile_not (· != '/') path.toList.reverse
  generalize path.toList.reverse.takeWhile (· != '/') = last at hsplit hlast
  generalize path.toList.reverse.dropWhile (· != '/') = front at hsplit hstop
  refine ⟨String.ofList front.reverse, String.ofList last.reverse, ?_, ?_, ?_⟩
  · apply String.toList_inj.mp
    rw [String.toList_append, String.toList_ofList, String.toList_ofList, ← List.reverse_append,
      hsplit, List.reverse_reverse]
  · cases front with
    | nil => exact .inl rfl
    | cons c front => exact .inr (by simpa using hstop)
  · rw [String.toList_ofList, List.mem_reverse]
    intro hslash
    simpa using List.all_eq_true.mp hlast '/' hslash

/-- The components of a path are those of its folders and the last one. -/
theorem components_folder_append {folder last : String} (hfolder : IsFolder folder)
    (hlast : '/' ∉ last.toList) :
    components (folder ++ last) = (components folder).dropLast ++ [last] := by
  rcases hfolder.eq_empty_or_append with rfl | ⟨front, rfl⟩
  · rw [String.empty_append, components_eq_singleton hlast, components_empty]
    rfl
  · have hfront : components (front ++ "/") = components front ++ [""] := by
      rw [← String.append_empty (s := front ++ "/"), components_append, components_empty]
    rw [components_append, components_eq_singleton hlast, hfront, List.dropLast_concat]

/-- Only the last component can lose an extension. -/
theorem stripExtension_folder_append {folder : String} (h : IsFolder folder) (last : String) :
    stripExtension (folder ++ last) = folder ++ stripExtension last := by
  rcases h.eq_empty_or_append with rfl | ⟨front, rfl⟩
  · rw [String.empty_append, String.empty_append]
  · exact stripExtension_append front last

/-! ### Taking a path apart at its extension -/

/-- A path taken apart at the extension of its last component: the folders with their slash, the
    name before the last dot, which is not empty, and the text behind that dot. -/
structure HasExtension (path folder name extension : String) : Prop where
  path_eq : path = folder ++ name ++ "." ++ extension
  isFolder : IsFolder folder
  name_ne_empty : name ≠ ""
  slash_not_mem_name : '/' ∉ name.toList
  dot_not_mem_extension : '.' ∉ extension.toList
  slash_not_mem_extension : '/' ∉ extension.toList

/-- The search from the end of a path stops at the dot before an extension. -/
private theorem dropWhile_extension {extension : String} (hdot : '.' ∉ extension.toList)
    (hslash : '/' ∉ extension.toList) (name : String) :
    (name ++ "." ++ extension).toList.reverse.dropWhile (fun c => c != '.' && c != '/')
      = '.' :: name.toList.reverse := by
  have hpass : ∀ c ∈ extension.toList.reverse, (c != '.' && c != '/') = true := by
    intro c hc
    rw [List.mem_reverse] at hc
    have hc_dot : c ≠ '.' := fun heq => hdot (heq ▸ hc)
    have hc_slash : c ≠ '/' := fun heq => hslash (heq ▸ hc)
    simp [hc_dot, hc_slash]
  have hrev : (name ++ "." ++ extension).toList.reverse
      = extension.toList.reverse ++ '.' :: name.toList.reverse := by simp
  rw [hrev, List.dropWhile_append_of_pos hpass]
  rfl

/-- A dot that a component starts with belongs to its name. -/
theorem stripExtension_dot_append {extension : String} (hdot : '.' ∉ extension.toList)
    (hslash : '/' ∉ extension.toList) : stripExtension ("." ++ extension) = "." ++ extension := by
  have hstop := dropWhile_extension hdot hslash ""
  rw [String.empty_append] at hstop
  unfold stripExtension
  rw [hstop]
  rfl

/-- A component loses the last dot and the text behind it. -/
theorem stripExtension_component {name extension : String} (hne : name ≠ "")
    (hname : '/' ∉ name.toList) (hdot : '.' ∉ extension.toList)
    (hslash : '/' ∉ extension.toList) : stripExtension (name ++ "." ++ extension) = name := by
  unfold stripExtension
  rw [dropWhile_extension hdot hslash]
  -- before the dot stands the last character of the name, which is no slash
  have hrev : name.toList.reverse ≠ [] := by
    rw [Ne, List.reverse_eq_nil_iff, String.toList_eq_nil_iff]
    exact hne
  obtain ⟨c, stem, hstem⟩ := List.exists_cons_of_ne_nil hrev
  have hc : c ≠ '/' := by
    rintro rfl
    exact hname (List.mem_reverse.mp (hstem ▸ List.mem_cons_self))
  rw [hstem]
  simp only [hc, if_false]
  rw [← hstem, List.reverse_reverse, String.ofList_toList]

/-- The last component of a path is the name with the extension. -/
theorem HasExtension.eq_folder_append {path folder name extension : String}
    (h : HasExtension path folder name extension) :
    path = folder ++ (name ++ "." ++ extension) := by
  rw [h.path_eq, String.append_assoc, String.append_assoc, String.append_assoc]

/-- **The extension is what is cut off.** -/
theorem HasExtension.stripExtension_eq {path folder name extension : String}
    (h : HasExtension path folder name extension) : stripExtension path = folder ++ name := by
  rw [h.eq_folder_append, stripExtension_folder_append h.isFolder,
    stripExtension_component h.name_ne_empty h.slash_not_mem_name h.dot_not_mem_extension
      h.slash_not_mem_extension]

/-- A path with an extension is changed. -/
theorem HasExtension.stripExtension_ne {path folder name extension : String}
    (h : HasExtension path folder name extension) : stripExtension path ≠ path := by
  rw [h.stripExtension_eq, h.path_eq, Ne, ← String.toList_inj]
  simp

/-- A path that is changed has an extension. -/
theorem exists_hasExtension {path : String} (h : stripExtension path ≠ path) :
    ∃ folder name extension, HasExtension path folder name extension := by
  obtain ⟨extension, hslash, hdot, -, hpath⟩ := (stripExtension_spec path).resolve_left h
  obtain ⟨folder, name, hfront, hfolder, hname⟩ := exists_folder (stripExtension path)
  have hpath_eq : path = folder ++ name ++ "." ++ String.ofList extension := by
    apply String.toList_inj.mp
    rw [hpath, hfront]
    simp
  refine ⟨folder, name, String.ofList extension, hpath_eq, hfolder, ?_, hname, ?_, ?_⟩
  · -- without a name, the dot would be the first character of the last component
    rintro rfl
    apply h
    rw [hpath_eq, String.append_empty, String.append_assoc, stripExtension_folder_append hfolder,
      stripExtension_dot_append (by simpa using hdot) (by simpa using hslash)]
  · simpa using hdot
  · simpa using hslash

/-- **Nothing is cut off exactly where there is no extension.** -/
theorem stripExtension_eq_self_iff {path : String} :
    stripExtension path = path ↔
      ¬ ∃ folder name extension, HasExtension path folder name extension := by
  constructor
  · rintro hsame ⟨folder, name, extension, h⟩
    exact h.stripExtension_ne hsame
  · intro hnone
    exact Decidable.byContradiction fun hne => hnone (exists_hasExtension hne)

/-! ### What this means for the components -/

/-- The components of a path with an extension are those of its folders and the name with the
    extension. -/
theorem HasExtension.components_eq {path folder name extension : String}
    (h : HasExtension path folder name extension) :
    components path = (components folder).dropLast ++ [name ++ "." ++ extension] := by
  have hlast : '/' ∉ (name ++ "." ++ extension).toList := by
    simp [h.slash_not_mem_name, h.slash_not_mem_extension]
  rw [h.eq_folder_append, components_folder_append h.isFolder hlast]

/-- Without the extension, the last component is the name. -/
theorem HasExtension.components_stripExtension {path folder name extension : String}
    (h : HasExtension path folder name extension) :
    components (stripExtension path) = (components folder).dropLast ++ [name] := by
  rw [h.stripExtension_eq, components_folder_append h.isFolder h.slash_not_mem_name]

/-- **Exactly one extension is cut off the last component.** If a path is folders, a name that is not
    empty, a dot and an extension, the dot and the extension are cut off; any other path stays as it
    is. So all components but the last stay, there are as many as before, and a last component that
    is not empty does not become empty. -/
theorem stripExtension_exact (path : String) :
    (∀ folder name extension, HasExtension path folder name extension →
        stripExtension path = folder ++ name) ∧
      ((¬ ∃ folder name extension, HasExtension path folder name extension) →
        stripExtension path = path) ∧
      (components (stripExtension path)).dropLast = (components path).dropLast ∧
      (components (stripExtension path)).length = (components path).length ∧
      ((components path).getLast? ≠ some "" →
        (components (stripExtension path)).getLast? ≠ some "") := by
  refine ⟨fun _ _ _ h => h.stripExtension_eq, stripExtension_eq_self_iff.mpr, ?_⟩
  by_cases hsame : stripExtension path = path
  · rw [hsame]
    exact ⟨rfl, rfl, id⟩
  · obtain ⟨folder, name, extension, h⟩ := exists_hasExtension hsame
    rw [h.components_stripExtension, h.components_eq]
    refine ⟨by simp, by simp, fun _ => ?_⟩
    simpa using h.name_ne_empty

/-- A path with dots in a folder and in the name, one whose last component starts with its only dot,
    and what is left of the first. -/
theorem stripExtension_dotted :
    HasExtension "größe.d/übersicht.page.vue" "größe.d/" "übersicht.page" "vue" ∧
      stripExtension "größe.d/übersicht.page.vue" = "größe.d/" ++ "übersicht.page" ∧
      (¬ ∃ folder name extension, HasExtension "größe.d/.vue" folder name extension) ∧
      stripExtension "größe.d/.vue" = "größe.d/.vue" ∧
      (components "größe.d/übersicht.page.vue").getLast? ≠ some "" ∧
      (components (stripExtension "größe.d/übersicht.page.vue")).getLast? ≠ some "" := by
  have hdotted : HasExtension "größe.d/übersicht.page.vue" "größe.d/" "übersicht.page" "vue" :=
    ⟨by decide +kernel, by decide +kernel, by decide, by decide, by decide, by decide⟩
  have hhidden : ¬ ∃ folder name extension, HasExtension "größe.d/.vue" folder name extension :=
    stripExtension_eq_self_iff.mp (by decide +kernel)
  have hlast : (components "größe.d/übersicht.page.vue").getLast? ≠ some "" := by decide +kernel
  obtain ⟨hcut, -, -, -, hkept⟩ := stripExtension_exact "größe.d/übersicht.page.vue"
  obtain ⟨-, hsame, -⟩ := stripExtension_exact "größe.d/.vue"
  exact ⟨hdotted, hcut _ _ _ hdotted, hhidden, hsame hhidden, hlast, hkept hlast⟩

end FileRoutes.Path
