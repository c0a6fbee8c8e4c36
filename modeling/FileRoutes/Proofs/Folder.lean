import FileRoutes.Config
import FileRoutes.Proofs.Path.Components
import Mathlib.Data.List.Basic

namespace FileRoutes

/-!
# Folders — which files a path can lead to

A path is followed component by component. Files stand in the working folder alone, so that a path
leads to one of them or to no file at all, whatever folders it goes through.

* `Folder.IsName` — a text that can name something in a folder;
* `Folder.entryAt_name` — a name leads to what stands under it;
* `Folder.entryAt_dot`, `Folder.entryAt_dots` — ways that come back to where they started;
* `Folder.lookup_of_entryAt` — what is found, unless it is a folder, stands under the last
  component of the path;
* `Config.load_entryAt`, `Config.load_entryAt_name` — where settings come from.
-/

namespace Folder

variable {folder : Folder} {path name : String}

/-! ### Components -/

/-- A text that can name something in a folder: one component that is no way to a folder. -/
structure IsName (name : String) : Prop where
  ne_empty : name ≠ ""
  ne_dot : name ≠ "."
  ne_dots : name ≠ ".."
  noSlash : '/' ∉ name.toList
  noNull : '\x00' ∉ name.toList

/-- Unfolding lemma: without a further component, the way ends in a folder. -/
@[simp] theorem follow_nil (place : Place) : folder.follow place [] = .folder := by
  cases place <;> rfl

/-- A component that stays where it is. -/
theorem follow_stay (h : name = "" ∨ name = ".") (place : Place) (rest : List String) :
    folder.follow place (name :: rest) = folder.follow place rest := by
  cases place <;> rw [follow, if_pos h]

/-- The way out of an empty folder. -/
theorem follow_dots (rest : List String) :
    folder.follow .within (".." :: rest) = folder.follow .here rest := by
  rw [follow, if_neg (by decide), if_pos rfl]

/-- The way into an empty folder. -/
theorem follow_folder (h : IsName name) (hfolder : folder.entries.lookup name = some .folder)
    (rest : List String) : folder.follow .here (name :: rest) = folder.follow .within rest := by
  rw [follow, if_neg (not_or.mpr ⟨h.ne_empty, h.ne_dot⟩), if_neg h.ne_dots, hfolder]

/-- A name leads to what stands under it. -/
theorem follow_name (h : IsName name) :
    folder.follow .here [name] = (folder.entries.lookup name).getD .missing := by
  rw [follow, if_neg (not_or.mpr ⟨h.ne_empty, h.ne_dot⟩), if_neg h.ne_dots]
  rcases folder.entries.lookup name with _ | _ | _ | _ | _ <;> rfl

/-- **What is found on a way** is a folder, or stands under the last component. -/
theorem lookup_of_follow {place : Place} {components : List String} {entry : Entry}
    (h : folder.follow place components = entry) (hmissing : entry ≠ .missing)
    (hfolder : entry ≠ .folder) :
    ∃ last, components.getLast? = some last ∧ folder.entries.lookup last = some entry := by
  fun_induction follow folder place components with
  | case1 => exact absurd h.symm hfolder
  -- a way that goes on ends where its rest does
  | case2 _ _ _ _ ih | case3 _ _ ih | case4 _ _ ih | case5 _ _ ih | case6 _ _ _ _ _ ih =>
    obtain ⟨last, hlast, hfound⟩ := ih h
    exact ⟨last, by rw [List.getLast?_cons, hlast, Option.getD_some], hfound⟩
  | case7 name rest _ _ found _ hfound hend =>
    rw [List.isEmpty_iff.mp hend, ← h]
    exact ⟨name, rfl, hfound⟩
  | case8 | case9 => exact absurd h.symm hmissing

/-! ### Paths -/

/-- A path without a slash in front is followed from the folder. -/
theorem entryAt_eq (hempty : path ≠ "") (hhead : path.toList.head? ≠ some '/')
    (hnull : '\x00' ∉ path.toList) :
    folder.entryAt path = folder.follow .here (Path.components path) := by
  rw [entryAt, if_neg (not_or.mpr ⟨hempty, hnull⟩), if_neg hhead]

/-- A name has no slash in front. -/
theorem IsName.head?_append_ne (h : IsName name) (rest : List Char) :
    (name.toList ++ rest).head? ≠ some '/' := by
  obtain ⟨c, text, hname⟩ := List.exists_cons_of_ne_nil (mt String.toList_eq_nil_iff.mp h.ne_empty)
  have hslash := h.noSlash
  rw [hname, List.mem_cons, not_or] at hslash
  rw [hname, List.cons_append, List.head?_cons, Ne, Option.some_inj]
  exact Ne.symm hslash.1

/-- **A name leads to what stands under it.** -/
theorem entryAt_name (h : IsName name) :
    folder.entryAt name = (folder.entries.lookup name).getD .missing := by
  rw [entryAt_eq h.ne_empty (by simpa using h.head?_append_ne []) h.noNull,
    Path.components_eq_singleton h.noSlash, follow_name h]

/-- A dot in front of a path from the folder changes nothing. -/
theorem entryAt_dot (hempty : path ≠ "") (hhead : path.toList.head? ≠ some '/')
    (hnull : '\x00' ∉ path.toList) : folder.entryAt ("." ++ "/" ++ path) = folder.entryAt path := by
  have hdot : Path.components "." = ["."] := Path.components_eq_singleton (by decide)
  rw [entryAt_eq hempty hhead hnull, entryAt_eq (by simp) (by simp) (by simpa using hnull),
    Path.components_append, hdot, List.singleton_append, follow_stay (.inr rfl)]

/-- The way into an empty folder and out again changes nothing. -/
theorem entryAt_dots (h : IsName name) (hfolder : folder.entries.lookup name = some .folder)
    (hempty : path ≠ "") (hhead : path.toList.head? ≠ some '/') (hnull : '\x00' ∉ path.toList) :
    folder.entryAt (name ++ "/" ++ ".." ++ "/" ++ path) = folder.entryAt path := by
  have hdots : Path.components ".." = [".."] := Path.components_eq_singleton (by decide)
  have hfront : (name ++ "/" ++ ".." ++ "/" ++ path).toList.head? ≠ some '/' := by
    simpa using h.head?_append_ne ('/' :: '.' :: '.' :: '/' :: path.toList)
  rw [entryAt_eq hempty hhead hnull,
    entryAt_eq (by simp) hfront (by simpa using ⟨h.noNull, hnull⟩), Path.components_append,
    Path.components_append, hdots, Path.components_eq_singleton h.noSlash]
  exact (follow_folder h hfolder _).trans (follow_dots _)

/-- Ways that come back before they lead to a file. -/
example (content : ByteArray) :
    (Folder.mk [("docs", .folder), ("site.toml", .file content)]).entryAt "./docs/../site.toml"
      = .file content := by
  rfl

/-- **What is found at a path**, unless it is a folder, stands under the last component. -/
theorem lookup_of_entryAt {entry : Entry} (h : folder.entryAt path = entry)
    (hmissing : entry ≠ .missing) (hfolder : entry ≠ .folder) :
    ∃ last, (Path.components path).getLast? = some last ∧
      folder.entries.lookup last = some entry := by
  unfold entryAt at h
  split at h
  · exact absurd h.symm hmissing
  · exact lookup_of_follow h hmissing hfolder

end Folder

/-! ### Settings -/

/-- **Where settings come from.** A project has the defaults, or the settings in the file that stands
    in its folder under the last component of the path. -/
theorem Config.load_entryAt {folder : Folder} {path : String} {config : Config}
    (h : Config.load path (folder.entryAt path) = .ok config) :
    config = Config.default ∨
      ∃ last content text, (Path.components path).getLast? = some last ∧
        folder.entries.lookup last = some (.file content) ∧
        String.fromUTF8? content = some text ∧ Config.ofText? text = some config := by
  cases hentry : folder.entryAt path with
  | missing =>
    rw [hentry] at h
    exact .inl (Except.ok.inj h).symm
  | folder =>
    rw [hentry] at h
    cases h
  | unreadable cause =>
    rw [hentry] at h
    cases h
  | file content =>
    obtain ⟨last, hlast, hfile⟩ := Folder.lookup_of_entryAt hentry nofun nofun
    rw [hentry, Config.load] at h
    split at h
    next => cases h
    next text htext =>
      split at h
      next => cases h
      next settings hsettings =>
        rw [Except.ok.inj h] at hsettings
        exact .inr ⟨last, content, text, hlast, hfile, htext, hsettings⟩

/-- **A project has the settings in its file**, if the file is text and the text has settings. -/
theorem Config.load_entryAt_name {folder : Folder} {name text : String} {content : ByteArray}
    {config : Config} (h : Folder.IsName name)
    (hfile : folder.entries.lookup name = some (.file content))
    (htext : String.fromUTF8? content = some text) (hconfig : Config.ofText? text = some config) :
    Config.load name (folder.entryAt name) = .ok config := by
  rw [Folder.entryAt_name h, hfile, Option.getD_some, Config.load, htext]
  dsimp only
  rw [hconfig]

/-- A settings file that leaves the extensions as they are. -/
example :
    Config.load Config.defaultFile ((Folder.mk [(Config.defaultFile,
        .file "directory = \"app\"\n[domains.path_alias]\nShop = \"/\"\n".toUTF8)]).entryAt
          Config.defaultFile)
      = .ok ⟨"app", [".vue", ".ts", ".js"], [("Shop", "/")]⟩ := by
  decide +kernel

end FileRoutes
