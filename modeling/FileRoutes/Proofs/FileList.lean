import FileRoutes.FileList
import Mathlib.Data.List.TakeWhile

namespace FileRoutes.FileList

/-!
# File lists — which text lists which paths

* `IsEntry` — a path that can stand in a list: not empty, on one line, and trimmed;
* `Lists` — a text that lists paths in order, one on each line, among blanks;
* `Lists.ofText_eq` — the paths that are listed are those that are read;
* `exists_lists` — every text lists some paths;
* `read_lists` — the statement about reading, and reading again.
-/

/-! ### Texts that list paths -/

/-- A path that can stand in a list: it is not empty, has no line feed, and neither starts nor ends
    with a blank. -/
structure IsEntry (path : String) : Prop where
  ne_empty : path ≠ ""
  oneLine : '\n' ∉ path.toList
  head : ∀ c ∈ path.toList.head?, Unicode.isBlank c = false
  last : ∀ c ∈ path.toList.getLast?, Unicode.isBlank c = false

/-- A path that can stand in a list has a character. -/
theorem IsEntry.toList_ne_nil {path : String} (h : IsEntry path) : path.toList ≠ [] :=
  mt String.toList_eq_nil_iff.mp h.ne_empty

/-- Blanks within a line: any but line feeds. -/
def Padding (text : String) : Prop := ∀ c ∈ text.toList, Unicode.isBlank c = true ∧ c ≠ '\n'

instance : DecidablePred Padding := fun text =>
  decidable_of_iff (text.toList.all (fun c => Unicode.isBlank c && c != '\n') = true)
    (by simp [Padding])

/-- What ends a line: a line feed, or a carriage return and a line feed. -/
def IsLineEnd (text : String) : Prop := text = "\n" ∨ text = "\r\n"

instance : DecidablePred IsLineEnd := fun text =>
  inferInstanceAs (Decidable (text = "\n" ∨ text = "\r\n"))

/-- A text that lists paths in order. Each path stands on a line of its own with blanks around it,
    there are any number of lines of blanks, and the last line need not be ended. -/
inductive Lists : List String → String → Prop where
  | blanks {blanks : String} (hblanks : Padding blanks) : Lists [] blanks
  | lastPath {before path after : String} (hbefore : Padding before) (hafter : Padding after) :
    Lists [path] (before ++ path ++ after)
  | blankLine {blanks lineEnd : String} (hblanks : Padding blanks) (hend : IsLineEnd lineEnd)
    {paths : List String} {rest : String} (hrest : Lists paths rest) :
    Lists paths (blanks ++ lineEnd ++ rest)
  | pathLine {before path after lineEnd : String} (hbefore : Padding before)
    (hafter : Padding after) (hend : IsLineEnd lineEnd) {paths : List String} {rest : String}
    (hrest : Lists paths rest) :
    Lists (path :: paths) (before ++ path ++ after ++ lineEnd ++ rest)

/-! ### Blanks and line ends -/

/-- No blanks at all are blanks within a line. -/
theorem padding_empty : Padding "" := by
  simp [Padding]

/-- Blanks within a line have no line feed. -/
theorem Padding.oneLine {text : String} (h : Padding text) : '\n' ∉ text.toList :=
  fun hfeed => (h '\n' hfeed).2 rfl

/-- Blanks of two texts in a row. -/
theorem Padding.append {left right : String} (hleft : Padding left) (hright : Padding right) :
    Padding (left ++ right) := by
  intro c hc
  rw [String.toList_append, List.mem_append] at hc
  exact hc.elim (hleft c) (hright c)

/-- A carriage return before the line feed is one more blank on the line. -/
theorem Padding.append_lineEnd {after lineEnd : String} (hafter : Padding after)
    (hend : IsLineEnd lineEnd) :
    ∃ longer, Padding longer ∧ after ++ lineEnd = longer ++ "\n" := by
  rcases hend with rfl | rfl
  · exact ⟨after, hafter, rfl⟩
  · have hreturn : Padding "\r" := by decide
    exact ⟨after ++ "\r", hafter.append hreturn, by rw [String.append_assoc]; rfl⟩

/-! ### Trimmed lines -/

/-- Nothing is left of blanks. -/
theorem trim_padding {blanks : String} (h : Padding blanks) : Unicode.trim blanks = "" := by
  apply String.toList_inj.mp
  have hdrop : blanks.toList.dropWhile Unicode.isBlank = [] :=
    List.dropWhile_eq_nil_iff.mpr fun c hc => (h c hc).1
  rw [Unicode.toList_trim, hdrop]
  rfl

/-- All blanks before a text are dropped. -/
private theorem dropWhile_blanks {blanks text : List Char}
    (hblanks : ∀ c ∈ blanks, Unicode.isBlank c = true)
    (htext : ∀ c ∈ text.head?, Unicode.isBlank c = false) :
    (blanks ++ text).dropWhile Unicode.isBlank = text := by
  rw [List.dropWhile_append_of_pos hblanks]
  cases text with
  | nil => rfl
  | cons c rest =>
    have hc : ¬ Unicode.isBlank c = true := by simp [htext c rfl]
    rw [List.dropWhile_cons_of_neg hc]

/-- Text behind a text that is not empty does not change how it starts. -/
private theorem head?_append_eq {text : List Char} (h : text ≠ []) (more : List Char) :
    (text ++ more).head? = text.head? := by
  rw [List.head?_append, List.head?_eq_some_head h, Option.some_or]

/-- A path among blanks is left. -/
theorem IsEntry.trim_eq {path : String} (h : IsEntry path) {before after : String}
    (hbefore : Padding before) (hafter : Padding after) :
    Unicode.trim (before ++ path ++ after) = path := by
  have hfront : (before ++ path ++ after).toList.dropWhile Unicode.isBlank
      = path.toList ++ after.toList := by
    have hhead : ∀ c ∈ (path.toList ++ after.toList).head?, Unicode.isBlank c = false := by
      rw [head?_append_eq h.toList_ne_nil]
      exact h.head
    rw [String.toList_append, String.toList_append, List.append_assoc]
    exact dropWhile_blanks (fun c hc => (hbefore c hc).1) hhead
  have hback : (path.toList ++ after.toList).reverse.dropWhile Unicode.isBlank
      = path.toList.reverse := by
    rw [List.reverse_append]
    refine dropWhile_blanks (fun c hc => (hafter c (List.mem_reverse.mp hc)).1) ?_
    rw [List.head?_reverse]
    exact h.last
  apply String.toList_inj.mp
  rw [Unicode.toList_trim, hfront, hback, List.reverse_reverse]

/-- Every text is blanks and a text that does not start with one. -/
private theorem exists_blanks_append (text : List Char) :
    ∃ blanks rest, text = blanks ++ rest ∧ (∀ c ∈ blanks, Unicode.isBlank c = true) ∧
      ∀ c ∈ rest.head?, Unicode.isBlank c = false := by
  refine ⟨text.takeWhile Unicode.isBlank, text.dropWhile Unicode.isBlank,
    List.takeWhile_append_dropWhile.symm, fun c => List.mem_takeWhile_imp, fun c hc => ?_⟩
  have hstop := List.head?_dropWhile_not Unicode.isBlank text
  rw [Option.mem_def.mp hc] at hstop
  simpa using hstop

/-- Every text is a text that neither starts nor ends with a blank, among blanks. -/
private theorem exists_core (text : List Char) :
    ∃ front core back, text = front ++ core ++ back ∧
      (∀ c ∈ front ++ back, Unicode.isBlank c = true) ∧
      (∀ c ∈ core.head?, Unicode.isBlank c = false) ∧
      ∀ c ∈ core.getLast?, Unicode.isBlank c = false := by
  obtain ⟨front, rest, htext, hfront, hrest⟩ := exists_blanks_append text
  -- the blanks at the end are those that the rest starts with when read backwards
  obtain ⟨back, core, hrev, hback, hcore⟩ := exists_blanks_append rest.reverse
  rw [List.reverse_eq_iff, List.reverse_append] at hrev
  refine ⟨front, core.reverse, back.reverse, ?_, ?_, ?_, ?_⟩
  · rw [htext, hrev, List.append_assoc]
  · intro c hc
    rcases List.mem_append.mp hc with hc | hc
    · exact hfront c hc
    · exact hback c (List.mem_reverse.mp hc)
  · by_cases hempty : core.reverse = []
    · simp [hempty]
    · rwa [← head?_append_eq hempty back.reverse, ← hrev]
  · rwa [List.getLast?_reverse]

/-- Every line is blanks, or a path among blanks. -/
theorem exists_entry_of_line {line : String} (h : '\n' ∉ line.toList) :
    Padding line ∨ ∃ before path after, line = before ++ path ++ after ∧
      Padding before ∧ IsEntry path ∧ Padding after := by
  obtain ⟨front, core, back, hline, hblanks, hhead, hlast⟩ := exists_core line.toList
  rw [hline, List.mem_append, List.mem_append, not_or, not_or] at h
  obtain ⟨⟨hfront, hcore⟩, hback⟩ := h
  have hbefore : Padding (String.ofList front) := by
    intro c hc
    rw [String.toList_ofList] at hc
    exact ⟨hblanks c (List.mem_append_left _ hc), fun heq => hfront (heq ▸ hc)⟩
  have hafter : Padding (String.ofList back) := by
    intro c hc
    rw [String.toList_ofList] at hc
    exact ⟨hblanks c (List.mem_append_right _ hc), fun heq => hback (heq ▸ hc)⟩
  have hparts : line = String.ofList front ++ String.ofList core ++ String.ofList back := by
    apply String.toList_inj.mp
    rw [hline]
    simp
  by_cases hempty : core = []
  · left
    rw [hparts, hempty, String.ofList_nil, String.append_empty]
    exact hbefore.append hafter
  · right
    refine ⟨_, _, _, hparts, hbefore, ⟨?_, ?_, ?_, ?_⟩, hafter⟩
    · rwa [Ne, ← String.toList_inj, String.toList_ofList]
    · rwa [String.toList_ofList]
    · rwa [String.toList_ofList]
    · rwa [String.toList_ofList]

/-! ### Reading -/

/-- Two texts with a line feed between them list the paths of both. -/
theorem ofText_append (text rest : String) :
    ofText (text ++ "\n" ++ rest) = ofText text ++ ofText rest := by
  have hsplit : (text ++ "\n" ++ rest).toList.splitOn '\n'
      = text.toList.splitOn '\n' ++ rest.toList.splitOn '\n' := by
    rw [← List.splitOn_append_cons_self]
    simp
  rw [ofText, hsplit, List.map_append, List.filter_append]
  rfl

/-- One line lists what is left of it without the blanks around it. -/
theorem ofText_line {line : String} (h : '\n' ∉ line.toList) :
    ofText line = [Unicode.trim line].filter (· != "") := by
  rw [ofText, List.splitOn_eq_singleton h, List.map_singleton, String.ofList_toList]

/-- A line of blanks lists nothing. -/
theorem ofText_padding {blanks : String} (h : Padding blanks) : ofText blanks = [] := by
  rw [ofText_line h.oneLine, trim_padding h]
  rfl

/-- A line with a path lists it. -/
theorem ofText_entry {path : String} (h : IsEntry path) {before after : String}
    (hbefore : Padding before) (hafter : Padding after) :
    ofText (before ++ path ++ after) = [path] := by
  have hline : '\n' ∉ (before ++ path ++ after).toList := by
    simp [hbefore.oneLine, h.oneLine, hafter.oneLine]
  rw [ofText_line hline, h.trim_eq hbefore hafter]
  simp [h.ne_empty]

/-- **The paths that are listed are those that are read.** -/
theorem Lists.ofText_eq {paths : List String} {text : String} (h : Lists paths text)
    (hpaths : ∀ path ∈ paths, IsEntry path) : ofText text = paths := by
  -- both line ends are a line feed, behind blanks of which the last may be a carriage return
  induction h with
  | blanks hblanks => exact ofText_padding hblanks
  | lastPath hbefore hafter => exact ofText_entry (hpaths _ (by simp)) hbefore hafter
  | blankLine hblanks hend hrest ih =>
    obtain ⟨longer, hlonger, hline⟩ := hblanks.append_lineEnd hend
    rw [hline, ofText_append, ofText_padding hlonger, List.nil_append, ih hpaths]
  | @pathLine before path after lineEnd hbefore hafter hend paths rest hrest ih =>
    obtain ⟨hpath, hlater⟩ := List.forall_mem_cons.mp hpaths
    obtain ⟨longer, hlonger, hend⟩ := hafter.append_lineEnd hend
    have hline : before ++ path ++ after ++ lineEnd = before ++ path ++ longer ++ "\n" := by
      rw [String.append_assoc, hend, ← String.append_assoc]
    rw [hline, ofText_append, ofText_entry hpath hbefore hlonger, ih hlater, List.singleton_append]

/-- **Every text lists some paths.** -/
theorem exists_lists (text : String) :
    ∃ paths, (∀ path ∈ paths, IsEntry path) ∧ Lists paths text := by
  by_cases hfeed : '\n' ∈ text.toList
  · -- the first line, and what the shorter text behind it lists
    obtain ⟨line, rest, hsplit, hline⟩ := List.eq_append_cons_of_mem hfeed
    have htext : text = String.ofList line ++ "\n" ++ String.ofList rest := by
      apply String.toList_inj.mp
      rw [hsplit]
      simp
    have hshorter : rest.length < text.length := by
      rw [← String.length_toList, hsplit, List.length_append, List.length_cons]
      omega
    obtain ⟨paths, hpaths, hlists⟩ := exists_lists (String.ofList rest)
    rw [← String.toList_ofList (l := line)] at hline
    rcases exists_entry_of_line hline with hblanks | ⟨before, path, after, hparts, hbefore, hpath,
      hafter⟩
    · exact ⟨paths, hpaths, htext ▸ .blankLine hblanks (.inl rfl) hlists⟩
    · rw [hparts] at htext
      exact ⟨path :: paths, List.forall_mem_cons.mpr ⟨hpath, hpaths⟩,
        htext ▸ .pathLine hbefore hafter (.inl rfl) hlists⟩
  · rcases exists_entry_of_line hfeed with hblanks | ⟨before, path, after, rfl, hbefore, hpath,
      hafter⟩
    · exact ⟨[], by simp, .blanks hblanks⟩
    · exact ⟨[path], by simpa using hpath, .lastPath hbefore hafter⟩
termination_by text.length

/-- **What is read are the paths that the text lists.** -/
theorem ofText_eq_iff {text : String} {paths : List String} :
    ofText text = paths ↔ (∀ path ∈ paths, IsEntry path) ∧ Lists paths text := by
  constructor
  · intro h
    obtain ⟨listed, hentries, hlists⟩ := exists_lists text
    rw [← h, hlists.ofText_eq hentries]
    exact ⟨hentries, hlists⟩
  · rintro ⟨hentries, hlists⟩
    exact hlists.ofText_eq hentries

/-- Paths with line feeds between them are a text that lists them. -/
theorem lists_intercalate (paths : List String) :
    Lists paths (String.intercalate "\n" paths) := by
  induction paths with
  | nil => exact .blanks padding_empty
  | cons path paths ih =>
    cases paths with
    | nil =>
      have hlast : Lists [path] ("" ++ path ++ "") := .lastPath padding_empty padding_empty
      rwa [String.empty_append, String.append_empty] at hlast
    | cons next paths =>
      have hline : Lists (path :: next :: paths)
          ("" ++ path ++ "" ++ "\n" ++ String.intercalate "\n" (next :: paths)) :=
        .pathLine padding_empty padding_empty (.inl rfl) ih
      rwa [String.empty_append, String.append_empty, ← String.intercalate_cons_cons] at hline

/-- Paths are read from the bytes of a text. -/
theorem read_eq_some_iff {input : ByteArray} {paths : List String} :
    read [] input = some paths ↔ ∃ text, input = text.toUTF8 ∧ ofText text = paths := by
  rw [read, List.isEmpty_nil, if_pos rfl, Option.map_eq_some_iff, String.fromUTF8?]
  constructor
  · rintro ⟨text, htext, rfl⟩
    obtain ⟨hvalid, htext⟩ := Option.dite_none_right_eq_some.mp htext
    cases htext
    exact ⟨_, rfl, rfl⟩
  · rintro ⟨text, rfl, rfl⟩
    exact ⟨text, dif_pos text.isValidUTF8, rfl⟩

/-- **Reading a list recovers it.** Paths are read from bytes exactly if these are a text that lists
    them, and they can stand in a list: so nothing is split, merged or left out, whatever blanks and
    line ends there are. Every text has such paths, and they are read again from the text that has
    them with line feeds between them. -/
theorem read_lists :
    (∀ (input : ByteArray) (paths : List String), read [] input = some paths ↔
        (∀ path ∈ paths, IsEntry path) ∧ ∃ text, input = text.toUTF8 ∧ Lists paths text) ∧
      ∀ text : String, ∃ paths, read [] text.toUTF8 = some paths ∧
        (∀ path ∈ paths, IsEntry path) ∧
        read [] (String.intercalate "\n" paths).toUTF8 = some paths := by
  constructor
  · intro input paths
    rw [read_eq_some_iff]
    constructor
    · rintro ⟨text, hinput, htext⟩
      obtain ⟨hentries, hlists⟩ := ofText_eq_iff.mp htext
      exact ⟨hentries, text, hinput, hlists⟩
    · rintro ⟨hentries, text, hinput, hlists⟩
      exact ⟨text, hinput, ofText_eq_iff.mpr ⟨hentries, hlists⟩⟩
  · intro text
    obtain ⟨hentries, -⟩ := ofText_eq_iff.mp (rfl : ofText text = ofText text)
    refine ⟨ofText text, read_eq_some_iff.mpr ⟨text, rfl, rfl⟩, hentries, ?_⟩
    exact read_eq_some_iff.mpr
      ⟨_, rfl, ofText_eq_iff.mpr ⟨hentries, lists_intercalate (ofText text)⟩⟩

/-- Blanks of all kinds, a blank line, both line ends, and a last line that is not ended. -/
example : ofText "\u3000a b.vue \r\r\n\u0085\n\tc.vue\n[id].vue"
    = ["a b.vue", "c.vue", "[id].vue"] := by
  decide +kernel

end FileRoutes.FileList
