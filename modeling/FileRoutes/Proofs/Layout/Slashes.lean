import FileRoutes.Proofs.Layout.Match
import Mathlib.Data.List.Chain

namespace FileRoutes

open Segment

/-!
# Layouts — the slashes of gathered paths

A path has a doubled slash only where a slash was written for an index at its very start and other
segments followed.

* `Path.SingleSlashes` — no two slashes in a row;
* `Pending.Clean` — paths to which any segments may be added (`Pending.Clean.walk`);
* `IndexFolderFirst` — the segments that start with an index and go on with others;
* `Pending.path_walk_of_indexFolderFirst`, `Pending.path_walk_of_not` — what a path looks like that
  starts anew: with two slashes in the one case, clean or a lone slash in the other.
-/

/-- No two slashes stand in a row. -/
def Path.SingleSlashes (path : String) : Prop := ¬ ['/', '/'] <:+: path.toList

/-- Two characters that may stand in a row. -/
private def MayFollow (a b : Char) : Prop := ¬ (a = '/' ∧ b = '/')

/-- Slashes are single where any two characters in a row may be so. -/
private theorem singleSlashes_iff_isChain {path : String} :
    Path.SingleSlashes path ↔ path.toList.IsChain MayFollow := by
  rw [List.isChain_iff_forall_rel_of_append_cons_cons]
  constructor
  · rintro h a b front back hlist ⟨rfl, rfl⟩
    exact h ⟨front, back, by rw [hlist]; simp⟩
  · rintro h ⟨front, back, hlist⟩
    have hpair : path.toList = front ++ '/' :: '/' :: back := by
      rw [← hlist]
      simp
    exact h hpair ⟨rfl, rfl⟩

/-- The empty path has no slashes at all. -/
theorem Path.singleSlashes_empty : Path.SingleSlashes "" := by
  rw [singleSlashes_iff_isChain]
  exact List.IsChain.nil

/-- A part of a path with single slashes has single slashes. -/
theorem Path.SingleSlashes.of_infix {path part : String} (h : Path.SingleSlashes path)
    (hpart : part.toList <:+: path.toList) : Path.SingleSlashes part :=
  fun hdouble => h (hdouble.trans hpart)

/-- A text without slashes has single slashes. -/
private theorem isChain_of_slash_not_mem {text : List Char} (h : '/' ∉ text) :
    text.IsChain MayFollow := by
  rw [List.isChain_iff_forall_rel_of_append_cons_cons]
  rintro a b front back rfl ⟨rfl, -⟩
  exact h (by simp)

/-! ### Clean paths -/

/-- The path gathered so far is tidy and has single slashes. -/
structure Pending.Clean (pending : Pending) : Prop extends pending.Tidy where
  singleSlashes : Path.SingleSlashes pending.path

/-- The empty path is clean. -/
theorem Pending.clean_of_empty {pending : Pending} (h : pending.path = "") : pending.Clean where
  rooted := .inl h
  noTrailingSlash := by simp [h]
  singleSlashes := by
    rw [h]
    exact Path.singleSlashes_empty

/-- A clean path stays clean with one more segment that is no index. -/
theorem Pending.Clean.next {pending : Pending} (h : pending.Clean) {tokens : List Token}
    (htokens : Proper tokens) (hindex : Segment.name tokens ≠ "index") :
    (pending.next tokens).Clean where
  toTidy := h.toTidy.next htokens hindex
  singleSlashes := by
    rw [Pending.path_next hindex, singleSlashes_iff_isChain, String.toList_append,
      List.isChain_append]
    refine ⟨singleSlashes_iff_isChain.mp h.singleSlashes, ?_, ?_⟩
    · rw [pattern_eq_append_body, String.toList_append]
      show ('/' :: (body tokens).toList).IsChain MayFollow
      rw [List.isChain_cons]
      refine ⟨?_, isChain_of_slash_not_mem htokens.slash_not_mem_body⟩
      rintro c hc ⟨-, rfl⟩
      exact htokens.slash_not_mem_body (List.mem_of_mem_head? hc)
    · rintro c hc d - ⟨rfl, -⟩
      exact h.noTrailingSlash hc

/-- A clean path that is not empty stays clean with any segments. -/
theorem Pending.Clean.walk {pending : Pending} (h : pending.Clean) (hne : pending.path ≠ "")
    {lists : List (List Token)} (hlists : ∀ tokens ∈ lists, Proper tokens) :
    (pending.walk lists).Clean := by
  induction lists generalizing pending with
  | nil => exact h
  | cons tokens lists ih =>
    have htokens := hlists tokens (by simp)
    have hnext : (pending.next tokens).Clean := by
      by_cases hindex : Segment.name tokens = "index"
      · have hsame := Pending.path_next_index hindex hne
        refine ⟨⟨?_, ?_⟩, ?_⟩
        · rw [Pending.Rooted, hsame]
          exact h.rooted
        · rw [hsame]
          exact h.noTrailingSlash
        · rw [hsame]
          exact h.singleSlashes
      · exact h.next htokens hindex
    exact ih hnext (pending.path_next_ne_empty tokens) fun t ht =>
      hlists t (List.mem_cons_of_mem _ ht)

/-- A clean path that is not empty starts with one slash, and something follows. -/
theorem Pending.Clean.path_eq {pending : Pending} (h : pending.Clean) (hne : pending.path ≠ "") :
    ∃ c rest, c ≠ '/' ∧ pending.path.toList = '/' :: c :: rest := by
  obtain ⟨tail, htail⟩ := List.head?_eq_some_iff.mp (h.rooted.resolve_left hne)
  cases tail with
  | nil =>
    exfalso
    apply h.noTrailingSlash
    rw [htail]
    rfl
  | cons c rest =>
    refine ⟨c, rest, ?_, htail⟩
    rintro rfl
    exact h.singleSlashes ⟨[], rest, by rw [htail]; rfl⟩

/-! ### Paths that start anew -/

/-- The segments start with an index and do not all have that name. -/
def IndexFolderFirst (lists : List (List Token)) : Prop :=
  (lists.map Segment.name).head? = some "index" ∧ ∃ tokens ∈ lists, Segment.name tokens ≠ "index"

/-- Segments that are all an index leave a path that is not empty as it is. -/
theorem Pending.path_walk_index {pending : Pending} (hne : pending.path ≠ "")
    {lists : List (List Token)} (h : ∀ tokens ∈ lists, Segment.name tokens = "index") :
    (pending.walk lists).path = pending.path := by
  induction lists generalizing pending with
  | nil => rfl
  | cons tokens lists ih =>
    rw [Pending.walk_cons, ih (pending.path_next_ne_empty tokens) fun t ht =>
      h t (List.mem_cons_of_mem _ ht)]
    exact Pending.path_next_index (h tokens (by simp)) hne

/-- More segments only add to a path that is not empty. -/
theorem Pending.isPrefix_path_walk {pending : Pending} (hne : pending.path ≠ "")
    (lists : List (List Token)) :
    pending.path.toList <+: (pending.walk lists).path.toList := by
  induction lists generalizing pending with
  | nil => exact List.prefix_refl _
  | cons tokens lists ih =>
    refine List.IsPrefix.trans ?_ (ih (pending.path_next_ne_empty tokens))
    by_cases hindex : Segment.name tokens = "index"
    · exact ⟨[], by rw [Pending.path_next_index hindex hne, List.append_nil]⟩
    · rw [Pending.path_next hindex, String.toList_append]
      exact List.prefix_append _ _

/-- A path that is not empty is not with more segments. -/
theorem Pending.path_walk_ne_empty {pending : Pending} (hne : pending.path ≠ "")
    (lists : List (List Token)) : (pending.walk lists).path ≠ "" := by
  intro heq
  have hstarts := Pending.isPrefix_path_walk hne lists
  rw [heq] at hstarts
  exact hne (String.toList_inj.mp (List.prefix_nil.mp hstarts))

/-- After a lone slash, a segment that is no index makes it two. -/
private theorem isPrefix_path_walk_of_slash {pending : Pending} (hslash : pending.path = "/")
    {lists : List (List Token)} (h : ∃ tokens ∈ lists, Segment.name tokens ≠ "index") :
    ['/', '/'] <+: (pending.walk lists).path.toList := by
  induction lists generalizing pending with
  | nil =>
    obtain ⟨_, hmem, -⟩ := h
    cases hmem
  | cons tokens lists ih =>
    have hne : pending.path ≠ "" := by
      rw [hslash]
      decide
    by_cases hindex : Segment.name tokens = "index"
    · apply ih ((Pending.path_next_index hindex hne).trans hslash)
      obtain ⟨other, hother, hother_ne⟩ := h
      rcases List.mem_cons.mp hother with rfl | hother
      · exact absurd hindex hother_ne
      · exact ⟨other, hother, hother_ne⟩
    · refine List.IsPrefix.trans ?_
        (Pending.isPrefix_path_walk (pending.path_next_ne_empty tokens) lists)
      rw [Pending.path_next hindex, hslash, String.toList_append, toList_pattern]
      exact ⟨tokens.flatMap (·.pattern.toList), rfl⟩

/-- **An index folder at the start doubles the slash.** -/
theorem Pending.path_walk_of_indexFolderFirst {pending : Pending} (hempty : pending.path = "")
    {lists : List (List Token)} (h : IndexFolderFirst lists) :
    ['/', '/'] <+: (pending.walk lists).path.toList := by
  obtain ⟨hhead, tokens, hmem, hne⟩ := h
  cases lists with
  | nil => cases hmem
  | cons first rest =>
    have hindex : Segment.name first = "index" := Option.some.inj hhead
    apply isPrefix_path_walk_of_slash (Pending.path_next_index_of_empty hindex hempty)
    rcases List.mem_cons.mp hmem with rfl | hmem
    · exact absurd hindex hne
    · exact ⟨tokens, hmem, hne⟩

/-- **Otherwise a path that starts anew is fine.** It is a lone slash, or clean and not empty. -/
theorem Pending.path_walk_of_not {pending : Pending} (hempty : pending.path = "")
    {lists : List (List Token)} (hlists : ∀ tokens ∈ lists, Proper tokens) (hne : lists ≠ [])
    (h : ¬ IndexFolderFirst lists) :
    (pending.walk lists).path = "/" ∨
      ((pending.walk lists).Clean ∧ (pending.walk lists).path ≠ "") := by
  obtain ⟨first, rest, rfl⟩ := List.exists_cons_of_ne_nil hne
  by_cases hindex : Segment.name first = "index"
  · left
    have hall : ∀ tokens ∈ rest, Segment.name tokens = "index" := by
      intro tokens ht
      by_contra hother
      exact h ⟨by rw [List.map_cons, hindex]; rfl, tokens, List.mem_cons_of_mem _ ht, hother⟩
    rw [Pending.walk_cons, Pending.path_walk_index (pending.path_next_ne_empty first) hall,
      Pending.path_next_index_of_empty hindex hempty]
  · right
    have hclean := (Pending.clean_of_empty hempty).next (hlists first (by simp)) hindex
    have hrest := fun t ht => hlists t (List.mem_cons_of_mem first ht)
    exact ⟨hclean.walk (pending.path_next_ne_empty first) hrest,
      Pending.path_walk_ne_empty (pending.path_next_ne_empty first) rest⟩

end FileRoutes
