import FileRoutes.Layout
import FileRoutes.Proofs.Segment.Component

namespace FileRoutes

open Segment

/-!
# Layouts — what a route has gathered from its segments

A route that passes several segments without entering a layout gathers their names and patterns.
Both texts are taken apart into components, where each segment adds at most one:

* `Pending.walk` — a route after several segments, and `Pending.nested`, one that goes on below a
  layout;
* `Pending.nameParts_walk` — each segment adds its name, so that the name of a route tells the
  names of its segments (`Pending.map_name_of_walk_name`);
* `Pending.components_path_walk` — each segment but `index` adds its body.
-/

/-- A route with one more segment that leads to no layout. -/
def Pending.next (pending : Pending) (tokens : List Token) : Pending :=
  ⟨pending.nextName tokens, pending.nextPath tokens⟩

/-- A route with more segments that lead to no layout. -/
def Pending.walk (pending : Pending) (lists : List (List Token)) : Pending :=
  lists.foldl Pending.next pending

/-- Unfolding lemma: no segment adds nothing. -/
@[simp] theorem Pending.walk_nil (pending : Pending) : pending.walk [] = pending := rfl

/-- Unfolding lemma: segments are gathered from the first on. -/
@[simp] theorem Pending.walk_cons (pending : Pending) (tokens : List Token)
    (lists : List (List Token)) :
    pending.walk (tokens :: lists) = (pending.next tokens).walk lists := rfl

/-- Segments are gathered one part after the other. -/
theorem Pending.walk_append (pending : Pending) (front back : List (List Token)) :
    pending.walk (front ++ back) = (pending.walk front).walk back :=
  List.foldl_append

/-! ### Names -/

/-- The components of the name gathered so far, none if it is empty. -/
def Pending.nameParts (pending : Pending) : List String :=
  if pending.name = "" then [] else Path.components pending.name

/-- A segment adds its name. -/
theorem Pending.nameParts_next {pending : Pending} {tokens : List Token} (h : Proper tokens) :
    (pending.next tokens).nameParts = pending.nameParts ++ [Segment.name tokens] := by
  have hname := h.name_ne_empty
  have hcomponents := Path.components_eq_singleton h.slash_not_mem_name
  unfold Pending.nameParts Pending.next Pending.nextName
  by_cases hp : pending.name = ""
  · simp [hp, hname, hcomponents]
  · have hne : pending.name ++ "/" ++ Segment.name tokens ≠ "" := by
      intro heq
      rw [← String.toList_inj] at heq
      simp at heq
    simp only [hp, if_false, hne]
    rw [Path.components_append, hcomponents]

/-- Segments add their names. -/
theorem Pending.nameParts_walk {pending : Pending} {lists : List (List Token)}
    (h : ∀ tokens ∈ lists, Proper tokens) :
    (pending.walk lists).nameParts = pending.nameParts ++ lists.map Segment.name := by
  induction lists generalizing pending with
  | nil => simp
  | cons tokens lists ih =>
    rw [Pending.walk_cons, ih fun t ht => h t (List.mem_cons_of_mem _ ht),
      Pending.nameParts_next (h tokens (by simp))]
    simp

/-- The name gathered does not depend on the path. -/
theorem Pending.walk_name_eq {left right : Pending} (h : left.name = right.name)
    (lists : List (List Token)) : (left.walk lists).name = (right.walk lists).name := by
  induction lists generalizing left right with
  | nil => exact h
  | cons tokens lists ih =>
    apply ih
    simp [Pending.next, Pending.nextName, h]

/-- A route that goes on below the layout that one more segment leads to. -/
def Pending.nested (pending : Pending) (tokens : List Token) : Pending :=
  ⟨pending.nextName tokens, ""⟩

/-- Below a layout the same name is gathered as beside it. -/
theorem Pending.name_walk_nested (pending : Pending) (tokens : List Token)
    (lists : List (List Token)) :
    ((pending.nested tokens).walk lists).name = ((pending.next tokens).walk lists).name := by
  apply Pending.walk_name_eq
  rfl

/-- **The name of a route tells the names of its segments.** -/
theorem Pending.map_name_of_walk_name {pending : Pending} {left right : List (List Token)}
    (hleft : ∀ tokens ∈ left, Proper tokens) (hright : ∀ tokens ∈ right, Proper tokens)
    (h : (pending.walk left).name = (pending.walk right).name) :
    left.map Segment.name = right.map Segment.name := by
  have hparts : (pending.walk left).nameParts = (pending.walk right).nameParts := by
    unfold Pending.nameParts
    rw [h]
  rw [Pending.nameParts_walk hleft, Pending.nameParts_walk hright] at hparts
  exact List.append_cancel_left hparts

/-- The name of a route tells how many segments it was gathered from. -/
theorem Pending.length_eq_of_walk_name {pending : Pending} {left right : List (List Token)}
    (hleft : ∀ tokens ∈ left, Proper tokens) (hright : ∀ tokens ∈ right, Proper tokens)
    (h : (pending.walk left).name = (pending.walk right).name) : left.length = right.length := by
  have hnames := Pending.map_name_of_walk_name hleft hright h
  rw [← List.length_map Segment.name, hnames, List.length_map]

/-! ### Paths -/

/-- The bodies of the segments that are not an index. -/
def bodies (lists : List (List Token)) : List String :=
  (lists.filter fun tokens => Segment.name tokens != "index").map body

/-- Unfolding lemma: an index adds no body. -/
theorem bodies_cons_index {tokens : List Token} (h : Segment.name tokens = "index")
    (lists : List (List Token)) : bodies (tokens :: lists) = bodies lists := by
  simp [bodies, h]

/-- Unfolding lemma: every other segment adds its body. -/
theorem bodies_cons {tokens : List Token} (h : Segment.name tokens ≠ "index")
    (lists : List (List Token)) : bodies (tokens :: lists) = body tokens :: bodies lists := by
  simp [bodies, h]

/-- Unfolding lemma: the bodies of two rows of segments. -/
theorem bodies_append (front back : List (List Token)) :
    bodies (front ++ back) = bodies front ++ bodies back := by
  simp [bodies]

/-- How many bodies there are is known from the names. -/
theorem length_bodies_of_map_name {left right : List (List Token)}
    (h : left.map Segment.name = right.map Segment.name) :
    (bodies left).length = (bodies right).length := by
  have hcount : ∀ lists : List (List Token),
      (bodies lists).length = ((lists.map Segment.name).filter (· != "index")).length := by
    intro lists
    simp [bodies, List.filter_map, Function.comp_def]
  rw [hcount, hcount, h]

/-- A segment that is no index adds its pattern to the path. -/
theorem Pending.path_next {pending : Pending} {tokens : List Token}
    (hindex : Segment.name tokens ≠ "index") :
    (pending.next tokens).path = pending.path ++ pattern tokens := by
  show pending.nextPath tokens = _
  rw [Pending.nextPath, if_neg hindex]

/-- An index leaves a path that is not empty as it is. -/
theorem Pending.path_next_index {pending : Pending} {tokens : List Token}
    (hindex : Segment.name tokens = "index") (hne : pending.path ≠ "") :
    (pending.next tokens).path = pending.path := by
  show pending.nextPath tokens = _
  rw [Pending.nextPath, if_pos hindex, if_neg hne]

/-- An index at the very start is written as a slash. -/
theorem Pending.path_next_index_of_empty {pending : Pending} {tokens : List Token}
    (hindex : Segment.name tokens = "index") (hempty : pending.path = "") :
    (pending.next tokens).path = "/" := by
  show pending.nextPath tokens = _
  rw [Pending.nextPath, if_pos hindex, if_pos hempty]

/-- A path is not empty once it has gathered a segment. -/
theorem Pending.path_next_ne_empty (pending : Pending) (tokens : List Token) :
    (pending.next tokens).path ≠ "" := by
  by_cases hindex : Segment.name tokens = "index"
  · by_cases hempty : pending.path = ""
    · rw [Pending.path_next_index_of_empty hindex hempty]
      decide
    · rw [Pending.path_next_index hindex hempty]
      exact hempty
  · rw [Pending.path_next hindex]
    intro h
    rw [← String.toList_inj] at h
    simp at h

/-- A path that is not empty goes on with the bodies of further segments. -/
theorem Pending.components_path_walk_of_ne {pending : Pending} (hne : pending.path ≠ "")
    {lists : List (List Token)} (h : ∀ tokens ∈ lists, Proper tokens) :
    Path.components (pending.walk lists).path
      = Path.components pending.path ++ bodies lists := by
  induction lists generalizing pending with
  | nil => simp [bodies]
  | cons tokens lists ih =>
    rw [Pending.walk_cons, ih (pending.path_next_ne_empty tokens)
      fun t ht => h t (List.mem_cons_of_mem _ ht)]
    by_cases hindex : Segment.name tokens = "index"
    · rw [Pending.path_next_index hindex hne, bodies_cons_index hindex]
    · rw [Pending.path_next hindex, pattern_eq_append_body, ← String.append_assoc,
        Path.components_append,
        Path.components_eq_singleton (h tokens (by simp)).slash_not_mem_body, bodies_cons hindex]
      simp

/-- The components that come before the bodies of segments: those of the path so far, or those of
    the slash that an index at the very start is written as. -/
def Pending.origin (pending : Pending) (lists : List (List Token)) : List String :=
  if pending.path ≠ "" then Path.components pending.path
  else if (lists.map Segment.name).head? = some "index" then ["", ""] else [""]

/-- **The path of a route tells the bodies of its segments.** -/
theorem Pending.components_path_walk (pending : Pending) {lists : List (List Token)}
    (hlists : lists ≠ []) (h : ∀ tokens ∈ lists, Proper tokens) :
    Path.components (pending.walk lists).path = pending.origin lists ++ bodies lists := by
  by_cases hne : pending.path ≠ ""
  · rw [Pending.components_path_walk_of_ne hne h, Pending.origin, if_pos hne]
  · obtain ⟨tokens, lists, rfl⟩ := List.exists_cons_of_ne_nil hlists
    have hempty : pending.path = "" := Decidable.not_not.mp hne
    rw [Pending.walk_cons, Pending.components_path_walk_of_ne (pending.path_next_ne_empty tokens)
      fun t ht => h t (List.mem_cons_of_mem _ ht), Pending.origin, if_neg hne]
    by_cases hindex : Segment.name tokens = "index"
    · have hslash : Path.components "/" = ["", ""] := by decide +kernel
      rw [Pending.path_next_index_of_empty hindex hempty, bodies_cons_index hindex, hslash]
      simp [hindex]
    · rw [Pending.path_next hindex, hempty, pattern_eq_append_body, ← String.append_assoc,
        Path.components_append,
        Path.components_eq_singleton (h tokens (by simp)).slash_not_mem_body, bodies_cons hindex]
      simp [hindex]

/-- What comes before the bodies is known from the names. -/
theorem Pending.origin_eq_of_map_name (pending : Pending) {left right : List (List Token)}
    (h : left.map Segment.name = right.map Segment.name) :
    pending.origin left = pending.origin right := by
  unfold Pending.origin
  rw [h]

end FileRoutes
