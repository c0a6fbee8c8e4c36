import FileRoutes.Proofs.Layout.Walk
import FileRoutes.Proofs.Mount

namespace FileRoutes

open Segment

/-!
# Layouts — which segments lead to a layout

A layout is found by two texts alone, its name and its path. Together they tell the segments
that lead to it:

* `Pending.layoutPath_eq_path_next` — the path looked for is the one that a page of the same
  segments has, unless the path so far ends in a slash;
* `Pending.Tidy` — the paths that do not end in one, which stay so where no index is gathered;
* `Pending.length_components_layoutPath` — in that case it has fewer components than any page;
* `Pending.eq_of_layout` — a page with the name and the path looked for has the segments that
  lead there, where every index is the literal one.
-/

/-! ### Paths from the root -/

/-- The path gathered so far is empty or starts with a slash. -/
def Pending.Rooted (pending : Pending) : Prop :=
  pending.path = "" ∨ pending.path.toList.head? = some '/'

/-- A pattern starts with a slash. -/
@[simp] theorem head?_pattern (tokens : List Token) :
    (pattern tokens).toList.head? = some '/' := by
  simp

/-- One more segment keeps a path at the root. -/
theorem Pending.Rooted.next {pending : Pending} (h : pending.Rooted) (tokens : List Token) :
    (pending.next tokens).Rooted := by
  right
  by_cases hempty : pending.path = ""
  · by_cases hindex : Segment.name tokens = "index"
    · simp [Pending.path_next_index_of_empty hindex hempty]
    · simp [Pending.path_next hindex, hempty]
  · have hhead := h.resolve_left hempty
    by_cases hindex : Segment.name tokens = "index"
    · simp [Pending.path_next_index hindex hempty, hhead]
    · simp [Pending.path_next hindex, hhead]

/-- More segments keep a path at the root. -/
theorem Pending.Rooted.walk {pending : Pending} (h : pending.Rooted)
    (lists : List (List Token)) : (pending.walk lists).Rooted := by
  induction lists generalizing pending with
  | nil => exact h
  | cons tokens lists ih => exact ih (h.next tokens)

/-- A path at the root is not changed by putting it there, unless it is empty. -/
theorem Url.rooted_eq_self {piece : String} (h : piece.toList.head? = some '/') :
    Url.rooted piece = piece := by
  rw [Url.rooted, if_pos h]

/-! ### The path looked for -/

/-- The pattern of a segment adds something to a path. -/
theorem Url.addsNothing_pattern {tokens : List Token} (h : Proper tokens) :
    Url.addsNothing (pattern tokens) = false := by
  have hbody : (body tokens).toList ≠ [] := by
    intro hnil
    exact h.body_ne_empty (String.toList_inj.mp hnil)
  have hlist : (pattern tokens).toList = '/' :: (body tokens).toList := by simp
  have hempty : pattern tokens ≠ "" := by
    intro heq
    rw [heq] at hlist
    exact absurd hlist (by simp)
  have hslash : pattern tokens ≠ "/" := by
    intro heq
    rw [heq] at hlist
    exact hbody (List.cons.inj hlist).2.symm
  simp [Url.addsNothing, hempty, hslash]

/-- A pattern is joined to a path without its own slash. -/
theorem Url.join_pattern {tokens : List Token} (h : Proper tokens) {base : String}
    (hbase : base ≠ "") :
    Url.join base (pattern tokens) = Url.withTrailingSlash base ++ body tokens := by
  have hrelative : Url.relative (pattern tokens) = body tokens := by
    rw [Url.relative, toList_pattern]
    apply String.toList_inj.mp
    simp
  rw [Url.join, Url.addsNothing_pattern h, if_neg Bool.false_ne_true, if_neg hbase, hrelative]

/-- The path of the layout that a segment would lead to goes on with its pattern, unless the path so
    far ends in a slash, or the pattern is read as a folder. -/
theorem Pending.layoutPath_eq_append {pending : Pending} (hroot : pending.Rooted)
    (hend : pending.path.toList.getLast? ≠ some '/') {tokens : List Token} (h : Proper tokens)
    (hpattern : pattern tokens ≠ "/index") :
    pending.layoutPath tokens = pending.path ++ pattern tokens := by
  unfold Pending.layoutPath
  rw [h.collapseIndex_pattern hpattern]
  by_cases hempty : pending.path = ""
  · rw [hempty, Url.join, Url.addsNothing_pattern h, if_neg Bool.false_ne_true, if_pos rfl,
      String.empty_append]
    exact Url.rooted_eq_self (head?_pattern tokens)
  · have hhead := hroot.resolve_left hempty
    rw [Url.join_pattern h hempty, Url.withTrailingSlash, if_neg hend, String.append_assoc,
      ← pattern_eq_append_body]
    exact Url.rooted_eq_self (by simp [hhead])

/-- **The layout path is the page path.** The path of the layout that a segment would lead to is
    the path of the page there, unless the path so far ends in a slash. -/
theorem Pending.layoutPath_eq_path_next {pending : Pending} (hroot : pending.Rooted)
    (hend : pending.path.toList.getLast? ≠ some '/') {tokens : List Token} (h : Proper tokens)
    (hindex : Segment.name tokens ≠ "index") :
    pending.layoutPath tokens = (pending.next tokens).path := by
  rw [Pending.layoutPath_eq_append hroot hend h (h.pattern_ne_index hindex),
    Pending.path_next hindex]

/-- A path that ends in a slash is looked for without a second one. -/
theorem Pending.layoutPath_of_trailing {pending : Pending} (hroot : pending.Rooted)
    (hend : pending.path.toList.getLast? = some '/') {tokens : List Token} (h : Proper tokens)
    (hpattern : pattern tokens ≠ "/index") :
    pending.layoutPath tokens = pending.path ++ body tokens := by
  have hempty : pending.path ≠ "" := by
    intro heq
    rw [heq] at hend
    simp at hend
  have hhead := hroot.resolve_left hempty
  unfold Pending.layoutPath
  rw [h.collapseIndex_pattern hpattern, Url.join_pattern h hempty, Url.withTrailingSlash,
    if_pos hend]
  exact Url.rooted_eq_self (by simp [hhead])

/-- The path gathered so far is empty, or starts with a slash and does not end in one. -/
structure Pending.Tidy (pending : Pending) : Prop where
  rooted : pending.Rooted
  noTrailingSlash : pending.path.toList.getLast? ≠ some '/'

/-- The path of a tidy mount is tidy. -/
theorem Mount.Tidy.start {mount : Mount} (h : mount.Tidy) : (Pending.start mount).Tidy :=
  ⟨h.made.rooted, h.noTrailingSlash⟩

/-- A path that starts anew below a layout is tidy. -/
theorem Pending.Tidy.nested (pending : Pending) (tokens : List Token) :
    (pending.nested tokens).Tidy :=
  ⟨.inl rfl, by simp [Pending.nested]⟩

/-- A tidy path stays tidy with one more segment that is no index. -/
theorem Pending.Tidy.next {pending : Pending} (h : pending.Tidy) {tokens : List Token}
    (htokens : Proper tokens) (hindex : Segment.name tokens ≠ "index") :
    (pending.next tokens).Tidy where
  rooted := h.rooted.next tokens
  noTrailingSlash := by
    have hbody : (body tokens).toList ≠ [] := fun hnil =>
      htokens.body_ne_empty (String.toList_inj.mp hnil)
    rw [Pending.path_next hindex, pattern_eq_append_body, String.toList_append,
      String.toList_append, List.getLast?_append, List.getLast?_append,
      List.getLast?_eq_some_getLast hbody, Option.some_or, Option.some_or]
    intro hlast
    apply htokens.slash_not_mem_body
    rw [← Option.some.inj hlast]
    exact List.getLast_mem hbody

/-- The layout path of a segment that is no index is the page path, if the path so far is tidy. -/
theorem Pending.Tidy.layoutPath_eq {pending : Pending} (h : pending.Tidy) {tokens : List Token}
    (htokens : Proper tokens) (hindex : Segment.name tokens ≠ "index") :
    pending.layoutPath tokens = (pending.next tokens).path :=
  Pending.layoutPath_eq_path_next h.rooted h.noTrailingSlash htokens hindex

/-- Every index is the literal one, and no parameter that happens to have its name. -/
def Segment.IndexIsLiteral (tokens : List Token) : Prop :=
  Segment.name tokens = "index" → tokens = [⟨.literal, "index"⟩]

/-- The layout path of the literal index is the page path as well. -/
theorem Pending.layoutPath_index {pending : Pending} (hroot : pending.Rooted) :
    pending.layoutPath [⟨.literal, "index"⟩] = (pending.next [⟨.literal, "index"⟩]).path := by
  have hcollapse : Url.collapseIndex (pattern [⟨.literal, "index"⟩]) = "/" := by decide +kernel
  have hname : Segment.name [⟨.literal, "index"⟩] = "index" := by decide +kernel
  unfold Pending.layoutPath
  rw [hcollapse, Url.join_slash]
  by_cases hempty : pending.path = ""
  · rw [Pending.path_next_index_of_empty hname hempty, hempty]
    decide +kernel
  · rw [Pending.path_next_index hname hempty]
    exact Url.rooted_eq_self (hroot.resolve_left hempty)

/-! ### Telling the segments -/

/-- A path that is not empty has the components before its bodies that it has after further
    segments. -/
theorem Pending.components_path_front {pending : Pending} {front : List (List Token)}
    (hne : (pending.walk front).path ≠ "") (h : ∀ tokens ∈ front, Proper tokens)
    (later : List (List Token)) :
    Path.components (pending.walk front).path
      = pending.origin (front ++ later) ++ bodies front := by
  rcases front with _ | ⟨first, front⟩
  · have hpath : pending.path ≠ "" := hne
    simp [Pending.origin, hpath, bodies]
  · rw [pending.components_path_walk (List.cons_ne_nil _ _) h]
    simp [Pending.origin]

/-- A path that ends in a slash is looked for with fewer components than a page has there. -/
theorem Pending.length_components_layoutPath {pending : Pending} (hroot : pending.Rooted)
    {front : List (List Token)} {tokens : List Token}
    (hend : (pending.walk front).path.toList.getLast? = some '/')
    (hfront : ∀ list ∈ front, Proper list) (h : Proper tokens)
    (hindex : Segment.name tokens ≠ "index") :
    (Path.components ((pending.walk front).layoutPath tokens)).length
      < (pending.origin (front ++ [tokens])).length + (bodies (front ++ [tokens])).length := by
  have hne : (pending.walk front).path ≠ "" := by
    intro heq
    rw [heq] at hend
    simp at hend
  have hslashes : (body tokens).toList.count '/' = 0 :=
    List.count_eq_zero.mpr h.slash_not_mem_body
  have hlength : (Path.components ((pending.walk front).layoutPath tokens)).length
      = (Path.components (pending.walk front).path).length := by
    rw [Pending.layoutPath_of_trailing (hroot.walk front) hend h (h.pattern_ne_index hindex),
      Path.length_components, Path.length_components, String.toList_append, List.count_append,
      hslashes, Nat.add_zero]
  have hbodies : (bodies (front ++ [tokens])).length = (bodies front).length + 1 := by
    rw [bodies_append, bodies_cons hindex]
    simp [bodies]
  rw [hlength, Pending.components_path_front hne hfront [tokens], List.length_append, hbodies]
  omega

/-- Segments are told by their names and by the bodies of those that are no index. -/
theorem eq_of_map_name_of_bodies {left right : List (List Token)}
    (hleft : ∀ tokens ∈ left, Proper tokens ∧ IndexIsLiteral tokens)
    (hright : ∀ tokens ∈ right, Proper tokens ∧ IndexIsLiteral tokens)
    (hnames : left.map Segment.name = right.map Segment.name)
    (hbodies : bodies left = bodies right) : left = right := by
  induction left generalizing right with
  | nil =>
    rw [List.map_nil] at hnames
    exact (List.map_eq_nil_iff.mp hnames.symm).symm
  | cons tokens left ih =>
    -- an index leaves no body, so that the bodies are cut off only where the name is another
    obtain ⟨other, right, rfl⟩ : ∃ other rest, right = other :: rest := by
      cases right with
      | nil => simp at hnames
      | cons other rest => exact ⟨other, rest, rfl⟩
    obtain ⟨hname, hnames⟩ := List.cons.inj hnames
    obtain ⟨hproper, hliteral⟩ := hleft tokens (by simp)
    obtain ⟨hproper', hliteral'⟩ := hright other (by simp)
    have hlater := fun hb => ih (fun t ht => hleft t (List.mem_cons_of_mem _ ht))
      (fun t ht => hright t (List.mem_cons_of_mem _ ht)) hnames hb
    by_cases hindex : Segment.name tokens = "index"
    · have hindex' : Segment.name other = "index" := by rw [← hname, hindex]
      rw [bodies_cons_index hindex, bodies_cons_index hindex'] at hbodies
      rw [hliteral hindex, hliteral' hindex', hlater hbodies]
    · have hindex' : Segment.name other ≠ "index" := by rw [← hname]; exact hindex
      rw [bodies_cons hindex, bodies_cons hindex'] at hbodies
      obtain ⟨hbody, hbodies⟩ := List.cons.inj hbodies
      have hpattern : pattern tokens = pattern other := by
        rw [pattern_eq_append_body, pattern_eq_append_body, hbody]
      have htokens : tokens = other :=
        eq_of_pattern_eq_of_name_eq hproper.toCanonical hproper'.toCanonical hpattern hname
      rw [htokens, hlater hbodies]

/-- **A layout is told by its name and its path.** A page that has the name and the path of the
    layout that some segments lead to has these segments itself. -/
theorem Pending.eq_of_layout {pending : Pending} (hroot : pending.Rooted)
    {left front : List (List Token)} {tokens : List Token}
    (hleft : ∀ list ∈ left, Proper list ∧ IndexIsLiteral list)
    (hright : ∀ list ∈ front ++ [tokens], Proper list ∧ IndexIsLiteral list)
    (hname : (pending.walk left).name = (pending.walk front).nextName tokens)
    (hpath : (pending.walk left).path = (pending.walk front).layoutPath tokens) :
    left = front ++ [tokens] := by
  have hwalk : pending.walk (front ++ [tokens]) = (pending.walk front).next tokens := by
    rw [Pending.walk_append, Pending.walk_cons, Pending.walk_nil]
  -- the names are told by the concatenated name, since they have no slashes
  have hnames : left.map Segment.name = (front ++ [tokens]).map Segment.name := by
    apply Pending.map_name_of_walk_name (fun t ht => (hleft t ht).1) fun t ht => (hright t ht).1
    rw [hname, hwalk]
    rfl
  have hleft_ne : left ≠ [] := by
    rintro rfl
    simp at hnames
  have horigin := pending.origin_eq_of_map_name hnames
  have hcount := length_bodies_of_map_name hnames
  have hparts := pending.components_path_walk hleft_ne
    fun t ht => (hleft t ht).1
  obtain ⟨hproper, hliteral⟩ := hright tokens (by simp)
  have hlayout : (pending.walk front).layoutPath tokens
      = ((pending.walk front).next tokens).path := by
    by_cases hindex : Segment.name tokens = "index"
    · rw [hliteral hindex]
      exact Pending.layoutPath_index (hroot.walk front)
    · apply Pending.layoutPath_eq_path_next (hroot.walk front) _ hproper hindex
      intro hend
      -- joined to a final slash, the path would have fewer components than the names ask for
      have hfewer := Pending.length_components_layoutPath hroot hend
        (fun t ht => (hright t (List.mem_append_left _ ht)).1) hproper hindex
      rw [← hpath, hparts, List.length_append, horigin, hcount] at hfewer
      exact absurd hfewer (Nat.lt_irrefl _)
  -- so both paths are gathered in the same way, and start with the same components
  have hbodies : bodies left = bodies (front ++ [tokens]) := by
    have hright_parts := pending.components_path_walk
      (List.append_ne_nil_of_right_ne_nil front (List.cons_ne_nil tokens []))
      fun t ht => (hright t ht).1
    have hsame : (pending.walk left).path = (pending.walk (front ++ [tokens])).path := by
      rw [hpath, hlayout, hwalk]
    rw [hsame, hright_parts, horigin] at hparts
    exact (List.append_cancel_left hparts).symm
  exact eq_of_map_name_of_bodies hleft hright hnames hbodies

end FileRoutes
