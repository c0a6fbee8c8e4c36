import FileRoutes.Path
import FileRoutes.Proofs.Path.Components
import FileRoutes.Proofs.Segment.Pattern

namespace FileRoutes.Segment

/-!
# Segments — the segments of a path

* `Proper` — what is known of the tokens of a segment that is not empty and has no slash;
* `Proper.name_ne_empty`, `Proper.slash_not_mem_name` — its name is a component of a path;
* `Proper.body_ne_empty`, `Proper.slash_not_mem_body` — so is its pattern behind the slash;
* `Proper.collapseIndex_pattern` — only the pattern `/index` is read as a folder, which is one of
  the name `index` (`name_eq_index_of_pattern`);
* `mapM_eq_ok_iff` — values of a list are those of its elements, one by one;
* `Path.tokens` — the tokens of all segments of a path, or the first segment that has none.
-/

/-- Token lists of the segments of paths: canonical, not empty and without slashes. -/
structure Proper (tokens : List Token) : Prop extends Canonical tokens where
  nonempty : tokens ≠ []
  slashFree : ∀ token ∈ tokens, '/' ∉ token.value.toList

/-- The tokens of a segment of a path are proper unless the segment is empty. -/
theorem proper_of_tokenize {segment : String} {tokens : List Token}
    (h : tokenize segment = .ok tokens) (hne : segment ≠ "") (hslash : '/' ∉ segment.toList) :
    Proper tokens where
  toCanonical := canonical_of_tokenize h
  nonempty := by
    rintro rfl
    exact hne (tokenize_eq_nil h)
  slashFree := fun _ ht hc => hslash (mem_of_tokenize h ht hc)

/-! ### Names -/

/-- The name of a segment is not empty. -/
theorem Proper.name_ne_empty {tokens : List Token} (h : Proper tokens) : name tokens ≠ "" := by
  obtain ⟨token, later, rfl⟩ := List.exists_cons_of_ne_nil h.nonempty
  intro hname
  rw [← String.toList_inj, toList_name, List.flatMap_cons] at hname
  exact (h.token token (by simp)).toList_ne_nil (List.append_eq_nil_iff.mp hname).1

/-- The name of a segment has no slash. -/
theorem Proper.slash_not_mem_name {tokens : List Token} (h : Proper tokens) :
    '/' ∉ (name tokens).toList := by
  rw [toList_name]
  intro hslash
  obtain ⟨token, ht, hc⟩ := List.mem_flatMap.mp hslash
  exact h.slashFree token ht hc

/-- The name that a segment adds to its route, if it has tokens. -/
def addedName? (segment : String) : Option String :=
  (tokenize segment).toOption.map name

/-- A segment adds the name of its tokens. -/
theorem addedName?_of_tokenize {segment : String} {tokens : List Token}
    (h : tokenize segment = .ok tokens) : addedName? segment = some (name tokens) := by
  rw [addedName?, h]
  rfl

/-! ### Patterns -/

/-- The pattern of a segment without the slash in front. -/
def body (tokens : List Token) : String := String.join (tokens.map Token.pattern)

/-- A pattern is a slash and its body. -/
theorem pattern_eq_append_body (tokens : List Token) : pattern tokens = "/" ++ body tokens := rfl

/-- The patterns of segments are their bodies, each with a slash in front. -/
theorem map_pattern_eq (lists : List (List Token)) :
    lists.map pattern = (lists.map body).map ("/" ++ ·) := by
  rw [List.map_map]
  rfl

/-- Unfolding lemma: the characters of a body. -/
@[simp] theorem toList_body (tokens : List Token) :
    (body tokens).toList = tokens.flatMap (·.pattern.toList) := by
  simp [body, List.flatMap_map]

/-- The body of a segment is not empty. -/
theorem Proper.body_ne_empty {tokens : List Token} (h : Proper tokens) : body tokens ≠ "" := by
  obtain ⟨token, later, rfl⟩ := List.exists_cons_of_ne_nil h.nonempty
  intro hbody
  rw [← String.toList_inj, toList_body, List.flatMap_cons] at hbody
  exact (h.token token (by simp)).pattern_ne_nil (List.append_eq_nil_iff.mp hbody).1

/-- The pattern of a token without slashes has none. -/
theorem Token.slash_not_mem_pattern {token : Token} (hvalue : '/' ∉ token.value.toList) :
    '/' ∉ token.pattern.toList := by
  by_cases hkind : token.kind = .literal
  · rw [Token.toList_pattern_literal hkind]
    intro hslash
    rcases mem_or_eq_of_mem_escapeColons hslash with hslash | hslash
    · exact hvalue (Url.slash_mem_of_encodeChars hslash)
    · exact absurd hslash (by decide)
  · rw [Token.toList_pattern_parameter hkind]
    intro hslash
    have hend : '/' ∉ token.kind.ending := by cases token.kind <;> decide
    simp only [List.mem_cons, List.mem_append] at hslash
    rcases hslash with hslash | hslash | hslash
    · exact absurd hslash (by decide)
    · exact hvalue hslash
    · exact hend hslash

/-- The body of tokens without slashes has none. -/
theorem slash_not_mem_body {tokens : List Token}
    (h : ∀ token ∈ tokens, '/' ∉ token.value.toList) : '/' ∉ (body tokens).toList := by
  rw [toList_body]
  intro hslash
  obtain ⟨token, ht, hc⟩ := List.mem_flatMap.mp hslash
  exact Token.slash_not_mem_pattern (h token ht) hc

/-- The body of a segment has no slash. -/
theorem Proper.slash_not_mem_body {tokens : List Token} (h : Proper tokens) :
    '/' ∉ (body tokens).toList :=
  Segment.slash_not_mem_body h.slashFree

/-- A canonical list with the pattern of the literal `index` has its name. -/
theorem name_eq_index_of_pattern {tokens : List Token} (h : Canonical tokens)
    (hpattern : pattern tokens = "/index") : name tokens = "index" := by
  have hindex : tokenize "index" = .ok [⟨.literal, "index"⟩] := by decide +kernel
  have halike : List.Forall₂ Token.Alike tokens [⟨.literal, "index"⟩] :=
    alike_of_pattern_eq h (canonical_of_tokenize hindex) (by rw [hpattern]; decide +kernel)
  obtain ⟨token, later, ⟨hkind, hvalue⟩, hlater, rfl⟩ := List.forall₂_cons_right_iff.mp halike
  cases List.forall₂_nil_right_iff.mp hlater
  have hkind : token.kind = .literal := hkind
  rw [if_pos hkind] at hvalue
  have hindex : Url.units "index".toList = "index".toList.map some := by decide
  rw [← String.toList_inj, toList_name, List.flatMap_singleton]
  exact Url.eq_of_units_eq_map_some (hvalue.trans hindex)

/-- A segment that is no index does not have the pattern of one. -/
theorem Proper.pattern_ne_index {tokens : List Token} (h : Proper tokens)
    (hname : name tokens ≠ "index") : pattern tokens ≠ "/index" :=
  fun hpattern => hname (name_eq_index_of_pattern h.toCanonical hpattern)

/-- A segment does not end a path in an index unless its pattern is one. -/
theorem Proper.dropEnding?_index {tokens : List Token} (h : Proper tokens)
    (hpattern : pattern tokens ≠ "/index") (folder : String) :
    Text.dropEnding? "/index" (folder ++ pattern tokens) = none := by
  rw [pattern_eq_append_body, ← String.append_assoc]
  apply Path.dropEnding?_index h.slash_not_mem_body
  rintro hbody
  exact hpattern (by rw [pattern_eq_append_body, hbody]; rfl)

/-- Only a segment with the pattern of an index is read as a folder. -/
theorem Proper.collapseIndex_pattern {tokens : List Token} (h : Proper tokens)
    (hpattern : pattern tokens ≠ "/index") :
    Url.collapseIndex (pattern tokens) = pattern tokens := by
  have hending := h.dropEnding?_index hpattern ""
  rw [String.empty_append] at hending
  rw [Url.collapseIndex, hending]

end FileRoutes.Segment

namespace FileRoutes

/-! ### Lists with values -/

/-- A list has values exactly if its elements have them, one after the other. -/
theorem mapM_eq_ok_iff {ε α β : Type} {f : α → Except ε β} {list : List α} {values : List β} :
    list.mapM f = .ok values ↔
      List.Forall₂ (fun element value => f element = .ok value) list values := by
  induction list generalizing values with
  | nil =>
    rw [List.mapM_nil, List.forall₂_nil_left_iff]
    exact ⟨fun h => by cases h; rfl, fun h => by rw [h]; rfl⟩
  | cons element rest ih =>
    rw [List.mapM_cons, List.forall₂_cons_left_iff]
    cases hhead : f element with
    | error fault => exact ⟨fun h => (by cases h), fun ⟨_, _, h, _⟩ => (by cases h)⟩
    | ok first =>
      cases hrest : rest.mapM f with
      | error fault =>
        refine ⟨fun h => (by cases h), fun ⟨_, others, _, h, _⟩ => ?_⟩
        rw [ih.mpr h] at hrest
        cases hrest
      | ok others =>
        constructor
        · intro h
          cases h
          exact ⟨first, others, rfl, ih.mp hrest, rfl⟩
        · rintro ⟨_, _, h, hothers, rfl⟩
          cases h
          rw [ih.mpr hothers] at hrest
          cases hrest
          rfl

/-- What stands in the second of two related lists is related to something in the first. -/
theorem exists_of_mem_right {α β : Type} {R : α → β → Prop} {left : List α}
    {right : List β} (h : List.Forall₂ R left right) {b : β} (hb : b ∈ right) :
    ∃ a ∈ left, R a b := by
  induction h with
  | nil => cases hb
  | cons hhead _ ih =>
    rcases List.mem_cons.mp hb with rfl | hb
    · exact ⟨_, List.mem_cons_self, hhead⟩
    · obtain ⟨a, ha, hab⟩ := ih hb
      exact ⟨a, List.mem_cons_of_mem _ ha, hab⟩

end FileRoutes

namespace FileRoutes.Path

/-! ### The tokens of a path -/

/-- The tokens of all segments of a path, or why the first segment without tokens has none. -/
def tokens (path : String) : Except Segment.Malformed (List (List Segment.Token)) :=
  (segments path).mapM Segment.tokenize

/-- The tokens of a path are those of its segments, one after the other. -/
theorem tokens_eq_ok_iff {path : String} {lists : List (List Segment.Token)} :
    tokens path = .ok lists ↔
      List.Forall₂ (fun segment tokens => Segment.tokenize segment = .ok tokens)
        (segments path) lists :=
  mapM_eq_ok_iff

/-- Tokens of a path are those of one of its segments. -/
theorem exists_segment_of_mem_tokens {path : String} {lists : List (List Segment.Token)}
    (h : tokens path = .ok lists) {list : List Segment.Token} (hlist : list ∈ lists) :
    ∃ segment ∈ segments path, Segment.tokenize segment = .ok list :=
  exists_of_mem_right (tokens_eq_ok_iff.mp h) hlist

/-- Every segment of a path has tokens among those of the path. -/
theorem exists_tokens_of_mem_segments {path : String} {lists : List (List Segment.Token)}
    (h : tokens path = .ok lists) {segment : String} (hsegment : segment ∈ segments path) :
    ∃ list ∈ lists, Segment.tokenize segment = .ok list :=
  exists_of_mem_right (tokens_eq_ok_iff.mp h).flip hsegment

/-- There is a token list for each segment. -/
theorem length_tokens {path : String} {lists : List (List Segment.Token)}
    (h : tokens path = .ok lists) : lists.length = (segments path).length :=
  (tokens_eq_ok_iff.mp h).length_eq.symm

/-- There is a token list. -/
theorem tokens_ne_nil {path : String} {lists : List (List Segment.Token)}
    (h : tokens path = .ok lists) : lists ≠ [] := by
  rintro rfl
  exact segments_ne_nil path (List.length_eq_zero_iff.mp (length_tokens h).symm)

/-- Without empty segments, the tokens of a path are proper. -/
theorem proper_of_mem_tokens {path : String} {lists : List (List Segment.Token)}
    (h : tokens path = .ok lists) (hne : "" ∉ segments path) {list : List Segment.Token}
    (hlist : list ∈ lists) : Segment.Proper list := by
  obtain ⟨segment, hsegment, htokens⟩ := exists_segment_of_mem_tokens h hlist
  apply Segment.proper_of_tokenize htokens
  · rintro rfl
    exact hne hsegment
  · exact slash_not_mem_component hsegment

/-- No segment of the path but the last adds the name `index`. -/
def NoIndexFolder (path : String) : Prop :=
  ∀ segment ∈ (segments path).dropLast, Segment.addedName? segment ≠ some "index"

instance : DecidablePred NoIndexFolder := fun path =>
  inferInstanceAs
    (Decidable (∀ segment ∈ (segments path).dropLast, Segment.addedName? segment ≠ some "index"))

/-- The tokens of a segment before the last one do not have the name `index`. -/
theorem NoIndexFolder.name_ne {path : String} (h : NoIndexFolder path)
    {lists : List (List Segment.Token)} (hlists : tokens path = .ok lists)
    {list : List Segment.Token} (hlist : list ∈ lists.dropLast) :
    Segment.name list ≠ "index" := by
  intro hindex
  have hfolders := List.forall₂_take (lists.length - 1) (tokens_eq_ok_iff.mp hlists)
  rw [← List.dropLast_eq_take, length_tokens hlists, ← List.dropLast_eq_take] at hfolders
  obtain ⟨segment, hsegment, htokens⟩ := exists_of_mem_right hfolders hlist
  apply h segment hsegment
  rw [Segment.addedName?_of_tokenize htokens, hindex]

end FileRoutes.Path
