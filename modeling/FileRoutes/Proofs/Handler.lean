import FileRoutes.Handler
import FileRoutes.Mount
import FileRoutes.Proofs.Layout.Urls
import FileRoutes.Proofs.Path.Trim
import FileRoutes.Proofs.Segment.Colons

namespace FileRoutes

open Segment

/-!
# Handlers — the URLs of handlers in closed form

The URL of a handler is the path of its domain and the patterns of its segments in a row, once a
final index is cut off the text.

* `Handler.patterns_eq` — the patterns of segments in a row;
* `Handler.base_route` — handlers start from the path that the pages of the domain start from;
* `Handler.route_eq_ok` — the URL of a handler;
* `Handler.folder_append_patterns` — where an index is the literal one, the URL is made from the
  same segments as that of a page;
* `Handler.mounted`, `Handler.route_eq` — in any case, it is made from all segments but a last one
  that is the text `index`.
-/

/-! ### The URL of a handler -/

namespace Handler

/-- The patterns of segments in a row are those of their tokens, if they all have tokens. -/
theorem patterns_eq (segments : List String) :
    patterns segments
      = (segments.mapM tokenize).map fun lists => String.join (lists.map pattern) := by
  induction segments with
  | nil => rfl
  | cons segment rest ih =>
    rw [patterns, List.mapM_cons]
    cases tokenize segment with
    | error fault => rfl
    | ok tokens =>
      dsimp only
      rw [ih]
      cases rest.mapM tokenize with
      | error fault => rfl
      | ok lists => exact congrArg Except.ok (String.join_cons ..).symm

/-- The patterns of segments and of one behind them. -/
theorem join_map_pattern_concat (front : List (List Token)) (last : List Token) :
    String.join ((front ++ [last]).map pattern)
      = String.join (front.map pattern) ++ pattern last := by
  rw [List.map_append, String.join_append, List.map_singleton, String.join_cons, String.join_nil,
    String.append_empty]

/-- Handlers start from the path that the pages of the domain start from. -/
theorem base_route {domain : String} (hstart : domain.toList.head? ≠ some '/')
    (hend : domain.toList.getLast? ≠ some '/') :
    Kind.base .route domain = (Mount.ofDomain domain).path := by
  rw [Kind.base, Mount.ofDomain, Path.trim_eq_self hstart hend]

/-- The URL of the folder that a text stands for. -/
def folder (whole : String) : String :=
  Url.orSlash ((Text.dropEnding? "/index" whole).getD whole)

/-- A text that ends in an index stands for the folder in front of it. -/
theorem folder_append_index (base : String) : folder (base ++ "/index") = Url.orSlash base := by
  rw [folder, Text.dropEnding?_append, Option.getD_some]

/-- A text that ends in another segment stands for itself. -/
theorem folder_append_pattern {tokens : List Token} (h : Proper tokens)
    (hpattern : pattern tokens ≠ "/index") (base : String) :
    folder (base ++ pattern tokens) = Url.orSlash (base ++ pattern tokens) := by
  rw [folder, h.dropEnding?_index hpattern, Option.getD_none]

/-- **The URL of a handler** is made from the patterns of all its segments. -/
theorem route_eq_ok {relative domain : String} {kind : Kind} (hrelative : '\\' ∉ relative.toList)
    {lists : List (List Token)} (h : Path.tokens relative = .ok lists) :
    route relative domain kind
      = .ok (folder (kind.base domain ++ String.join (lists.map pattern))) := by
  have hlists : (Path.segments relative).mapM tokenize = .ok lists := h
  rw [route, Path.forwardSlashes_eq_self hrelative, patterns_eq, hlists]
  rfl

/-- **A final index is the last segment,** if that is no other text of the same name. -/
theorem folder_append_patterns (base : String) {lists : List (List Token)} (hne : lists ≠ [])
    (hlists : ∀ tokens ∈ lists, Proper tokens ∧ IndexIsLiteral tokens) :
    folder (base ++ String.join (lists.map pattern)) = Url.orSlash (base ++ urlPatterns lists) := by
  obtain rfl | ⟨front, last, rfl⟩ := List.eq_nil_or_concat' lists
  · exact absurd rfl hne
  obtain ⟨hlast, hliteral⟩ := hlists last (by simp)
  rw [join_map_pattern_concat, urlPatterns_append front (List.cons_ne_nil last []),
    ← String.append_assoc, ← String.append_assoc]
  by_cases hindex : Segment.name last = "index"
  · have hpattern : pattern last = "/index" := by
      rw [hliteral hindex]
      decide +kernel
    rw [urlPatterns_index hindex, String.append_empty, hpattern, folder_append_index]
  · rw [urlPatterns_singleton hindex,
      folder_append_pattern hlast (hlast.pattern_ne_index hindex)]

/-- The URL of a folder has the colons of the text. -/
theorem colons_folder (whole : String) : Url.colons (folder whole) = Url.colons whole := by
  have hslash : ∀ url, Url.colons (Url.orSlash url) = Url.colons url := by
    intro url
    by_cases hempty : url = ""
    · rw [hempty]
      rfl
    · rw [Url.orSlash, if_neg hempty]
  rw [folder, hslash]
  cases hending : Text.dropEnding? "/index" whole with
  | none => rfl
  | some front =>
    rw [Text.dropEnding?_eq_some_iff.mp hending, Url.colons_append]
    rfl

/-! ### The segments that a URL is made from -/

/-- The segments that the URL of a handler is made from: all but a final `index`. -/
def mounted (segments : List String) : List String :=
  if segments.getLast? = some "index" then segments.dropLast else segments

/-- Unfolding lemma: a final `index` is left out. -/
theorem mounted_index (front : List String) : mounted (front ++ ["index"]) = front := by
  simp [mounted]

/-- Unfolding lemma: any other last segment stays. -/
theorem mounted_of_ne (front : List String) {last : String} (h : last ≠ "index") :
    mounted (front ++ [last]) = front ++ [last] := by
  simp [mounted, h]

/-- A list with one more element has its values and that of the element. -/
private theorem mapM_concat {ε α β : Type} (f : α → Except ε β) (front : List α) (last : α) :
    (front ++ [last]).mapM f
      = (front.mapM f).bind fun values => (f last).map fun value => values ++ [value] := by
  rw [List.mapM_append, List.mapM_cons, List.mapM_nil]
  cases front.mapM f with
  | error fault => rfl
  | ok values => cases f last <;> rfl

/-- **A final index is the text `index`.** What the patterns of segments stand for behind a text is
    told by all segments but a last one of this text. -/
theorem map_folder_patterns {segments : List String} (hne : segments ≠ [])
    (hsegments : ∀ segment ∈ segments, segment ≠ "" ∧ '/' ∉ segment.toList) (base : String) :
    (patterns segments).map (fun path => folder (base ++ path))
      = ((mounted segments).mapM tokenize).map fun lists =>
          Url.orSlash (base ++ String.join (lists.map pattern)) := by
  obtain ⟨front, last, rfl⟩ := (List.eq_nil_or_concat' segments).resolve_left hne
  rw [patterns_eq, mapM_concat]
  by_cases hindex : last = "index"
  · have htokens : tokenize "index" = .ok [⟨.literal, "index"⟩] := by decide +kernel
    have hpattern : pattern [⟨.literal, "index"⟩] = "/index" := by decide +kernel
    rw [hindex, mounted_index, htokens]
    cases front.mapM tokenize with
    | error fault => rfl
    | ok lists =>
      apply congrArg Except.ok
      dsimp only
      rw [join_map_pattern_concat, hpattern, ← String.append_assoc, folder_append_index]
  · rw [mounted_of_ne front hindex, mapM_concat]
    cases front.mapM tokenize with
    | error fault => rfl
    | ok lists =>
      cases htokens : tokenize last with
      | error fault => rfl
      | ok tokens =>
        obtain ⟨hlast, hslash⟩ := hsegments last (by simp)
        have hproper : Proper tokens := proper_of_tokenize htokens hlast hslash
        have hpattern : pattern tokens ≠ "/index" := fun heq =>
          hindex (eq_index_of_pattern htokens hproper heq)
        apply congrArg Except.ok
        dsimp only
        rw [join_map_pattern_concat, ← String.append_assoc,
          folder_append_pattern hproper hpattern]

/-- **The URL of a handler from its segments.** It is the text that the handlers of the domain start
    from and the patterns of all segments but a final `index`, and a slash if that is empty. There
    is no URL exactly if some segment is malformed, and the fault is that of the first one. -/
theorem route_eq {relative : String} (hempty : "" ∉ Path.segments (Path.forwardSlashes relative))
    (domain : String) (kind : Kind) :
    route relative domain kind
      = ((mounted (Path.segments (Path.forwardSlashes relative))).mapM tokenize).map fun lists =>
          Url.orSlash (kind.base domain ++ String.join (lists.map pattern)) :=
  map_folder_patterns (Path.segments_ne_nil _)
    (fun _ hsegment => ⟨fun heq => hempty (heq ▸ hsegment), Path.slash_not_mem_component hsegment⟩)
    (kind.base domain)

/-- The segments that a URL is made from are some of those of the path. -/
theorem mounted_subset (segments : List String) : mounted segments ⊆ segments := by
  unfold mounted
  split
  · exact List.dropLast_subset segments
  · exact List.Subset.refl segments

/-- A handler with a URL has proper tokens for the segments that the URL is made from. -/
theorem exists_tokens_of_route {relative domain url : String} {kind : Kind}
    (hempty : "" ∉ Path.segments (Path.forwardSlashes relative))
    (h : route relative domain kind = .ok url) :
    ∃ lists, (mounted (Path.segments (Path.forwardSlashes relative))).mapM tokenize = .ok lists ∧
      (∀ tokens ∈ lists, Proper tokens) ∧
      url = Url.orSlash (kind.base domain ++ String.join (lists.map pattern)) := by
  rw [route_eq hempty] at h
  cases hlists : (mounted (Path.segments (Path.forwardSlashes relative))).mapM tokenize with
  | error fault =>
    rw [hlists] at h
    cases h
  | ok lists =>
    rw [hlists] at h
    refine ⟨lists, rfl, fun tokens ht => ?_, (Except.ok.inj h).symm⟩
    obtain ⟨segment, hsegment, htokens⟩ :=
      exists_of_mem_right (mapM_eq_ok_iff.mp hlists) ht
    have hmem := mounted_subset _ hsegment
    exact proper_of_tokenize htokens (fun heq => hempty (heq ▸ hmem))
      (Path.slash_not_mem_component hmem)

end Handler

end FileRoutes
