import FileRoutes.Proofs.Handler
import FileRoutes.Proofs.Segment.Unambiguous

namespace FileRoutes

open Segment

/-!
# Handlers — handlers with one URL

The URL of a handler tells the patterns of the segments that it is made from, one by one, since each
of them is a component of the URL. So two handlers of one domain have one URL only if their segments
mean the same.

* `Path.components_patterns` — the components of patterns in a row;
* `Segment.map_pattern_eq_of_join` — patterns in a row tell the single ones;
* `Url.orSlash_append_inj` — a slash for the empty URL is not mistaken for a pattern;
* `Handler.same_url_iff` — the statement about two handlers.
-/

/-- Bodies of segments have no slash. -/
private theorem slash_not_mem_bodies {lists : List (List Token)}
    (h : ∀ tokens ∈ lists, Proper tokens) : ∀ text ∈ lists.map body, '/' ∉ text.toList := by
  intro text htext
  obtain ⟨tokens, htokens, rfl⟩ := List.mem_map.mp htext
  exact (h tokens htokens).slash_not_mem_body

/-- Patterns in a row have the empty component in front of the first slash, and the bodies. -/
theorem Path.components_patterns {lists : List (List Token)}
    (h : ∀ tokens ∈ lists, Proper tokens) :
    Path.components (String.join (lists.map pattern)) = "" :: lists.map body := by
  have hparts := Path.components_append_join "" (slash_not_mem_bodies h)
  rwa [String.empty_append, Path.components_empty, List.singleton_append, ← map_pattern_eq]
    at hparts

/-- **Patterns in a row tell the single ones.** -/
theorem Segment.map_pattern_eq_of_join {left right : List (List Token)}
    (hleft : ∀ tokens ∈ left, Proper tokens) (hright : ∀ tokens ∈ right, Proper tokens)
    (h : String.join (left.map pattern) = String.join (right.map pattern)) :
    left.map pattern = right.map pattern := by
  rw [map_pattern_eq, map_pattern_eq] at h ⊢
  rw [Path.eq_of_join_slashed (slash_not_mem_bodies hleft) (slash_not_mem_bodies hright) h]

/-- Patterns in a row are never a lone slash, since no body is empty. -/
theorem Segment.join_map_pattern_ne_slash {lists : List (List Token)}
    (h : ∀ tokens ∈ lists, Proper tokens) : String.join (lists.map pattern) ≠ "/" := by
  intro hslash
  have hparts := Path.components_patterns h
  have htwo : Path.components "/" = ["", ""] := by decide +kernel
  rw [hslash, htwo, List.cons.injEq] at hparts
  have hempty : "" ∈ lists.map body := by simp [← hparts.2]
  obtain ⟨tokens, ht, hbody⟩ := List.mem_map.mp hempty
  exact (h tokens ht).body_ne_empty hbody

/-- Patterns in a row are not empty if there are any. -/
theorem Segment.join_map_pattern_ne_empty {lists : List (List Token)} (hne : lists ≠ [])
    (h : ∀ tokens ∈ lists, Proper tokens) : String.join (lists.map pattern) ≠ "" := by
  intro hempty
  have hparts := Path.components_patterns h
  rw [hempty, Path.components_empty] at hparts
  exact hne (List.map_eq_nil_iff.mp (List.cons.inj hparts).2.symm)

/-- Two texts behind a base are told apart, also where the empty URL is written as a slash, if none
    of them is a lone slash. -/
theorem Url.orSlash_append_inj {base left right : String} (hleft : left ≠ "/")
    (hright : right ≠ "/")
    (h : Url.orSlash (base ++ left) = Url.orSlash (base ++ right)) : left = right := by
  by_cases hbase : base = ""
  · -- the slash for the empty URL is none of the two texts
    rw [hbase, String.empty_append, String.empty_append] at h
    unfold Url.orSlash at h
    by_cases hl : left = "" <;> by_cases hr : right = ""
    · rw [hl, hr]
    · rw [if_pos hl, if_neg hr] at h
      exact absurd h.symm hright
    · rw [if_neg hl, if_pos hr] at h
      exact absurd h hleft
    · rwa [if_neg hl, if_neg hr] at h
  · have hne : ∀ text, base ++ text ≠ "" := fun text heq =>
      hbase (String.append_eq_empty_iff.mp heq).1
    rw [Url.orSlash, Url.orSlash, if_neg (hne left), if_neg (hne right)] at h
    exact (String.append_right_inj base).mp h

namespace Handler

/-- **Handlers of one URL mean the same.** Two handlers of a domain have one URL exactly if their
    segments have the same tokens one by one, where `%2f` in literal text counts as `%2F` and a last
    segment that is the text `index` does not count. All other segments, and the domain, are in the
    URL as they are, an index among them too. -/
theorem same_url_iff {first second domain : String} {kind : Kind}
    (hfirst : "" ∉ Path.segments (Path.forwardSlashes first))
    (hsecond : "" ∉ Path.segments (Path.forwardSlashes second)) {url other : String}
    (hurl : route first domain kind = .ok url) (hother : route second domain kind = .ok other) :
    ∃ left right,
      (mounted (Path.segments (Path.forwardSlashes first))).mapM tokenize = .ok left ∧
      (mounted (Path.segments (Path.forwardSlashes second))).mapM tokenize = .ok right ∧
      url = Url.orSlash (kind.base domain ++ String.join (left.map pattern)) ∧
      (url = other ↔ left.map (List.map Token.upperSlashes)
        = right.map (List.map Token.upperSlashes)) := by
  obtain ⟨left, hleft, hleft_proper, rfl⟩ := exists_tokens_of_route hfirst hurl
  obtain ⟨right, hright, hright_proper, rfl⟩ := exists_tokens_of_route hsecond hother
  refine ⟨left, right, hleft, hright, rfl, ?_⟩
  rw [← map_pattern_eq_iff (fun t ht => (hleft_proper t ht).toCanonical)
    (fun t ht => (hright_proper t ht).toCanonical)]
  constructor
  · intro hsame
    exact map_pattern_eq_of_join hleft_proper hright_proper
      (Url.orSlash_append_inj (join_map_pattern_ne_slash hleft_proper)
        (join_map_pattern_ne_slash hright_proper) hsame)
  · intro hsame
    rw [hsame]

/-- Two spellings of the index of a folder called `index`, in a domain called `index`, have one URL,
    which keeps the domain and the folder. -/
theorem indexFolders_urls :
    ∃ url, route "a%2fb\\index/index.ts" "index" .route = .ok url ∧
      route "a%2Fb/index/index.js" "index" .route = .ok url ∧
      url = "/index/a%2Fb/index" ∧
      ∃ left right,
        (mounted (Path.segments (Path.forwardSlashes "a%2fb\\index/index.ts"))).mapM tokenize
          = .ok left ∧
        (mounted (Path.segments (Path.forwardSlashes "a%2Fb/index/index.js"))).mapM tokenize
          = .ok right ∧
        left.map (List.map Token.upperSlashes) = right.map (List.map Token.upperSlashes) := by
  have hfirst : "" ∉ Path.segments (Path.forwardSlashes "a%2fb\\index/index.ts") := by
    decide +kernel
  have hsecond : "" ∉ Path.segments (Path.forwardSlashes "a%2Fb/index/index.js") := by
    decide +kernel
  have hurl : route "a%2fb\\index/index.ts" "index" .route = .ok "/index/a%2Fb/index" := by
    decide +kernel
  have hother : route "a%2Fb/index/index.js" "index" .route = .ok "/index/a%2Fb/index" := by
    decide +kernel
  obtain ⟨left, right, hleft, hright, -, hsame⟩ := same_url_iff hfirst hsecond hurl hother
  exact ⟨_, hurl, hother, rfl, left, right, hleft, hright, hsame.mp rfl⟩

end Handler

end FileRoutes
