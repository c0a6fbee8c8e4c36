import FileRoutes.Proofs.Segment.Colons
import FileRoutes.Proofs.Url.Decoding

namespace FileRoutes.Segment

/-!
# Segments — the shape of a pattern

All that matches the path of a route as text, or cuts it at slashes, rests on the shape of the
pattern that each segment adds:

* `ascii_pattern`, `slash_not_mem_body_of_tokenize` — the characters of a pattern;
* `pattern_eq_slash_iff`, `pattern_eq_index_iff`, `collapseIndex_ne_iff` — which segments have a
  special pattern;
* `FragmentShape` — the shape of the pattern of a segment;
* `shape_fragments` — the statement about each segment, and about lists of them.
-/

/-! ### The characters of a pattern -/

/-- A name has only ASCII characters. -/
theorem toNat_lt_of_isNameChar {c : Char} (h : isNameChar c = true) : c.toNat < 0x80 := by
  have hle : ∀ {d e : Char}, d ≤ e → d.toNat ≤ e.toNat := fun h => UInt32.le_iff_toNat_le.mp h
  rcases (isNameChar_iff c).mp h with ⟨-, h⟩ | ⟨-, h⟩ | ⟨-, h⟩ | rfl | rfl
  · exact Nat.lt_of_le_of_lt (hle h) (by decide)
  · exact Nat.lt_of_le_of_lt (hle h) (by decide)
  · exact Nat.lt_of_le_of_lt (hle h) (by decide)
  · decide
  · decide

/-- The pattern of a canonical token has only ASCII characters. -/
theorem Token.IsCanonical.ascii_pattern {token : Token} (h : token.IsCanonical) :
    ∀ c ∈ token.pattern.toList, c.toNat < 0x80 := by
  intro c hc
  by_cases hkind : token.kind = .literal
  · rw [Token.toList_pattern_literal hkind] at hc
    rcases mem_or_eq_of_mem_escapeColons hc with hc | rfl
    · apply (Url.wellEncoded_encode token.value).ascii
      rwa [Url.toList_encode]
    · decide
  · have hname := h.2
    rw [if_neg hkind] at hname
    have hending : token.kind.ending.all (fun d => decide (d.toNat < 0x80)) = true := by
      cases token.kind <;> rfl
    rw [Token.toList_pattern_parameter hkind, List.mem_cons, List.mem_append] at hc
    rcases hc with rfl | hc | hc
    · decide
    · exact toNat_lt_of_isNameChar (hname.1 c hc)
    · exact of_decide_eq_true (List.all_eq_true.mp hending c hc)

/-- The pattern of a segment has only ASCII characters. -/
theorem ascii_pattern {segment : String} {tokens : List Token}
    (h : tokenize segment = .ok tokens) : ∀ c ∈ (pattern tokens).toList, c.toNat < 0x80 := by
  intro c hc
  rw [toList_pattern, List.mem_cons, List.mem_flatMap] at hc
  rcases hc with rfl | ⟨token, htoken, hc⟩
  · decide
  · exact ((canonical_of_tokenize h).token token htoken).ascii_pattern c hc

/-- The body of a segment without slashes has none. -/
theorem slash_not_mem_body_of_tokenize {segment : String} {tokens : List Token}
    (h : tokenize segment = .ok tokens) (hslash : '/' ∉ segment.toList) :
    '/' ∉ (body tokens).toList :=
  slash_not_mem_body fun _ htoken hvalue => hslash (mem_of_tokenize h htoken hvalue)

/-- The bodies of segments without slashes have none. -/
theorem slash_not_mem_bodies_of_tokenize {segments : List String} {lists : List (List Token)}
    (h : segments.mapM tokenize = .ok lists) (hslash : ∀ segment ∈ segments, '/' ∉ segment.toList) :
    ∀ text ∈ lists.map body, '/' ∉ text.toList := by
  intro text htext
  obtain ⟨tokens, htokens, rfl⟩ := List.mem_map.mp htext
  obtain ⟨segment, hsegment, hread⟩ := exists_of_mem_right (mapM_eq_ok_iff.mp h) htokens
  exact slash_not_mem_body_of_tokenize hread (hslash segment hsegment)

/-! ### Special patterns -/

section Special

variable {segment : String} {tokens : List Token} (h : tokenize segment = .ok tokens)
  (hslash : '/' ∉ segment.toList)

include h hslash

/-- Only the empty segment has a pattern that is a lone slash. -/
theorem pattern_eq_slash_iff : pattern tokens = "/" ↔ segment = "" := by
  constructor
  · intro hpattern
    by_contra hne
    apply (proper_of_tokenize h hne hslash).body_ne_empty
    have hbody : "/" ++ body tokens = "/" ++ "" := hpattern
    exact (String.append_right_inj "/").mp hbody
  · rintro rfl
    cases h
    rfl

/-- The text `index` has its own pattern, and no other segment has it. -/
theorem pattern_eq_index_iff : pattern tokens = "/index" ↔ segment = "index" := by
  constructor
  · intro hpattern
    have hne : segment ≠ "" := by
      intro hempty
      rw [(pattern_eq_slash_iff h hslash).mpr hempty] at hpattern
      exact absurd hpattern (by decide)
    exact eq_index_of_pattern h (proper_of_tokenize h hne hslash) hpattern
  · rintro rfl
    have hindex : tokenize "index" = .ok [⟨.literal, "index"⟩] := by decide +kernel
    rw [hindex] at h
    cases h
    decide +kernel

/-- Only the text `index` has a pattern that is read as a folder. -/
theorem collapseIndex_ne_iff :
    Url.collapseIndex (pattern tokens) ≠ pattern tokens ↔ segment = "index" := by
  rw [← pattern_eq_index_iff h hslash]
  constructor
  · intro hchanged
    by_contra hpattern
    apply hchanged
    by_cases hempty : segment = ""
    · rw [(pattern_eq_slash_iff h hslash).mpr hempty]
      decide +kernel
    · exact (proper_of_tokenize h hempty hslash).collapseIndex_pattern hpattern
  · intro hpattern
    rw [hpattern]
    decide +kernel

end Special

/-! ### The shape of a pattern -/

/-- The shape of the pattern of a segment: ASCII text that starts with its only slash. It is a lone
    slash for the empty segment alone, and `/index`, which is read as a folder, for the text `index`
    alone. -/
structure FragmentShape (segment fragment : String) : Prop where
  ascii : ∀ c ∈ fragment.toList, c.toNat < 0x80
  slash : ∃ rest, fragment = "/" ++ rest ∧ '/' ∉ rest.toList
  eq_slash_iff : fragment = "/" ↔ segment = ""
  eq_index_iff : fragment = "/index" ↔ segment = "index"
  collapseIndex_ne_iff : Url.collapseIndex fragment ≠ fragment ↔ segment = "index"

/-- **Patterns have their shape, and are told apart in a row.** The pattern of a segment without
    slashes has the shape above, whatever its tokens are. Two lists of such segments whose patterns
    in a row are the same text have the same patterns, one by one. -/
theorem shape_fragments :
    (∀ (segment : String) (tokens : List Token), tokenize segment = .ok tokens →
        '/' ∉ segment.toList → FragmentShape segment (pattern tokens)) ∧
      ∀ (left right : List String) (lists others : List (List Token)),
        left.mapM tokenize = .ok lists → (∀ segment ∈ left, '/' ∉ segment.toList) →
        right.mapM tokenize = .ok others → (∀ segment ∈ right, '/' ∉ segment.toList) →
        String.join (lists.map pattern) = String.join (others.map pattern) →
        lists.map pattern = others.map pattern := by
  constructor
  · intro segment tokens h hslash
    exact {
      ascii := ascii_pattern h
      slash := ⟨body tokens, rfl, slash_not_mem_body_of_tokenize h hslash⟩
      eq_slash_iff := pattern_eq_slash_iff h hslash
      eq_index_iff := pattern_eq_index_iff h hslash
      collapseIndex_ne_iff := collapseIndex_ne_iff h hslash }
  · intro left right lists others hlists hleft hothers hright hjoin
    -- each slash of the text starts a pattern, so the bodies are what stands between the slashes
    rw [map_pattern_eq, map_pattern_eq] at hjoin ⊢
    rw [Path.eq_of_join_slashed (slash_not_mem_bodies_of_tokenize hlists hleft)
      (slash_not_mem_bodies_of_tokenize hothers hright) hjoin]

/-- A segment of all kinds of characters, and two lists with an empty segment that differ only in how
    a slash is spelled. -/
theorem spelledSlash_fragments :
    ∃ tokens lists others,
      tokenize "[[lang]]-é%2f:x" = .ok tokens ∧ '/' ∉ "[[lang]]-é%2f:x".toList ∧
      FragmentShape "[[lang]]-é%2f:x" (pattern tokens) ∧
      ["", "a%2fb"].mapM tokenize = .ok lists ∧
      (∀ segment ∈ ["", "a%2fb"], '/' ∉ segment.toList) ∧
      ["", "a%2Fb"].mapM tokenize = .ok others ∧
      (∀ segment ∈ ["", "a%2Fb"], '/' ∉ segment.toList) ∧
      String.join (lists.map pattern) = String.join (others.map pattern) ∧
      lists.map pattern = others.map pattern := by
  have htokens : tokenize "[[lang]]-é%2f:x"
      = .ok [⟨.optional, "lang"⟩, ⟨.literal, "-é%2f:x"⟩] := by decide +kernel
  have hslash : '/' ∉ "[[lang]]-é%2f:x".toList := by decide
  have hlower : ["", "a%2fb"].mapM tokenize = .ok [[], [⟨.literal, "a%2fb"⟩]] := by decide +kernel
  have hlower_slash : ∀ segment ∈ ["", "a%2fb"], '/' ∉ segment.toList := by decide
  have hupper : ["", "a%2Fb"].mapM tokenize = .ok [[], [⟨.literal, "a%2Fb"⟩]] := by decide +kernel
  have hupper_slash : ∀ segment ∈ ["", "a%2Fb"], '/' ∉ segment.toList := by decide
  have hjoin : String.join (List.map pattern [[], [⟨.literal, "a%2fb"⟩]])
      = String.join (List.map pattern [[], [⟨.literal, "a%2Fb"⟩]]) := by decide +kernel
  obtain ⟨hshape, hsame⟩ := shape_fragments
  exact ⟨_, _, _, htokens, hslash, hshape _ _ htokens hslash, hlower, hlower_slash, hupper,
    hupper_slash, hjoin, hsame _ _ _ _ hlower hlower_slash hupper hupper_slash hjoin⟩

end FileRoutes.Segment
