import FileRoutes.ScannedFile
import FileRoutes.Proofs.Path.Components

namespace FileRoutes.Collation

/-!
# Collation — the order of file paths

* `isPrefix_of_between` — a text between two texts that start alike starts like them;
* `compare_primaryWeight` — one weight is a class and a rank, of which the class comes first;
* `eq_of_listed` — no other character ranks with the listed punctuation, such as the slash;
* `linear_compare` — `compare` is a linear order, so that sorting sorts, and in one way only, and a
  page comes before everything in the folder of its name;
* `ScannedFile.sort_layout` — in a sorted list, a page comes before the pages in its folder, and
  all that comes between them lies at least as deep as the page.
-/

/-! ### The order -/

instance : Std.TransCmp compare :=
  inferInstanceAs (Std.TransCmp (compareLex (compareOn (weights primaryWeight))
    (compareLex (compareOn (weights tertiaryWeight)) (compareOn (id : String → String)))))

/-- No other text compares as equal: the code points decide in the end. -/
instance : Std.LawfulEqCmp compare where
  eq_of_compare h :=
    Std.LawfulEqCmp.eq_of_compare (Ordering.then_eq_eq.mp (Ordering.then_eq_eq.mp h).2).2

/-- Texts in order have primary weights in order. -/
theorem primary_isLE {a b : String} (h : (compare a b).isLE = true) :
    (Ord.compare (weights primaryWeight a) (weights primaryWeight b)).isLE = true := by
  unfold compare at h
  exact (Ordering.isLE_then_iff_and.mp h).1

/-- Texts whose primary weights are strictly in order are so themselves. -/
theorem eq_lt_of_primary {a b : String}
    (h : Ord.compare (weights primaryWeight a) (weights primaryWeight b) = .lt) :
    compare a b = .lt := by
  unfold compare
  rw [h]
  rfl

/-- What two lists start with alike does not decide their order. -/
theorem compare_append (front left right : List Nat) :
    Ord.compare (front ++ left) (front ++ right) = Ord.compare left right := by
  induction front with
  | nil => rfl
  | cons n front ih =>
    have hself : Ord.compare n n = .eq := Std.ReflCmp.compare_self
    rw [List.cons_append, List.cons_append, List.compare_cons_cons, hself, ih]
    rfl

/-- A list between two lists that start alike starts like them. -/
theorem isPrefix_of_between {front left right middle : List Nat}
    (hleft : (Ord.compare (front ++ left) middle).isLE = true)
    (hright : (Ord.compare middle (front ++ right)).isLE = true) : front <+: middle := by
  induction front generalizing middle with
  | nil => exact List.nil_prefix
  | cons n front ih =>
    cases middle with
    | nil =>
      rw [List.cons_append, List.compare_cons_nil] at hleft
      cases hleft
    | cons m middle =>
      rw [List.cons_append, List.compare_cons_cons, Ordering.isLE_then_iff_and] at hleft hright
      obtain ⟨hnm, hleft⟩ := hleft
      obtain ⟨hmn, hright⟩ := hright
      have heq : n = m :=
        Std.LawfulEqCmp.eq_of_compare (Std.OrientedCmp.isLE_antisymm hnm hmn)
      subst heq
      have hself : Ord.compare n n = .eq := Std.ReflCmp.compare_self
      rw [hself] at hleft hright
      have hlater : front <+: middle :=
        ih (hleft.resolve_left (by decide)) (hright.resolve_left (by decide))
      exact List.cons_prefix_cons.mpr ⟨rfl, hlater⟩

/-! ### Weights -/

/-- Code points end at U+10FFFF. -/
theorem toNat_lt (c : Char) : c.toNat < 0x110000 := by
  rcases c.valid with hlow | ⟨-, hhigh⟩
  · exact Nat.lt_trans hlow (by decide)
  · exact hhigh

/-- The lowercase form of a character lies at most a few code points beyond the last one. -/
theorem lowercaseCode_lt (c : Char) : Unicode.lowercaseCode c < 0x120000 := by
  have hshift : ∀ entry ∈ Unicode.lowercaseShifts, entry.shift < 0x10000 := by decide +kernel
  unfold Unicode.lowercaseCode
  split
  · exact Nat.lt_trans (toNat_lt c.toLower) (by decide)
  · split
    · rename_i entry hentry
      have hentry_shift := hshift entry (List.mem_of_find?_eq_some hentry)
      have hc := toNat_lt c
      omega
    · exact Nat.lt_trans (toNat_lt c) (by decide)

/-- The ranks within one class are less than the distance of the classes. -/
theorem rank_lt (c : Char) : (classify c).2 < 0x200000 := by
  have hc := toNat_lt c
  have hlower := toNat_lt c.toLower
  have hcode := lowercaseCode_lt c
  have hlength : punctuationOrder.length = 32 := by decide +kernel
  unfold classify
  split
  · dsimp only
    omega
  · split
    · dsimp only
      omega
    · split
      · dsimp only
        omega
      · split
        · rename_i rank hrank
          obtain ⟨hlt, -, -⟩ := List.findIdx?_eq_some_iff_getElem.mp hrank
          dsimp only
          omega
        · split
          · dsimp only
            omega
          · dsimp only
            omega

/-- The classes lie that far apart. -/
theorem CharClass.base_add_le {k l : CharClass} (h : k.base < l.base) :
    k.base + 0x200000 ≤ l.base := by
  cases k <;> cases l <;> revert h <;> decide

/-- A class is known by its least weight. -/
theorem CharClass.base_inj {k l : CharClass} (h : k.base = l.base) : k = l := by
  cases k <;> cases l <;> revert h <;> decide

/-- **Classes come first.** Characters compare by their classes, and those of one class by their
    ranks. -/
theorem compare_primaryWeight (c d : Char) :
    Ord.compare (primaryWeight c) (primaryWeight d)
      = (Ord.compare (classify c).1.base (classify d).1.base).then
        (Ord.compare (classify c).2 (classify d).2) := by
  have hc := rank_lt c
  have hd := rank_lt d
  unfold primaryWeight
  rcases Nat.lt_trichotomy (classify c).1.base (classify d).1.base with h | h | h
  · have hapart := CharClass.base_add_le h
    rw [Nat.compare_eq_lt.mpr h, Nat.compare_eq_lt.mpr (by omega)]
    rfl
  · have hranks : ∀ m r s : Nat, Ord.compare (m + r) (m + s) = Ord.compare r s := by
      intro m r s
      simp [Nat.compare_eq_ite_lt]
    rw [h, hranks, Nat.compare_eq_eq.mpr rfl]
    rfl
  · have hapart := CharClass.base_add_le h
    rw [Nat.compare_eq_gt.mpr h, Nat.compare_eq_gt.mpr (by omega)]
    rfl

/-- Characters of one weight are of one class and have one rank in it. -/
theorem classify_eq_of_primaryWeight {c d : Char} (h : primaryWeight c = primaryWeight d) :
    classify c = classify d := by
  have hcompare := compare_primaryWeight c d
  rw [Nat.compare_eq_eq.mpr h] at hcompare
  obtain ⟨hclass, hrank⟩ := Ordering.then_eq_eq.mp hcompare.symm
  exact Prod.ext (CharClass.base_inj (Nat.compare_eq_eq.mp hclass)) (Nat.compare_eq_eq.mp hrank)

/-- **The places of the listed punctuation are its own.** Where punctuation ranks with a listed
    character, it is that character. -/
theorem eq_of_listed {c : Char} {rank : Nat} (h : classify c = (.punctuation, rank))
    (hrank : rank < punctuationOrder.length) : c = punctuationOrder[rank] := by
  unfold classify at h
  split at h
  · cases h
  · split at h
    · cases h
    · split at h
      · cases h
      · split at h
        · rename_i place hplace
          obtain ⟨hlt, heq, -⟩ := List.findIdx?_eq_some_iff_getElem.mp hplace
          cases h
          exact (beq_iff_eq.mp heq).symm
        · -- what is not listed ranks behind the list
          split at h
          · cases h
          · cases h
            omega

/-! ### Slashes -/

/-- No other character weighs as much as the slash. -/
theorem eq_slash_of_primaryWeight {c : Char} (h : primaryWeight c = primaryWeight '/') :
    c = '/' := by
  have hslash : classify '/' = (.punctuation, 18) := by decide +kernel
  have hc : classify c = (.punctuation, 18) := (classify_eq_of_primaryWeight h).trans hslash
  exact eq_of_listed hc (by decide +kernel)

/-- The slashes of a text are counted by their weights. -/
theorem count_weights_slash (text : String) :
    (weights primaryWeight text).count (primaryWeight '/') = text.toList.count '/' := by
  unfold weights
  rw [List.count, List.countP_map, List.count]
  apply List.countP_congr
  intro c _
  simp only [Function.comp_apply, beq_iff_eq]
  exact ⟨eq_slash_of_primaryWeight, fun h => by rw [h]⟩

/-- The weights of a path in the folder of a page. -/
theorem weights_below (page rest : String) :
    weights primaryWeight (Path.stripExtension page ++ "/" ++ rest)
      = weights primaryWeight (Path.stripExtension page)
        ++ primaryWeight '/' :: weights primaryWeight rest := by
  simp [weights]

/-- The weights of a page go on after its name with those of its extension, if it has one. -/
theorem weights_page (page : String) :
    ∃ after, weights primaryWeight page
        = weights primaryWeight (Path.stripExtension page) ++ after ∧
      (after = [] ∨ ∃ extension, after = primaryWeight '.' :: extension) := by
  rcases Path.stripExtension_spec page with h | ⟨extension, -, -, -, h⟩
  · exact ⟨[], by rw [h, List.append_nil], .inl rfl⟩
  · refine ⟨primaryWeight '.' :: extension.map primaryWeight, ?_, .inr ⟨_, rfl⟩⟩
    unfold weights
    rw [h, List.map_append, List.map_cons]

/-- A page comes before everything in the folder of its name. -/
theorem compare_of_below (page rest : String) :
    compare page (Path.stripExtension page ++ "/" ++ rest) = .lt := by
  apply eq_lt_of_primary
  obtain ⟨after, hpage, hafter⟩ := weights_page page
  rw [weights_below, hpage, compare_append]
  rcases hafter with rfl | ⟨extension, rfl⟩
  · rfl
  · -- the point in front of an extension comes before the slash
    have hdot : Ord.compare (primaryWeight '.') (primaryWeight '/') = .lt := by decide +kernel
    rw [List.compare_cons_cons, hdot]
    rfl

/-- **Paths are in one linear order, with layouts first.** Only a path itself compares as equal to
    it, the other way round the result is reversed, paths in order stay so over a third one, and a
    page is strictly before everything in the folder of its name. -/
theorem linear_compare :
    (∀ a b, compare a b = .eq ↔ a = b) ∧
      (∀ a b, compare b a = (compare a b).swap) ∧
      (∀ a b c, compare a b ≠ .gt → compare b c ≠ .gt → compare a c ≠ .gt) ∧
      ∀ page folder rest, folder = Path.stripExtension page →
        compare page (folder ++ "/" ++ rest) = .lt := by
  refine ⟨fun a b => Std.LawfulEqCmp.compare_eq_iff_eq, fun a b => Std.OrientedCmp.eq_swap, ?_, ?_⟩
  · intro a b c hab hbc
    have hac : (compare a c).isLE = true := Std.TransCmp.isLE_trans
      (Ordering.ne_gt_iff_isLE.mp hab) (Ordering.ne_gt_iff_isLE.mp hbc)
    exact Ordering.ne_gt_iff_isLE.mpr hac
  · rintro page _ rest rfl
    exact compare_of_below page rest

/-- A layout, a page in its folder, and the same page in a folder of another case. -/
theorem team_paths_in_order :
    compare "team.vue" "team/list.vue" ≠ .gt ∧ compare "team/list.vue" "Team/list.vue" ≠ .gt ∧
      compare "team.vue" "Team/list.vue" ≠ .gt ∧ "team" = Path.stripExtension "team.vue" ∧
      compare "team.vue" ("team" ++ "/" ++ "list.vue") = .lt := by
  have hfolder : "team" = Path.stripExtension "team.vue" := by decide +kernel
  have hpage : compare "team.vue" "team/list.vue" ≠ .gt := by decide +kernel
  have hcase : compare "team/list.vue" "Team/list.vue" ≠ .gt := by decide +kernel
  exact ⟨hpage, hcase, linear_compare.2.2.1 _ _ _ hpage hcase, hfolder,
    linear_compare.2.2.2 _ _ "list.vue" hfolder⟩

/-- What comes between a page and something in its folder lies at least as deep as the page. -/
theorem length_segments_of_between {page other : String} {rest : String}
    (hpage : (compare page other).isLE = true)
    (hother : (compare other (Path.stripExtension page ++ "/" ++ rest)).isLE = true) :
    (Path.segments page).length ≤ (Path.segments other).length := by
  have hstarts : weights primaryWeight (Path.stripExtension page) <+:
      weights primaryWeight other := by
    obtain ⟨after, hafter, -⟩ := weights_page page
    have hleft := primary_isLE hpage
    have hright := primary_isLE hother
    rw [hafter] at hleft
    rw [weights_below] at hright
    exact isPrefix_of_between hleft hright
  -- its name is as deep as the page, and what starts with it has all of its slashes
  have hcount := hstarts.sublist.count_le (primaryWeight '/')
  rw [count_weights_slash, count_weights_slash, Path.count_slash_stripExtension] at hcount
  rw [Path.length_segments, Path.length_segments]
  omega

end FileRoutes.Collation

namespace FileRoutes

/-! ### Sorted lists -/

/-- Sorted files are in order. -/
theorem ScannedFile.pairwise_sort (files : List ScannedFile) :
    (ScannedFile.sort files).Pairwise fun a b =>
      (Collation.compare a.relative b.relative).isLE = true := by
  apply List.pairwise_mergeSort
  · intro a b c hab hbc
    exact Std.TransCmp.isLE_trans hab hbc
  · intro a b
    rw [Bool.or_eq_true]
    cases hab : Collation.compare a.relative b.relative with
    | lt => exact .inl rfl
    | eq => exact .inl rfl
    | gt =>
      right
      rw [Std.OrientedCmp.lt_of_gt hab]
      rfl

/-- **Layouts come first.** In a sorted list, a page comes before the files in the folder of its
    name, and what comes between them has at least as many segments as the page. -/
theorem ScannedFile.sort_layout {files : List ScannedFile} {i j : Nat} {page below : ScannedFile}
    (hpage : (ScannedFile.sort files)[i]? = some page)
    (hbelow : (ScannedFile.sort files)[j]? = some below) {rest : String}
    (hfolder : below.relative = Path.stripExtension page.relative ++ "/" ++ rest) :
    i < j ∧ ∀ k other, i ≤ k → k ≤ j → (ScannedFile.sort files)[k]? = some other →
      (Path.segments page.relative).length ≤ (Path.segments other.relative).length := by
  have hsorted := ScannedFile.pairwise_sort files
  generalize ScannedFile.sort files = sorted at hpage hbelow hsorted ⊢
  have horder : ∀ {m n : Nat} {a b : ScannedFile}, m ≤ n → sorted[m]? = some a →
      sorted[n]? = some b → (Collation.compare a.relative b.relative).isLE = true := by
    intro m n a b hmn ha hb
    obtain ⟨hm, rfl⟩ := List.getElem?_eq_some_iff.mp ha
    obtain ⟨hn, rfl⟩ := List.getElem?_eq_some_iff.mp hb
    rcases Nat.lt_or_eq_of_le hmn with hlt | heq
    · exact List.pairwise_iff_getElem.mp hsorted m n hm hn hlt
    · subst heq
      have hself : Collation.compare sorted[m].relative sorted[m].relative = .eq :=
        Std.ReflCmp.compare_self
      rw [hself]
      rfl
  have hfirst : Collation.compare page.relative below.relative = .lt := by
    rw [hfolder]
    exact Collation.compare_of_below page.relative rest
  constructor
  · apply Nat.lt_of_not_le
    intro hji
    have hback := horder hji hbelow hpage
    rw [Std.OrientedCmp.gt_of_lt hfirst] at hback
    cases hback
  · intro k other hik hkj hother
    have hlower := horder hik hpage hother
    have hupper := horder hkj hother hbelow
    rw [hfolder] at hupper
    exact Collation.length_segments_of_between hlower hupper

end FileRoutes
