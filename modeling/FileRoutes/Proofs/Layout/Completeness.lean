import FileRoutes.Proofs.Collation
import FileRoutes.Proofs.Layout.Built
import FileRoutes.Proofs.Layout.Leads
import FileRoutes.Proofs.Mount

namespace FileRoutes

open Segment

/-!
# Layouts — no page of a folder is left outside the folder's page

In a sorted list a page comes before the files in the folder of its name, and whatever comes
between them lies at least as deep. So the segments of the folder lead to the page, or to one
before it with the same texts, until the last of these files is placed.

* `Forest.Built.leads_until` — segments lead to the same layout until a later file has its turn;
* `Forest.layout_complete` — the statement about the forest of a sorted list of files.
-/

/-- **Run.** What segments lead to stays the same over files that lie at least as deep. -/
theorem Forest.Built.leads_until {mount : Mount} {files : List ScannedFile} {forest : Forest}
    {addresses : List (List Nat)} (h : Forest.Built mount files forest addresses)
    {lists : List (List Token)} (hlists : ∀ tokens ∈ lists, Proper tokens) {target : List Nat}
    {i j : Nat} (hj : j ≤ files.length)
    (hproper : ∀ file ∈ files, "" ∉ Path.segments file.relative)
    (hdeep : ∀ k file, i < k → k < j → files[k]? = some file →
      lists.length ≤ (Path.segments file.relative).length)
    {start : Forest} (hstart : Forest.Built mount (files.take (i + 1)) start
      (addresses.take (i + 1)))
    (hleads : Forest.Leads (.start mount) lists start target) (hij : i < j) :
    ∃ middle, Forest.Built mount (files.take j) middle (addresses.take j) ∧
      Forest.Leads (.start mount) lists middle target := by
  induction j, hij using Nat.le_induction with
  | base => exact ⟨start, hstart, hleads⟩
  | succ k hik ih =>
    have hk : k < files.length := hj
    obtain ⟨middle, hmiddle, hmiddle_leads⟩ := ih (Nat.le_of_lt hk) fun n file hin hnk hfile =>
      hdeep n file hin (Nat.lt_succ_of_lt hnk) hfile
    obtain ⟨file, own, address, before, after, hfile, _, htokens, hbefore, hafter, hdescent⟩ :=
      h.step hk
    cases hbefore.build.symm.trans hmiddle.build
    refine ⟨after, hafter, ?_⟩
    obtain ⟨path, hgraft⟩ := hdescent.graft
    apply hmiddle_leads.graft hlists hgraft
    -- a file with as many segments has a name with as many components
    have hown : ∀ tokens ∈ own, Proper tokens := fun t ht =>
      Path.proper_of_mem_tokens htokens (hproper file (List.mem_of_getElem? hfile)) ht
    have hlength := hdeep k file hik (Nat.lt_succ_self k) hfile
    rw [Pending.nameParts_walk hown, List.length_append, List.length_map,
      Path.length_tokens htokens]
    omega

/-- The segments of a page with a file in its folder add no name `index`. -/
theorem Path.ne_index_of_below {page below rest : String}
    (hbelow : below = Path.stripExtension page ++ "/" ++ rest) (h : Path.NoIndexFolder below)
    {lists : List (List Token)} (hlists : Path.tokens page = .ok lists) :
    ∀ tokens ∈ lists, Segment.name tokens ≠ "index" := by
  intro tokens ht hindex
  obtain ⟨segment, hsegment, htokens⟩ := Path.exists_segment_of_mem_tokens hlists ht
  have hsegments : Path.segments below = Path.segments page ++ Path.segments rest := by
    rw [hbelow, Path.segments_append]
  have hfolder : segment ∈ (Path.segments below).dropLast := by
    rw [hsegments, List.dropLast_append_of_ne_nil (Path.segments_ne_nil rest)]
    exact List.mem_append_left _ hsegment
  apply h segment hfolder
  rw [Segment.addedName?_of_tokenize htokens, hindex]

/-- The tokens of a file in the folder of a page continue those of the page. -/
theorem Path.tokens_below {page below rest : String}
    (hbelow : below = Path.stripExtension page ++ "/" ++ rest) {front all : List (List Token)}
    (hfront : Path.tokens page = .ok front) (hall : Path.tokens below = .ok all) :
    ∃ later, later ≠ [] ∧ all = front ++ later := by
  unfold Path.tokens at hfront hall
  rw [hbelow, Path.segments_append, List.mapM_append, hfront] at hall
  cases hlater : (Path.segments rest).mapM tokenize with
  | error fault =>
    rw [hlater] at hall
    cases hall
  | ok later =>
    rw [hlater] at hall
    exact ⟨later, Path.tokens_ne_nil hlater, (Except.ok.inj hall).symm⟩

/-- **Layouts are complete.** In the forest of a sorted list of files, every file in the folder of a
    page's name is below that page, or below one before it on its level that has the name and the
    path of the page. -/
theorem Forest.layout_complete {mount : Mount} (hmount : mount.Tidy) {files : List ScannedFile}
    (hfiles : ∀ file ∈ files,
      "" ∉ Path.segments file.relative ∧ Path.NoIndexFolder file.relative)
    {forest : Forest}
    (h : (Forest.build (ScannedFile.sort files) mount).result = .ok forest) {i j : Nat}
    {page below : ScannedFile} (hpage : (ScannedFile.sort files)[i]? = some page)
    (hbelow : (ScannedFile.sort files)[j]? = some below) {rest : String}
    (hfolder : below.relative = Path.stripExtension page.relative ++ "/" ++ rest) :
    ∃ folder first own deeper, deeper ≠ [] ∧ first ≤ own ∧
      Forest.Places mount (ScannedFile.sort files) i (folder ++ [own]) ∧
      Forest.Places mount (ScannedFile.sort files) j (folder ++ first :: deeper) ∧
      ∃ found node, Forest.at? forest (folder ++ [first]) = some found ∧
        Forest.at? forest (folder ++ [own]) = some node ∧
        found.name = node.name ∧ found.path = node.path := by
  obtain ⟨hij, hdeep⟩ := ScannedFile.sort_layout hpage hbelow hfolder
  have hsorted : ∀ file ∈ ScannedFile.sort files,
      "" ∉ Path.segments file.relative ∧ Path.NoIndexFolder file.relative := fun file hmem =>
    hfiles file ((ScannedFile.sort_perm files).mem_iff.mp hmem)
  generalize ScannedFile.sort files = sorted at h hpage hbelow hdeep hsorted ⊢
  obtain ⟨addresses, hbuilt⟩ := Forest.built_of_build h
  have hi_lt : i < sorted.length := (List.getElem?_eq_some_iff.mp hpage).1
  have hj_lt : j < sorted.length := (List.getElem?_eq_some_iff.mp hbelow).1
  -- the page is placed, and the segments of its folder lead to it from then on
  obtain ⟨page', lists, address, before, after, hpage', haddress, htokens, _, hafter, hdescent⟩ :=
    hbuilt.step hi_lt
  cases hpage'.symm.trans hpage
  have hproper : ∀ tokens ∈ lists, Proper tokens := fun t ht =>
    Path.proper_of_mem_tokens htokens (hsorted page (List.mem_of_getElem? hpage)).1 ht
  have hindex := Path.ne_index_of_below hfolder
    (hsorted below (List.mem_of_getElem? hbelow)).2 htokens
  obtain ⟨folder, first, own, rfl, hle, hleads, found, node, hfound, hnode, hname, hpath⟩ :=
    hdescent.leads (Path.tokens_ne_nil htokens) (fun t ht => ⟨hproper t ht, hindex t ht⟩)
      hmount.start
  -- the file in its folder follows them
  obtain ⟨below', all, address', middle, _, hbelow', haddress', hall, hmiddle, _, hdescent'⟩ :=
    hbuilt.step hj_lt
  cases hbelow'.symm.trans hbelow
  obtain ⟨later, hlater, rfl⟩ := Path.tokens_below hfolder htokens hall
  obtain ⟨middle', hmiddle', hleads'⟩ :=
    hbuilt.leads_until hproper (Nat.le_of_lt hj_lt) (fun file hmem => (hsorted file hmem).1)
      (fun k file hik hkj hfile => by
        rw [Path.length_tokens htokens]
        exact hdeep k file (Nat.le_of_lt hik) (Nat.le_of_lt hkj) hfile)
      hafter hleads hij
  cases hmiddle'.build.symm.trans hmiddle.build
  obtain ⟨deeper, hdeeper, rfl⟩ := hleads'.descent hlater hdescent'
  -- later files keep the texts of both pages
  obtain ⟨found', hfound', hfound_bare⟩ := hbuilt.persists hafter hfound
  obtain ⟨node', hnode', hnode_bare⟩ := hbuilt.persists hafter hnode
  obtain ⟨hfound_name, hfound_path, -⟩ := Route.texts_eq_of_bare hfound_bare
  obtain ⟨hnode_name, hnode_path, -⟩ := Route.texts_eq_of_bare hnode_bare
  exact ⟨folder, first, own, deeper, hdeeper, hle, hbuilt.places_iff.mpr haddress,
    hbuilt.places_iff.mpr (by simpa using haddress'), found', node', hfound', hnode',
    by rw [hfound_name, hname, hnode_name], by rw [hfound_path, hpath, hnode_path]⟩

/-- The pages of a guide in no order: the page of its folder is there twice. -/
def guidePages : List ScannedFile :=
  [⟨"guide/start.vue", "/pages/guide/start.vue", "Docs"⟩,
    ⟨"guide.vue", "/pages/guide.vue", "Docs"⟩, ⟨"guide.ts", "/pages/guide.ts", "Docs"⟩]

/-- The pages of the guide in their order. -/
theorem sort_guidePages : ScannedFile.sort guidePages =
    [⟨"guide.ts", "/pages/guide.ts", "Docs"⟩, ⟨"guide.vue", "/pages/guide.vue", "Docs"⟩,
      ⟨"guide/start.vue", "/pages/guide/start.vue", "Docs"⟩] := by
  have hfolder : (Collation.compare "guide/start.vue" "guide.vue").isLE = false := by
    decide +kernel
  have htwice : (Collation.compare "guide.vue" "guide.ts").isLE = false := by decide +kernel
  simp [ScannedFile.sort, guidePages, List.mergeSort, hfolder, htwice]

/-- The page in the folder of a guide that is there twice is below the first of the two, which has
    the name and the path of the second. -/
theorem guide_nested_in_first :
    ∃ forest, (Forest.build (ScannedFile.sort guidePages) (.ofDomain "Docs")).result = .ok forest ∧
      ∃ folder first own deeper, deeper ≠ [] ∧ first ≤ own ∧
        Forest.Places (.ofDomain "Docs") (ScannedFile.sort guidePages) 1 (folder ++ [own]) ∧
        Forest.Places (.ofDomain "Docs") (ScannedFile.sort guidePages) 2
          (folder ++ first :: deeper) ∧
        ∃ found node, Forest.at? forest (folder ++ [first]) = some found ∧
          Forest.at? forest (folder ++ [own]) = some node ∧
          found.name = node.name ∧ found.path = node.path := by
  have hmount : (Mount.ofDomain "Docs").Tidy := .ofDomain (by decide +kernel)
  have hfiles : ∀ file ∈ guidePages,
      "" ∉ Path.segments file.relative ∧ Path.NoIndexFolder file.relative := by decide +kernel
  have hforest : (Forest.build (ScannedFile.sort guidePages) (.ofDomain "Docs")).result = .ok
      [⟨some "Docs/guide", "/Docs/guide", "/pages/guide.ts",
          [⟨some "Docs/guide/start", "/start", "/pages/guide/start.vue", []⟩]⟩,
        ⟨some "Docs/guide", "/Docs/guide", "/pages/guide.vue", []⟩] := by
    rw [sort_guidePages]
    decide +kernel
  have hpage : (ScannedFile.sort guidePages)[1]?
      = some ⟨"guide.vue", "/pages/guide.vue", "Docs"⟩ := by
    rw [sort_guidePages]
    rfl
  have hbelow : (ScannedFile.sort guidePages)[2]?
      = some ⟨"guide/start.vue", "/pages/guide/start.vue", "Docs"⟩ := by
    rw [sort_guidePages]
    rfl
  have hfolder : "guide/start.vue" = Path.stripExtension "guide.vue" ++ "/" ++ "start.vue" := by
    decide +kernel
  exact ⟨_, hforest, Forest.layout_complete hmount hfiles hforest hpage hbelow hfolder⟩

end FileRoutes
