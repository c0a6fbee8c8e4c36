import FileRoutes.Handlers
import FileRoutes.Pages
import FileRoutes.Proofs.Collation
import Mathlib.Data.List.Basic

namespace FileRoutes

/-!
# Lists of paths — the order in which they are given

The files of a list of paths are sorted before anything is made from them. Below one root, a file
is told by its relative path alone, so that there is one way to sort them, whatever the order of
the list.

* `ScannedFile.eq_of_under` — files below one root that have the same relative path are the same;
* `ScannedFile.sort_eq_of_perm` — there is one way to sort files that their relative paths tell;
* `ScannedFile.sort_under_eq_of_perm` — so it is for the files of two lists of the same paths;
* `same_results_of_perm` — the statement about pages and handlers.
-/

/-! ### Sorted files -/

/-- Below one root, the relative path of a file tells the file. -/
theorem ScannedFile.eq_of_under {root domain path path' : String}
    (h : (ScannedFile.under root path domain).relative
      = (ScannedFile.under root path' domain).relative) :
    ScannedFile.under root path domain = ScannedFile.under root path' domain := by
  have hrelative : Path.trimLeading (Path.forwardSlashes path)
      = Path.trimLeading (Path.forwardSlashes path') := h
  unfold ScannedFile.under
  rw [hrelative]

/-- **There is one way to sort.** Lists of the same files are sorted alike if different files have
    different relative paths. -/
theorem ScannedFile.sort_eq_of_perm {left right : List ScannedFile} (h : left.Perm right)
    (htold : ∀ a ∈ left, ∀ b ∈ left, a.relative = b.relative → a = b) :
    ScannedFile.sort left = ScannedFile.sort right := by
  apply List.Perm.eq_of_pairwise _ (ScannedFile.pairwise_sort left)
    (ScannedFile.pairwise_sort right)
  · exact (ScannedFile.sort_perm left).trans (h.trans (ScannedFile.sort_perm right).symm)
  · intro a b ha hb hab hba
    have ha_left : a ∈ left := (ScannedFile.sort_perm left).mem_iff.mp ha
    have hb_left : b ∈ left := h.mem_iff.mpr ((ScannedFile.sort_perm right).mem_iff.mp hb)
    apply htold a ha_left b hb_left
    exact Std.LawfulEqCmp.eq_of_compare (Std.OrientedCmp.isLE_antisymm hab hba)

/-- The files of two lists of the same paths below one root are sorted alike. -/
theorem ScannedFile.sort_under_eq_of_perm {paths paths' : List String} (h : paths.Perm paths')
    (root domain : String) :
    ScannedFile.sort (paths.map (ScannedFile.under root · domain))
      = ScannedFile.sort (paths'.map (ScannedFile.under root · domain)) := by
  apply ScannedFile.sort_eq_of_perm (h.map _)
  intro a ha b hb hrelative
  obtain ⟨path, -, rfl⟩ := List.mem_map.mp ha
  obtain ⟨path', -, rfl⟩ := List.mem_map.mp hb
  exact ScannedFile.eq_of_under hrelative

/-- The page files of two lists of the same paths are the same, in the same order. -/
theorem Pages.files_eq_of_perm {paths paths' : List String} (h : paths.Perm paths')
    (config : Config) (domain root : String) :
    Pages.files config domain root paths = Pages.files config domain root paths' :=
  ScannedFile.sort_under_eq_of_perm (h.filter config.accepts) root domain

/-! ### Results -/

/-- **The order of the paths does not matter.** On two lists of the same paths, compiling the pages
    fails with the same fault, which all texts of the failure are made from, or gives the same
    routes and the same diagnostics in the same order, where the paths left out are the same up
    to their order. Resolving the handlers has the same fault or the same table. -/
theorem same_results_of_perm {paths paths' : List String} (h : paths.Perm paths')
    (config : Config) (domain root : String) :
    ((∃ fault, Pages.compile config domain root paths = .error fault ∧
        Pages.compile config domain root paths' = .error fault) ∨
      ∃ pages pages', Pages.compile config domain root paths = .ok pages ∧
        Pages.compile config domain root paths' = .ok pages' ∧
        pages.routes = pages'.routes ∧ pages.diagnostics = pages'.diagnostics ∧
        pages.skipped.Perm pages'.skipped) ∧
    ∀ kind, Handler.resolve domain root kind paths = Handler.resolve domain root kind paths' := by
  constructor
  · unfold Pages.compile
    rw [Pages.files_eq_of_perm h config domain root]
    cases Forest.compile (Pages.files config domain root paths') (config.mount domain) with
    | error fault => exact .inl ⟨fault, rfl, rfl⟩
    | ok compiled => exact .inr ⟨_, _, rfl, rfl, rfl, rfl, h.filter _⟩
  · intro kind
    unfold Handler.resolve
    rw [ScannedFile.sort_under_eq_of_perm h root domain]

/-- Paths of which two lead to the same page, and one to no page. -/
def mixedPaths : List String := ["team/list.vue", "/team.vue", "notes.md", "team\\list.vue"]

/-- The pages of these paths: a page with two pages of one name below it. -/
def mixedPages : Pages :=
  ⟨[⟨some "team", "/team", "/pages/team.vue",
      [⟨some "team-list", "list", "/pages/team/list.vue", []⟩,
        ⟨some "team-list", "list", "/pages/team/list.vue", []⟩]⟩],
    [⟨"team-list", "/pages/team/list.vue", "/pages/team/list.vue"⟩], ["notes.md"]⟩

/-- The handlers of these paths, which are of all files. -/
def mixedHandlers : List (String × String) :=
  [("/api/notes", "/pages/notes.md"), ("/api/team", "/pages/team.vue"),
    ("/api/team/list", "/pages/team/list.vue"), ("/api/team/list", "/pages/team/list.vue")]

/-- The files of these paths in their order: the pages, and all of them. -/
theorem sort_mixedPaths :
    Pages.files .default "" "/pages" mixedPaths
        = [⟨"team.vue", "/pages/team.vue", ""⟩, ⟨"team/list.vue", "/pages/team/list.vue", ""⟩,
          ⟨"team/list.vue", "/pages/team/list.vue", ""⟩] ∧
      ScannedFile.sort (mixedPaths.map (ScannedFile.under "/pages" · ""))
        = [⟨"notes.md", "/pages/notes.md", ""⟩, ⟨"team.vue", "/pages/team.vue", ""⟩,
          ⟨"team/list.vue", "/pages/team/list.vue", ""⟩,
          ⟨"team/list.vue", "/pages/team/list.vue", ""⟩] := by
  have haccepted : (mixedPaths.filter Config.default.accepts).map (ScannedFile.under "/pages" · "")
      = [⟨"team/list.vue", "/pages/team/list.vue", ""⟩, ⟨"team.vue", "/pages/team.vue", ""⟩,
        ⟨"team/list.vue", "/pages/team/list.vue", ""⟩] := by decide +kernel
  have hall : mixedPaths.map (ScannedFile.under "/pages" · "")
      = [⟨"team/list.vue", "/pages/team/list.vue", ""⟩, ⟨"team.vue", "/pages/team.vue", ""⟩,
        ⟨"notes.md", "/pages/notes.md", ""⟩, ⟨"team/list.vue", "/pages/team/list.vue", ""⟩] := by
    decide +kernel
  have hfolder : (Collation.compare "team/list.vue" "team.vue").isLE = false := by decide +kernel
  have hpage : (Collation.compare "team.vue" "team/list.vue").isLE = true := by decide +kernel
  have hsame : (Collation.compare "team/list.vue" "team/list.vue").isLE = true := by
    decide +kernel
  have hnotes : (Collation.compare "notes.md" "team/list.vue").isLE = true := by decide +kernel
  have hteam : (Collation.compare "team.vue" "notes.md").isLE = false := by decide +kernel
  rw [Pages.files, haccepted, hall]
  simp [ScannedFile.sort, List.mergeSort, hfolder, hpage, hsame, hnotes, hteam]

/-- Read from the end, these paths have the same pages and the same handlers. -/
theorem mixedPaths_reverse :
    mixedPaths.Perm mixedPaths.reverse ∧
    Pages.compile .default "" "/pages" mixedPaths = .ok mixedPages ∧
    Pages.compile .default "" "/pages" mixedPaths.reverse = .ok mixedPages ∧
    Handler.resolve "" "/pages" .api mixedPaths = .ok mixedHandlers ∧
    Handler.resolve "" "/pages" .api mixedPaths.reverse = .ok mixedHandlers ∧
    ((∃ fault, Pages.compile .default "" "/pages" mixedPaths = .error fault ∧
        Pages.compile .default "" "/pages" mixedPaths.reverse = .error fault) ∨
      ∃ pages pages', Pages.compile .default "" "/pages" mixedPaths = .ok pages ∧
        Pages.compile .default "" "/pages" mixedPaths.reverse = .ok pages' ∧
        pages.routes = pages'.routes ∧ pages.diagnostics = pages'.diagnostics ∧
        pages.skipped.Perm pages'.skipped) ∧
    ∀ kind, Handler.resolve "" "/pages" kind mixedPaths
      = Handler.resolve "" "/pages" kind mixedPaths.reverse := by
  have hperm : mixedPaths.Perm mixedPaths.reverse := mixedPaths.reverse_perm.symm
  have hcompiled : Forest.compile (Pages.files .default "" "/pages" mixedPaths)
      (Config.default.mount "") = .ok ⟨mixedPages.routes,
        [.duplicate ⟨"team-list", "/pages/team/list.vue", "/pages/team/list.vue"⟩]⟩ := by
    rw [sort_mixedPaths.1]
    decide +kernel
  have hskipped : mixedPaths.filter (!Config.default.accepts ·) = ["notes.md"] := by
    decide +kernel
  have hpages : Pages.compile .default "" "/pages" mixedPaths = .ok mixedPages := by
    rw [Pages.compile, hcompiled, hskipped]
    rfl
  have hhandlers : Handler.resolve "" "/pages" .api mixedPaths = .ok mixedHandlers := by
    rw [Handler.resolve, sort_mixedPaths.2]
    decide +kernel
  obtain ⟨hresults, htables⟩ := same_results_of_perm hperm .default "" "/pages"
  have hreverse : Pages.compile .default "" "/pages" mixedPaths.reverse = .ok mixedPages := by
    rcases hresults with ⟨fault, hfault, -⟩ | ⟨pages, ⟨routes, diagnostics, skipped⟩, hfront, hback,
      hroutes, hdiagnostics, hleft⟩
    · cases hpages.symm.trans hfault
    · cases hpages.symm.trans hfront
      cases hroutes
      cases hdiagnostics
      cases List.singleton_perm.mp hleft
      exact hback
  exact ⟨hperm, hpages, hreverse, hhandlers, (htables .api).symm.trans hhandlers, hresults, htables⟩

end FileRoutes
