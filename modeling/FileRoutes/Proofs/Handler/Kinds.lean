import FileRoutes.Proofs.Handler.Collisions

namespace FileRoutes

open Segment

/-!
# Handlers — the two kinds of handlers

The handlers of one folder are those of the other one below `/api`, and slashes around the name of a
domain do not count, as long as the domain is written plainly: the two kinds treat other slashes in
different ways.

* `Path.trim` — a path without the slashes at both ends;
* `Url.relative_eq_self_iff` — when nothing is cut off the start of a piece that is joined to
  another;
* `Handler.PlainDomain` — the domains for which both kinds agree;
* `Handler.bases_agree_iff` — this is so exactly for the texts that handlers start from;
* `Handler.kinds_agree_iff` — the statement about the URLs of a handler;
* `Handler.trailing_slash_doubled` — two domains for which they do not.
-/

/-! ### Slashes at the ends of a path -/

/-- The path without the slashes at both ends. -/
def Path.trim (path : String) : String := Path.trimTrailing (Path.trimLeading path)

/-- A slash in front of a path is cut off. -/
theorem Path.trim_slash_append (path : String) : Path.trim ("/" ++ path) = Path.trim path := by
  have hleading : Path.trimLeading ("/" ++ path) = Path.trimLeading path := by
    apply String.toList_inj.mp
    simp
  rw [Path.trim, hleading, Path.trim]

/-- A trimmed path does not end in a slash. -/
theorem Path.getLast?_trim (path : String) : (Path.trim path).toList.getLast? ≠ some '/' :=
  Path.getLast?_trimTrailing _

/-- A trimmed path does not start with a slash. -/
theorem Path.head?_trim (path : String) : (Path.trim path).toList.head? ≠ some '/' := by
  intro hhead
  obtain ⟨slashes, hslashes⟩ := Path.trimTrailing_prefix (Path.trimLeading path)
  apply Path.head?_trimLeading path
  rw [← hslashes, List.head?_append]
  unfold Path.trim at hhead
  rw [hhead, Option.some_or]

/-- Trimming a trimmed path changes nothing. -/
theorem Path.trim_trim (path : String) : Path.trim (Path.trim path) = Path.trim path :=
  Path.trim_eq_self (Path.head?_trim path) (Path.getLast?_trim path)

/-! ### The start of a piece -/

/-- A text is longer than what follows its start. -/
private theorem append_ne_self {start : String} (h : start ≠ "") (rest : String) :
    start ++ rest ≠ rest := by
  intro heq
  have hlength := congrArg (fun text : String => text.toList.length) heq
  simp only [String.toList_append, List.length_append] at hlength
  exact h (String.toList_inj.mp (List.length_eq_zero_iff.mp (by omega)))

/-- A `./` at the start of a piece that is joined to another is cut off. -/
theorem Url.relative_dot_append (rest : String) : Url.relative ("./" ++ rest) = rest := by
  simp [Url.relative]

/-- So is a slash. -/
theorem Url.relative_slash_append (rest : String) : Url.relative ("/" ++ rest) = rest := by
  simp [Url.relative]

/-- A piece that does not start with a slash stays as it is exactly if it does not start with `./`
    either. -/
theorem Url.relative_eq_self_iff {piece : String} (hhead : piece.toList.head? ≠ some '/') :
    Url.relative piece = piece ↔ ¬ ['.', '/'] <+: piece.toList := by
  constructor
  · rintro hself ⟨rest, hrest⟩
    have hpiece : piece = "./" ++ String.ofList rest := String.toList_inj.mp (by simp [← hrest])
    rw [hpiece, Url.relative_dot_append] at hself
    exact append_ne_self (by decide) _ hself.symm
  · intro hdot
    unfold Url.relative
    split
    · rename_i rest hpiece
      exact absurd ⟨rest, hpiece.symm⟩ hdot
    · rename_i rest hpiece
      exact absurd (by rw [hpiece]; rfl) hhead
    · rfl

/-- A text starts with `./`, with a slash, or with neither. -/
private theorem start_cases (text : String) :
    (∃ rest, text = "./" ++ rest) ∨ (∃ rest, text = "/" ++ rest) ∨
      (text.toList.head? ≠ some '/' ∧ ¬ ['.', '/'] <+: text.toList) := by
  by_cases hdot : ['.', '/'] <+: text.toList
  · obtain ⟨rest, hrest⟩ := hdot
    exact .inl ⟨String.ofList rest, String.toList_inj.mp (by simp [← hrest])⟩
  by_cases hhead : text.toList.head? = some '/'
  · obtain ⟨rest, hrest⟩ := List.head?_eq_some_iff.mp hhead
    exact .inr (.inl ⟨String.ofList rest, String.toList_inj.mp (by simp [hrest])⟩)
  · exact .inr (.inr ⟨hhead, hdot⟩)

/-- The URL without the slash that the empty one is written as. -/
def Url.orNothing (url : String) : String := if url = "/" then "" else url

/-- Writing the empty URL as a slash is undone, unless the URL is a slash anyway. -/
theorem Url.orNothing_orSlash {url : String} (h : url ≠ "/") :
    Url.orNothing (Url.orSlash url) = url := by
  unfold Url.orSlash
  split
  · rename_i hempty
    rw [hempty]
    rfl
  · exact if_neg h

namespace Handler

/-- The domains that both kinds of handlers read in the same way. -/
structure PlainDomain (domain : String) : Prop where
  noTrailingSlash : domain.toList.getLast? ≠ some '/'
  noDoubleSlash : ¬ ['/', '/'] <+: domain.toList
  /-- There is no `./` at the start, -/
  noDot : ¬ ['.', '/'] <+: domain.toList
  /-- and none behind a slash at the start. -/
  noDotBehindSlash : ¬ ['/', '.', '/'] <+: domain.toList

/-- Whether a domain is plain, condition by condition. -/
theorem plainDomain_iff {domain : String} :
    PlainDomain domain ↔ domain.toList.getLast? ≠ some '/' ∧ ¬ ['/', '/'] <+: domain.toList ∧
      ¬ ['.', '/'] <+: domain.toList ∧ ¬ ['/', '.', '/'] <+: domain.toList :=
  ⟨fun h => ⟨h.1, h.2, h.3, h.4⟩, fun h => ⟨h.1, h.2.1, h.2.2.1, h.2.2.2⟩⟩

instance : DecidablePred PlainDomain := fun _ => decidable_of_iff _ plainDomain_iff.symm

/-! ### The texts that handlers start from -/

/-- The handlers of the first kind start from `/api` and the domain without `./` or a slash at its
    start, if there is more to it. -/
theorem base_api {domain : String} (hempty : domain ≠ "") (hslash : domain ≠ "/") :
    Kind.base .api domain = "/api/" ++ Url.relative domain := by
  have hadds : Url.addsNothing domain = false := by simp [Url.addsNothing, hempty, hslash]
  have hbase : Url.withTrailingSlash "/api" = "/api/" := by decide +kernel
  rw [Kind.base, Url.join, hadds, if_neg Bool.false_ne_true, if_neg (by decide), hbase]

/-- The handlers of the other kind start from a slash and the trimmed domain. -/
theorem base_route_of_ne {domain : String} (hempty : domain ≠ "") :
    Kind.base .route domain = "/" ++ Path.trim domain :=
  if_neg hempty

/-- The texts start alike exactly if the same is cut off the start of the domain. -/
theorem base_api_eq_iff {domain : String} (hempty : domain ≠ "") (hslash : domain ≠ "/") :
    Kind.base .api domain = "/api" ++ Kind.base .route domain ↔
      Url.relative domain = Path.trim domain := by
  have happ : "/api" ++ ("/" ++ Path.trim domain) = "/api/" ++ Path.trim domain := by
    rw [← String.append_assoc]
    rfl
  rw [base_api hempty hslash, base_route_of_ne hempty, happ, String.append_right_inj]

/-- A text that starts with a slash is no start of one that does not. -/
private theorem not_prefix_of_head? {start text : List Char} (hstart : start.head? = some '/')
    (htext : text.head? ≠ some '/') : ¬ start <+: text := by
  rintro ⟨rest, rfl⟩
  exact htext (by rw [List.head?_append, hstart, Option.some_or])

/-- A domain that does not start with a slash is plain if it does not end in one either, and if it
    does not start with `./`. -/
theorem plainDomain_iff_of_head? {domain : String} (hhead : domain.toList.head? ≠ some '/') :
    PlainDomain domain ↔ domain.toList.getLast? ≠ some '/' ∧ ¬ ['.', '/'] <+: domain.toList :=
  ⟨fun h => ⟨h.noTrailingSlash, h.noDot⟩,
    fun h => ⟨h.1, not_prefix_of_head? rfl hhead, h.2, not_prefix_of_head? rfl hhead⟩⟩

/-- A slash in front of a text that is not empty leaves its end as it is. -/
private theorem getLast?_append_of_ne {rest : String} (hempty : rest ≠ "") (start : String) :
    (start ++ rest).toList.getLast? = rest.toList.getLast? := by
  have hlist : rest.toList ≠ [] := fun hnil => hempty (String.toList_inj.mp hnil)
  rw [String.toList_append, List.getLast?_append, List.getLast?_eq_some_getLast hlist,
    Option.some_or]

/-- A domain that starts with a slash is plain if what follows is plain and does not start with
    one. -/
theorem plainDomain_slash_append {rest : String} (hempty : rest ≠ "") :
    PlainDomain ("/" ++ rest) ↔ rest.toList.head? ≠ some '/' ∧ PlainDomain rest := by
  have hchars : ("/" ++ rest).toList = '/' :: rest.toList := by simp
  have hdot : ¬ ['.', '/'] <+: '/' :: rest.toList := by simp
  have hdouble : ['/', '/'] <+: '/' :: rest.toList ↔ rest.toList.head? = some '/' := by
    simp [List.singleton_prefix_iff_head?_eq_some]
  have hslash_dot : ['/', '.', '/'] <+: '/' :: rest.toList ↔ ['.', '/'] <+: rest.toList := by simp
  rw [plainDomain_iff, getLast?_append_of_ne hempty, hchars, hdouble, hslash_dot]
  constructor
  · rintro ⟨hend, hhead, -, hrest_dot⟩
    exact ⟨hhead, (plainDomain_iff_of_head? hhead).mpr ⟨hend, hrest_dot⟩⟩
  · rintro ⟨hhead, hplain⟩
    exact ⟨hplain.noTrailingSlash, hhead, hdot, hplain.noDot⟩

/-- What is left of a domain that starts with `./` is not the trimmed domain. -/
private theorem trim_dot_ne (rest : String) : Path.trim ("./" ++ rest) ≠ rest := by
  intro heq
  by_cases hempty : rest = ""
  · subst hempty
    exact absurd heq (by decide +kernel)
  · have hend : ("./" ++ rest).toList.getLast? ≠ some '/' := by
      rw [getLast?_append_of_ne hempty]
      exact heq ▸ Path.getLast?_trim _
    have hself : Path.trim ("./" ++ rest) = "./" ++ rest :=
      Path.trim_eq_self (by simp) hend
    exact append_ne_self (by decide) rest (hself.symm.trans heq)

/-- A slash in front of a domain does not count exactly if the domain does not start with `./`. -/
theorem base_slash_append_iff {rest : String} (hempty : rest ≠ "")
    (hhead : rest.toList.head? ≠ some '/') :
    (∀ kind : Kind, kind.base rest = kind.base ("/" ++ rest)) ↔ ¬ ['.', '/'] <+: rest.toList := by
  have hslash : rest ≠ "/" := fun heq => hhead (by rw [heq]; rfl)
  have hslash_empty : "/" ++ rest ≠ "" := fun heq => hempty (String.append_eq_empty_iff.mp heq).2
  have hslash_slash : "/" ++ rest ≠ "/" := fun heq =>
    hempty ((String.append_right_inj "/").mp (heq.trans (String.append_empty (s := "/")).symm))
  have hroute : Kind.base .route rest = Kind.base .route ("/" ++ rest) := by
    rw [base_route_of_ne hempty, base_route_of_ne hslash_empty, Path.trim_slash_append]
  have hapi : Kind.base .api rest = Kind.base .api ("/" ++ rest) ↔ Url.relative rest = rest := by
    rw [base_api hempty hslash, base_api hslash_empty hslash_slash, Url.relative_slash_append,
      String.append_right_inj]
  rw [← Url.relative_eq_self_iff hhead, ← hapi]
  constructor
  · exact fun h => h .api
  · intro h kind
    cases kind with
    | api => exact h
    | route => exact hroute

/-- **Both kinds start alike exactly from plain domains:** one from `/api` and the text that the
    other one starts from, and both as if there were no slashes around the domain. -/
theorem bases_agree_iff (domain : String) :
    (Kind.base .api domain = "/api" ++ Kind.base .route domain ∧
      ∀ kind : Kind, kind.base (Path.trim domain) = kind.base domain) ↔ PlainDomain domain := by
  by_cases hempty : domain = ""
  · subst hempty
    have htrim : Path.trim "" = "" := by decide +kernel
    rw [htrim]
    exact ⟨fun _ => by decide, fun _ => ⟨by decide +kernel, fun _ => rfl⟩⟩
  by_cases hslash : domain = "/"
  · subst hslash
    exact ⟨fun h => absurd h.1 (by decide +kernel), fun h => absurd h (by decide)⟩
  rw [base_api_eq_iff hempty hslash]
  rcases start_cases domain with ⟨rest, rfl⟩ | ⟨rest, rfl⟩ | ⟨hhead, hdot⟩
  · rw [Url.relative_dot_append]
    exact ⟨fun h => absurd h.1.symm (trim_dot_ne rest),
      fun h => absurd ⟨rest.toList, by simp⟩ h.noDot⟩
  · have hrest : rest ≠ "" := by
      rintro rfl
      exact hslash rfl
    rw [Url.relative_slash_append, plainDomain_slash_append hrest, Path.trim_slash_append]
    constructor
    · rintro ⟨htrim, hbases⟩
      have hhead : rest.toList.head? ≠ some '/' := htrim ▸ Path.head?_trim rest
      have hend : rest.toList.getLast? ≠ some '/' := htrim ▸ Path.getLast?_trim rest
      rw [← htrim, base_slash_append_iff hrest hhead] at hbases
      exact ⟨hhead, (plainDomain_iff_of_head? hhead).mpr ⟨hend, hbases⟩⟩
    · rintro ⟨hhead, hplain⟩
      have htrim := Path.trim_eq_self hhead hplain.noTrailingSlash
      rw [Path.trim, htrim, base_slash_append_iff hrest hhead]
      exact ⟨rfl, hplain.noDot⟩
  · rw [(Url.relative_eq_self_iff hhead).mpr hdot, plainDomain_iff_of_head? hhead]
    constructor
    · rintro ⟨htrim, -⟩
      exact ⟨htrim ▸ Path.getLast?_trim domain, hdot⟩
    · rintro ⟨hend, -⟩
      have htrim := Path.trim_eq_self hhead hend
      exact ⟨htrim.symm, fun _ => congrArg _ htrim⟩

/-- The text that handlers of the first kind start from is not empty. -/
theorem base_api_ne_empty (domain : String) : Kind.base .api domain ≠ "" := by
  by_cases hempty : domain = ""
  · rw [hempty]
    decide +kernel
  by_cases hslash : domain = "/"
  · rw [hslash]
    decide +kernel
  · rw [base_api hempty hslash]
    exact fun heq => absurd (String.append_eq_empty_iff.mp heq).1 (by decide)

/-- The handlers of the other kind do not start from a lone slash if the domain is plain. -/
theorem PlainDomain.base_route_ne_slash {domain : String} (h : PlainDomain domain) :
    Kind.base .route domain ≠ "/" := by
  intro hslash
  by_cases hempty : domain = ""
  · rw [hempty] at hslash
    exact absurd hslash (by decide)
  · -- without its slashes, the domain would be the empty one
    have htrim : Path.trim domain = "" := by
      rw [base_route_of_ne hempty] at hslash
      exact (String.append_right_inj "/").mp (hslash.trans (String.append_empty (s := "/")).symm)
    have hroute := ((bases_agree_iff domain).mpr h).2 .route
    rw [htrim, hslash] at hroute
    exact absurd hroute (by decide)

/-! ### The URLs of a handler -/

/-- A text that is neither empty nor a lone slash makes no lone slash of another one. -/
private theorem append_ne_slash {path : String} (hempty : path ≠ "") (hslash : path ≠ "/")
    (base : String) : base ++ path ≠ "/" := by
  intro heq
  have hchars : base.toList ++ path.toList = ['/'] := by
    rw [← String.toList_append, heq]
    rfl
  rcases List.append_eq_singleton_iff.mp hchars with ⟨-, hpath⟩ | ⟨-, hpath⟩
  · exact hslash (String.toList_inj.mp hpath)
  · exact hempty (String.toList_inj.mp hpath)

/-- Behind the texts that handlers start from, the same path makes URLs that agree exactly in plain
    domains. -/
theorem urls_agree_iff {path : String} (hempty : path ≠ "") (hslash : path ≠ "/")
    (domain : String) :
    (Url.orSlash (Kind.base .api domain ++ path)
        = "/api" ++ Url.orNothing (Url.orSlash (Kind.base .route domain ++ path)) ∧
      ∀ kind : Kind, Url.orSlash (kind.base (Path.trim domain) ++ path)
        = Url.orSlash (kind.base domain ++ path)) ↔ PlainDomain domain := by
  have hurl : ∀ base, Url.orSlash (base ++ path) = base ++ path := fun _ =>
    Url.orSlash_append hempty
  have hnothing : ∀ base, Url.orNothing (base ++ path) = base ++ path := fun base =>
    if_neg (append_ne_slash hempty hslash base)
  simp only [hurl, hnothing]
  rw [← String.append_assoc, String.append_left_inj, ← bases_agree_iff]
  simp only [String.append_left_inj]

/-- Only the empty domain and a domain of one slash add nothing to `/api`. -/
theorem base_api_eq_api_iff {domain : String} :
    Kind.base .api domain = "/api" ↔ domain = "" ∨ domain = "/" := by
  constructor
  · intro hbase
    by_contra! hne
    have happ : "/api" ++ ("/" ++ Url.relative domain) = "/api" ++ "" := by
      rw [String.append_empty, ← String.append_assoc]
      exact (base_api hne.1 hne.2).symm.trans hbase
    exact absurd (String.append_eq_empty_iff.mp ((String.append_right_inj _).mp happ)).1
      (by decide)
  · rintro (rfl | rfl) <;> decide +kernel

/-- Slashes around a domain do not count for the other kind, unless there is nothing else. -/
theorem base_route_trim {domain : String} (h : Kind.base .route domain ≠ "/") :
    Kind.base .route (Path.trim domain) = Kind.base .route domain := by
  by_cases hempty : domain = ""
  · rw [hempty]
    decide +kernel
  · have htrim : Path.trim domain ≠ "" := by
      intro htrim
      rw [base_route_of_ne hempty, htrim] at h
      exact h rfl
    rw [base_route_of_ne htrim, base_route_of_ne hempty, Path.trim_trim]

/-- For the index of a domain, a domain of one slash is as good as the empty one. -/
theorem index_urls_agree_iff (domain : String) :
    (Url.orSlash (Kind.base .api domain)
        = "/api" ++ Url.orNothing (Url.orSlash (Kind.base .route domain)) ∧
      ∀ kind : Kind, Url.orSlash (kind.base (Path.trim domain)) = Url.orSlash (kind.base domain)) ↔
    PlainDomain domain ∨ domain = "/" := by
  have hapi : ∀ domain, Url.orSlash (Kind.base .api domain) = Kind.base .api domain :=
    fun domain => if_neg (base_api_ne_empty domain)
  rw [hapi]
  by_cases hroute : Kind.base .route domain = "/"
  · -- the domain has nothing but slashes
    have hempty : domain ≠ "" := by
      rintro rfl
      exact absurd hroute (by decide)
    have hnothing : Url.orNothing (Url.orSlash "/") = "" := by decide
    rw [hroute, hnothing, String.append_empty, base_api_eq_api_iff]
    constructor
    · rintro ⟨hslash, -⟩
      exact .inr (hslash.resolve_left hempty)
    · rintro (hplain | rfl)
      · exact absurd hroute hplain.base_route_ne_slash
      · refine ⟨.inr rfl, fun kind => ?_⟩
        cases kind <;> decide +kernel
  · rw [Url.orNothing_orSlash hroute]
    constructor
    · rintro ⟨hbase, hbases⟩
      refine .inl ((bases_agree_iff domain).mp ⟨hbase, fun kind => ?_⟩)
      cases kind with
      | api =>
        have hsame := hbases .api
        rwa [hapi, hapi] at hsame
      | route => exact base_route_trim hroute
    · rintro (hplain | rfl)
      · obtain ⟨hbase, hbases⟩ := (bases_agree_iff domain).mpr hplain
        exact ⟨hbase, fun kind => congrArg Url.orSlash (hbases kind)⟩
      · exact absurd (by decide +kernel) hroute

/-- Only the index of a domain has no segments that its URL is made from. -/
theorem mounted_eq_nil_iff {segments : List String} (hne : segments ≠ []) :
    mounted segments = [] ↔ segments = ["index"] := by
  obtain ⟨front, last, rfl⟩ := (List.eq_nil_or_concat' segments).resolve_left hne
  by_cases hindex : last = "index"
  · subst hindex
    rw [mounted_index]
    simp
  · rw [mounted_of_ne front hindex]
    constructor
    · exact fun h => absurd h (by simp)
    · intro h
      rcases List.append_eq_singleton_iff.mp h with ⟨-, hlast⟩ | ⟨-, hlast⟩
      · exact absurd (List.cons.inj hlast).1 hindex
      · cases hlast

/-- **Both kinds of handlers agree exactly in plain domains.** Where a segment of the handler is
    malformed, there is no URL for any kind and any domain, and always the same fault. Otherwise the
    URL of the first kind is `/api` and the URL of the other kind, and slashes around the domain do
    not count, exactly if the domain is plain; a domain that is one slash is as good for its own
    index. -/
theorem kinds_agree_iff {relative : String}
    (hempty : "" ∉ Path.segments (Path.forwardSlashes relative)) (domain : String) :
    (∃ fault, ∀ kind other, route relative other kind = .error fault) ∨
    ∃ api page, route relative domain .api = .ok api ∧ route relative domain .route = .ok page ∧
      ((api = "/api" ++ Url.orNothing page ∧
          ∀ kind, route relative (Path.trim domain) kind = route relative domain kind) ↔
        PlainDomain domain ∨
          (domain = "/" ∧ Path.segments (Path.forwardSlashes relative) = ["index"])) := by
  have hroute := route_eq hempty
  cases hlists : (mounted (Path.segments (Path.forwardSlashes relative))).mapM tokenize with
  | error fault =>
    refine .inl ⟨fault, fun kind other => ?_⟩
    rw [hroute, hlists]
    rfl
  | ok lists =>
    have hurl : ∀ other (kind : Kind), route relative other kind
        = .ok (Url.orSlash (kind.base other ++ String.join (lists.map pattern))) := by
      intro other kind
      rw [hroute, hlists]
      rfl
    refine .inr ⟨_, _, hurl domain .api, hurl domain .route, ?_⟩
    simp only [hurl, Except.ok.injEq]
    rw [← mounted_eq_nil_iff (Path.segments_ne_nil _)]
    by_cases hnil : mounted (Path.segments (Path.forwardSlashes relative)) = []
    · rw [hnil] at hlists
      cases hlists
      simpa [hnil] using index_urls_agree_iff domain
    · have hproper : ∀ tokens ∈ lists, Proper tokens := by
        obtain ⟨values, hvalues, hproper, -⟩ := exists_tokens_of_route hempty (hurl domain .api)
        cases hlists.symm.trans hvalues
        exact hproper
      have hne : lists ≠ [] := by
        rintro rfl
        exact hnil (List.forall₂_nil_right_iff.mp (mapM_eq_ok_iff.mp hlists))
      simpa [hnil] using
        urls_agree_iff (join_map_pattern_ne_empty hne hproper) (join_map_pattern_ne_slash hproper)
          domain

/-- The handlers of a user with a slash in front of the domain. -/
theorem userHandlers_agree :
    "" ∉ Path.segments (Path.forwardSlashes "users/[id].ts") ∧ PlainDomain "/Hello" ∧
      ∃ page, route "users/[id].ts" "/Hello" .route = .ok page ∧
        route "users/[id].ts" "/Hello" .api = .ok ("/api" ++ Url.orNothing page) ∧
        ∀ kind, route "users/[id].ts" "Hello" kind = route "users/[id].ts" "/Hello" kind := by
  have hempty : "" ∉ Path.segments (Path.forwardSlashes "users/[id].ts") := by decide +kernel
  have hplain : PlainDomain "/Hello" := by decide
  have htrim : Path.trim "/Hello" = "Hello" := by decide +kernel
  have hurl : route "users/[id].ts" "/Hello" .route = .ok "/Hello/users/:id()" := by
    decide +kernel
  refine ⟨hempty, hplain, ?_⟩
  rcases kinds_agree_iff hempty "/Hello" with ⟨fault, hfault⟩ | ⟨api, page, hapi, hpage, hagree⟩
  · rw [hfault] at hurl
    cases hurl
  · obtain ⟨hlaw, hslashes⟩ := hagree.mpr (.inl hplain)
    rw [htrim] at hslashes
    exact ⟨page, hpage, hlaw ▸ hapi, hslashes⟩

/-- **A slash behind the domain is doubled** in the URLs of one kind and cut off in those of the
    other. A domain that is one slash does the same in the URLs of the other kind. -/
theorem trailing_slash_doubled :
    "" ∉ Path.segments (Path.forwardSlashes "users.ts") ∧
      route "users.ts" "Hello" .api = .ok "/api/Hello/users" ∧
      route "users.ts" "Hello/" .api = .ok "/api/Hello//users" ∧
      route "users.ts" "Hello/" .route = .ok "/Hello/users" ∧
      "/api/Hello//users" ≠ "/api" ++ Url.orNothing "/Hello/users" ∧
      route "users.ts" "" .route = .ok "/users" ∧
      route "users.ts" "/" .route = .ok "//users" ∧
      route "users.ts" "/" .api = .ok "/api/users" := by
  decide +kernel

end Handler

end FileRoutes
