import FileRoutes.Mount
import FileRoutes.Proofs.Path.Trim

namespace FileRoutes

/-!
# Mounts — where the paths of routes start

* `Mount.Made` — the mounts that there are, those of a domain and those of an alias;
* `Mount.Made.rooted` — their paths are empty or start with a slash;
* `Mount.Tidy` — those whose domain does not end in a slash;
* `Mount.Tidy.noTrailingSlash` — their paths do not end in one.
-/

/-- The mounts of a domain, under its own name or at a location. -/
inductive Mount.Made : Mount → Prop where
  | ofDomain (domain : String) : Made (.ofDomain domain)
  | aliased (domain location : String) : Made (.aliased domain location)

/-- The path of a mount is empty or starts with a slash. -/
theorem Mount.Made.rooted {mount : Mount} (h : mount.Made) :
    mount.path = "" ∨ mount.path.toList.head? = some '/' := by
  cases h with
  | ofDomain domain =>
    by_cases hd : domain = ""
    · exact .inl (by simp [Mount.ofDomain, hd])
    · exact .inr (by simp [Mount.ofDomain, hd])
  | aliased domain location =>
    by_cases hf : Path.trimTrailing (Path.trimLeading location) = ""
    · exact .inl (by simp [Mount.aliased, hf])
    · exact .inr (by simp [Mount.aliased, hf])

/-- The mounts of a domain that does not end in a slash, or at a location. -/
inductive Mount.Tidy : Mount → Prop where
  | ofDomain {domain : String} (h : domain.toList.getLast? ≠ some '/') : Tidy (.ofDomain domain)
  | aliased (domain location : String) : Tidy (.aliased domain location)

/-- A tidy mount is one of those that there are. -/
theorem Mount.Tidy.made {mount : Mount} (h : mount.Tidy) : mount.Made := by
  cases h with
  | ofDomain _ => exact .ofDomain _
  | aliased domain location => exact .aliased domain location

/-- A slash in front of a text that is not empty leaves the end as it is. -/
private theorem getLast?_slash_append {text : String} (hne : text ≠ "") :
    ("/" ++ text).toList.getLast? = text.toList.getLast? := by
  have hlist : text.toList ≠ [] := fun hnil => hne (String.toList_inj.mp hnil)
  rw [String.toList_append, List.getLast?_append, List.getLast?_eq_some_getLast hlist,
    Option.some_or]

/-- The path of a tidy mount does not end in a slash. -/
theorem Mount.Tidy.noTrailingSlash {mount : Mount} (h : mount.Tidy) :
    mount.path.toList.getLast? ≠ some '/' := by
  cases h with
  | @ofDomain domain hend =>
    unfold Mount.ofDomain
    by_cases hd : domain = ""
    · simp [hd]
    · dsimp only
      rw [if_neg hd, getLast?_slash_append hd]
      exact hend
  | aliased domain location =>
    unfold Mount.aliased
    by_cases hf : Path.trimTrailing (Path.trimLeading location) = ""
    · simp [hf]
    · dsimp only
      rw [if_neg hf, getLast?_slash_append hf]
      exact Path.getLast?_trimTrailing _

end FileRoutes
