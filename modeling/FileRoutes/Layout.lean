import FileRoutes.Logged
import FileRoutes.Mount
import FileRoutes.Route
import FileRoutes.ScannedFile
import FileRoutes.Segment.Pattern
import FileRoutes.Segment.Scan
import FileRoutes.Url

namespace FileRoutes

/-!
# Layouts — nesting pages below the layout pages of their folders

A page that shares its name with a folder is the layout of the folder: the pages of the
folder become its children. Files are placed one after the other, so a layout has to come
before the pages of its folder, as it does in sorted lists.

* `Pending` — the name and the path that a route has gathered from its first segments;
* `Forest.splitAt?` — a level of the forest around its first route that passes a test;
* `Forest.place` — a forest with the route of one more file, below the layouts that its
  segments lead to;
* `Forest.build` — the forest of a list of files.

Names are still written with slashes here, and the paths of children still start with one;
normalization brings both into the form that a router registers.
-/

/-- The first file of a list that has a malformed segment. -/
structure MalformedFile where
  relative : String
  cause : Segment.Malformed
deriving Repr, DecidableEq

/-- The text that names the file. -/
def MalformedFile.message (fault : MalformedFile) : String :=
  "cannot build route for " ++ fault.relative

/-! ### Routes on their way -/

/-- The name and the path that a route has gathered so far. -/
structure Pending where
  name : String
  path : String
deriving Repr, DecidableEq

/-- A route that has gathered nothing but what its mount gives it. -/
def Pending.start (mount : Mount) : Pending := ⟨mount.name, mount.path⟩

/-- The name that the route has with one more segment: a slash stands between the two, if
    there is anything on the left. -/
def Pending.nextName (pending : Pending) (tokens : List Segment.Token) : String :=
  if pending.name = "" then Segment.name tokens else pending.name ++ "/" ++ Segment.name tokens

/-- The path of the layout that one more segment would lead to. -/
def Pending.layoutPath (pending : Pending) (tokens : List Segment.Token) : String :=
  Url.rooted (Url.join pending.path (Url.collapseIndex (Segment.pattern tokens)))

/-- The path that the route has with one more segment, if that leads to no layout. An index
    segment stands for the folder it is in, which is written as a slash if it is the first. -/
def Pending.nextPath (pending : Pending) (tokens : List Segment.Token) : String :=
  if Segment.name tokens = "index" then
    if pending.path = "" then "/" else pending.path
  else pending.path ++ Segment.pattern tokens

/-! ### Layouts on a level -/

/-- Whether the route is the layout of the files that lead to the given name and path. -/
def Route.isLayout (name path : String) (route : Route) : Bool :=
  route.name == some name && route.path == path

/-- A level of the forest around one of its routes. -/
structure Forest.Split where
  before : Forest
  found : Route
  after : Forest

/-- The level with other children below the route. -/
def Forest.Split.withChildren (split : Forest.Split) (children : Forest) : Forest :=
  split.before ++ { split.found with children } :: split.after

/-- A level of the forest around its first route that passes the test. -/
def Forest.splitAt? (test : Route → Bool) : Forest → Option Forest.Split
  | [] => none
  | route :: rest =>
    if test route then some ⟨[], route, rest⟩
    else (Forest.splitAt? test rest).map fun split => { split with before := route :: split.before }

/-- Splitting a level keeps all its routes in order, and the route found passes the test. -/
theorem Forest.eq_of_splitAt? {test : Route → Bool} {level : Forest} {split : Forest.Split}
    (h : Forest.splitAt? test level = some split) :
    level = split.before ++ split.found :: split.after ∧ test split.found = true := by
  induction level generalizing split with
  | nil => cases h
  | cons route rest ih =>
    unfold Forest.splitAt? at h
    split at h
    · rename_i passes
      injection h with h
      subst h
      exact ⟨rfl, passes⟩
    · obtain ⟨inner, hinner, rfl⟩ := Option.map_eq_some_iff.mp h
      obtain ⟨heq, htest⟩ := ih hinner
      exact ⟨by rw [heq]; rfl, htest⟩

/-! ### Placing files -/

/-- Adds the route of a file to a level of the forest. Each segment but the last may lead to
    a layout on that level; from there on the route continues below the layout, with a path of
    its own. The last segment never does: a route that is there twice is a duplicate. -/
def Forest.place (file : ScannedFile) :
    Pending → List String → Forest → Logged Segment.Malformed Forest
  | pending, [], level => .ok (level ++ [.leaf pending.name pending.path file.absolute])
  | pending, segment :: rest, level =>
    match Segment.tokenize segment with
    | .error fault => .error fault
    | .ok tokens =>
      let name := pending.nextName tokens
      -- Nothing comes after the last segment that could be nested.
      let layout? :=
        if rest.isEmpty then none
        else Forest.splitAt? (Route.isLayout name (pending.layoutPath tokens)) level
      match layout? with
      | some split =>
        -- The name goes on from the layout's name; the path starts anew below it.
        .note (.nested file.relative split.found.file) <|
          (Forest.place file ⟨name, ""⟩ rest split.found.children).map split.withChildren
      | none => Forest.place file ⟨name, pending.nextPath tokens⟩ rest level

/-- Adds the route of a file to the forest of a mount. -/
def Forest.insert (mount : Mount) (file : ScannedFile) (forest : Forest) :
    Logged MalformedFile Forest :=
  (Forest.place file (.start mount) (Path.segments file.relative) forest).mapError
    (⟨file.relative, ·⟩)

/-- Adds the routes of files to a forest, one after the other, up to the first file that has
    a malformed segment. -/
def Forest.insertAll (mount : Mount) : List ScannedFile → Forest → Logged MalformedFile Forest
  | [], forest => .ok forest
  | file :: rest, forest => (Forest.insert mount file forest).andThen (Forest.insertAll mount rest)

/-- Unfolding lemma: there is nothing to do without files. -/
@[simp] theorem Forest.insertAll_nil (mount : Mount) (forest : Forest) :
    Forest.insertAll mount [] forest = .ok forest := rfl

/-- Unfolding lemma: files are added one after the other. -/
theorem Forest.insertAll_cons (mount : Mount) (file : ScannedFile) (rest : List ScannedFile)
    (forest : Forest) :
    Forest.insertAll mount (file :: rest) forest
      = (Forest.insert mount file forest).andThen (Forest.insertAll mount rest) := rfl

/-- Builds the forest of a list of files. -/
def Forest.build (files : List ScannedFile) (mount : Mount) : Logged MalformedFile Forest :=
  (Forest.insertAll mount files []).andThen fun forest =>
    .note (.built mount.name files.length forest.length) (.ok forest)

/-- Telling of the finished forest does not change it. -/
@[simp] theorem Forest.result_build (files : List ScannedFile) (mount : Mount) :
    (Forest.build files mount).result = (Forest.insertAll mount files []).result := by
  unfold Forest.build Logged.andThen
  cases h : (Forest.insertAll mount files []).result <;> rfl

end FileRoutes
