import FileRoutes.Json.Forest
import FileRoutes.Proofs.Forest.Postorder
import Mathlib.Data.List.Forall2

namespace FileRoutes

/-!
# JSON — route trees read back

* `Json.induct` — what holds of a value if it holds of all values in it;
* `Json.Names`, `Json.Lists`, `Route.Denotes`, `Forest.Denotes` — the forests that values stand
  for, said without a reader;
* `Forest.ofJson?_eq_some_iff` — the reader finds exactly these;
* `Forest.ofJson?_toJson` — a forest is read back as it was written;
* `Forest.json_roundTrip` — the statement about all forests and all values.
-/

/-! ### Values -/

/-- Induction over a value: over the items of an array, and over the fields of an object. -/
@[elab_as_elim]
theorem Json.induct {motive : Json → Prop} (null : motive .null)
    (bool : ∀ value, motive (.bool value)) (number : ∀ literal, motive (.number literal))
    (string : ∀ text, motive (.string text))
    (array : ∀ items, (∀ item ∈ items, motive item) → motive (.array items))
    (object : ∀ fields, (∀ field ∈ fields, motive field.2) → motive (.object fields)) :
    ∀ value, motive value
  | .null => null
  | .bool value => bool value
  | .number literal => number literal
  | .string text => string text
  | .array items => array items fun item _ => Json.induct null bool number string array object item
  | .object fields =>
    object fields fun field _ => Json.induct null bool number string array object field.2
termination_by value => sizeOf value
decreasing_by
  · have hitem : sizeOf item < sizeOf items := List.sizeOf_lt_of_mem ‹_›
    simp only [Json.array.sizeOf_spec]
    omega
  · -- the value of a field is smaller than the field with its key
    obtain ⟨key, value⟩ := field
    have hfield : sizeOf (key, value) < sizeOf fields := List.sizeOf_lt_of_mem ‹_›
    simp only [Json.object.sizeOf_spec, Prod.mk.sizeOf_spec] at hfield ⊢
    omega

/-- The name that a field holds. There is none if the field is missing or null. -/
inductive Json.Names : Option Json → Option String → Prop
  | missing : Names none none
  | null : Names (some .null) none
  | text (name : String) : Names (some (.string name)) (some name)

/-- The items that a field lists. A missing field lists none. -/
inductive Json.Lists : Option Json → List Json → Prop
  | missing : Lists none []
  | array (items : List Json) : Lists (some (.array items)) items

/-- The route that a value stands for: an object with its parts as fields, none of them twice,
    whatever else is in it, or an array with its parts in order. -/
inductive Route.Denotes : Json → Route → Prop
  | object {fields : List (String × Json)} {name : Option String} {path file : String}
      {items : List Json} {children : Forest} :
      Json.PartsOnce fields →
      Json.Names (Json.field? "name" fields) name →
      Json.field? "path" fields = some (.string path) →
      Json.field? "file" fields = some (.string file) →
      Json.Lists (Json.field? "children" fields) items →
      List.Forall₂ Denotes items children →
      Denotes (.object fields) ⟨name, path, file, children⟩
  | array {label : Json} {name : Option String} {path file : String} {last : Option Json}
      {items : List Json} {children : Forest} :
      Json.Names (some label) name →
      Json.Lists last items →
      List.Forall₂ Denotes items children →
      Denotes (.array (label :: .string path :: .string file :: last.toList))
        ⟨name, path, file, children⟩

/-- The forest that a value stands for: an array of its routes. -/
def Forest.Denotes (value : Json) (forest : Forest) : Prop :=
  ∃ items, value = .array items ∧ List.Forall₂ Route.Denotes items forest

/-! ### Reading -/

/-- A value is read as a name exactly if it holds one. -/
theorem Json.name?_eq_some_iff {value : Json} {name : Option String} :
    value.name? = some name ↔ Json.Names (some value) name := by
  constructor
  · intro h
    cases value <;> cases h <;> constructor
  · rintro (_ | _ | _) <;> rfl

/-- A name is read from the fields of an object exactly if they hold it. -/
theorem Json.nameIn?_eq_some_iff {fields : List (String × Json)} {name : Option String} :
    Json.nameIn? fields = some name ↔ Json.Names (Json.field? "name" fields) name := by
  unfold Json.nameIn?
  cases Json.field? "name" fields with
  | none =>
    constructor
    · intro h
      cases h
      exact .missing
    · intro h
      cases h
      rfl
  | some value => exact Json.name?_eq_some_iff

/-- A value is read as a text exactly if it is one. -/
theorem Json.text?_eq_some_iff {value : Json} {text : String} :
    value.text? = some text ↔ value = .string text := by
  cases value <;> simp [Json.text?]

/-- A text is read from the fields of an object exactly if one of them is it. -/
theorem Json.textIn?_eq_some_iff {key : String} {fields : List (String × Json)} {text : String} :
    Json.textIn? key fields = some text ↔ Json.field? key fields = some (.string text) := by
  unfold Json.textIn?
  cases Json.field? key fields <;> simp [Json.text?_eq_some_iff]

/-- The children are read from their field, if there is one. -/
theorem Forest.childrenIn?_eq (fields : List (String × Json)) :
    Forest.childrenIn? fields
      = ((Json.field? "children" fields).map Forest.ofJson?).getD (some []) := by
  induction fields with
  | nil => rw [Forest.childrenIn?]; rfl
  | cons field rest ih =>
    obtain ⟨name, value⟩ := field
    rw [Forest.childrenIn?]
    unfold Json.field? at ih ⊢
    rw [List.lookup_cons]
    by_cases hname : name = "children"
    · subst hname
      rfl
    · have hkey : ("children" == name) = false := by simpa using Ne.symm hname
      rw [if_neg hname, hkey, ih]

/-- Values are read as routes one by one. -/
theorem Forest.ofJsonItems?_eq_some_iff {items : List Json} {forest : Forest}
    (h : ∀ item ∈ items, ∀ route, Route.ofJson? item = some route ↔ Route.Denotes item route) :
    Forest.ofJsonItems? items = some forest ↔ List.Forall₂ Route.Denotes items forest := by
  induction items generalizing forest with
  | nil => rw [Forest.ofJsonItems?, Option.some_inj, List.forall₂_nil_left_iff, eq_comm]
  | cons item rest ih =>
    have hitem := h item List.mem_cons_self
    have hrest : ∀ forest, Forest.ofJsonItems? rest = some forest
        ↔ List.Forall₂ Route.Denotes rest forest :=
      fun _ => ih fun other hother => h other (List.mem_cons_of_mem item hother)
    rw [Forest.ofJsonItems?, List.forall₂_cons_left_iff]
    simp only [Option.pure_def, Option.bind_eq_bind, Option.bind_eq_some_iff, Option.some_inj,
      hitem, hrest]
    constructor
    · rintro ⟨route, hroute, below, hbelow, rfl⟩
      exact ⟨route, below, hroute, hbelow, rfl⟩
    · rintro ⟨route, below, hroute, hbelow, rfl⟩
      exact ⟨route, hroute, below, hbelow, rfl⟩

/-- The children that an object is read with are those that its field lists. -/
theorem Forest.childrenIn?_eq_some_iff {fields : List (String × Json)} {children : Forest}
    (h : ∀ field ∈ fields, ∀ forest,
      Forest.ofJson? field.2 = some forest ↔ Forest.Denotes field.2 forest) :
    Forest.childrenIn? fields = some children ↔
      ∃ items, Json.Lists (Json.field? "children" fields) items ∧
        List.Forall₂ Route.Denotes items children := by
  rw [Forest.childrenIn?_eq]
  cases hfield : Json.field? "children" fields with
  | none =>
    constructor
    · intro hchildren
      cases hchildren
      exact ⟨[], .missing, .nil⟩
    · rintro ⟨_, ⟨⟩, ⟨⟩⟩
      rfl
  | some value =>
    obtain ⟨front, back, hfields, -⟩ := List.lookup_eq_some_iff.mp hfield
    have hmem : ("children", value) ∈ fields := by simp [hfields]
    rw [Option.map_some, Option.getD_some, h _ hmem]
    constructor
    · rintro ⟨items, rfl, hitems⟩
      exact ⟨items, .array items, hitems⟩
    · rintro ⟨items, ⟨⟩, hitems⟩
      exact ⟨items, rfl, hitems⟩

/-- An object is read as the route that it stands for. -/
theorem Route.ofJson?_object_iff {fields : List (String × Json)} {route : Route}
    (h : ∀ field ∈ fields, ∀ forest,
      Forest.ofJson? field.2 = some forest ↔ Forest.Denotes field.2 forest) :
    Route.ofJson? (.object fields) = some route ↔ Route.Denotes (.object fields) route := by
  rw [Route.ofJson?]
  by_cases honce : Json.PartsOnce fields
  · rw [if_pos honce]
    simp only [Option.pure_def, Option.bind_eq_bind, Option.bind_eq_some_iff, Option.some_inj,
      Json.nameIn?_eq_some_iff, Json.textIn?_eq_some_iff, Forest.childrenIn?_eq_some_iff h]
    constructor
    · rintro ⟨name, hname, path, hpath, file, hfile, children, ⟨items, hlists, hitems⟩, rfl⟩
      exact .object honce hname hpath hfile hlists hitems
    · rintro ⟨-, hname, hpath, hfile, hlists, hitems⟩
      exact ⟨_, hname, _, hpath, _, hfile, _, ⟨_, hlists, hitems⟩, rfl⟩
  · -- an object that repeats a part stands for no route
    rw [if_neg honce]
    constructor
    · exact nofun
    · rintro ⟨honce', -⟩
      exact absurd honce' honce

/-- An array is read as the route that it stands for. -/
theorem Route.ofJson?_array_iff {parts : List Json} {route : Route}
    (h : ∀ part ∈ parts, ∀ forest,
      Forest.ofJson? part = some forest ↔ Forest.Denotes part forest) :
    Route.ofJson? (.array parts) = some route ↔ Route.Denotes (.array parts) route := by
  constructor
  · intro hread
    unfold Route.ofJson? at hread
    -- an array of three parts or of four, and nothing else
    split at hread
    next hparts => cases hparts
    next label path file hparts =>
      cases hparts
      simp only [Option.pure_def, Option.bind_eq_bind, Option.bind_eq_some_iff, Option.some_inj,
        Json.name?_eq_some_iff, Json.text?_eq_some_iff] at hread
      obtain ⟨name, hname, path, rfl, file, rfl, rfl⟩ := hread
      exact .array hname .missing .nil
    next label path file last hparts =>
      cases hparts
      simp only [Option.pure_def, Option.bind_eq_bind, Option.bind_eq_some_iff, Option.some_inj,
        Json.name?_eq_some_iff, Json.text?_eq_some_iff, h last (by simp)] at hread
      obtain ⟨name, hname, path, rfl, file, rfl, children, ⟨items, rfl, hitems⟩, rfl⟩ := hread
      exact .array hname (.array items) hitems
    next => cases hread
  · rintro (_ | @⟨label, name, path, file, last, items, children, hname, hlists, hitems⟩)
    have hname := Json.name?_eq_some_iff.mpr hname
    cases hlists with
    | missing =>
      cases hitems
      simp [Route.ofJson?, hname, Json.text?]
    | array =>
      have hchildren : Forest.ofJson? (.array items) = some children :=
        (h (.array items) (by simp) children).mpr ⟨items, rfl, hitems⟩
      simp [Route.ofJson?, hname, Json.text?, hchildren]

/-- **A value is read as what it stands for.** By induction on the value, for routes and for
    forests at once, as the children of a route are a forest. -/
theorem Json.read_iff (value : Json) :
    (∀ route, Route.ofJson? value = some route ↔ Route.Denotes value route) ∧
      ∀ forest, Forest.ofJson? value = some forest ↔ Forest.Denotes value forest := by
  induction value using Json.induct with
  | array items ih =>
    refine ⟨fun _ => Route.ofJson?_array_iff fun item hitem => (ih item hitem).2,
      fun forest => ?_⟩
    rw [Forest.ofJson?, Forest.ofJsonItems?_eq_some_iff fun item hitem => (ih item hitem).1]
    constructor
    · exact fun hitems => ⟨items, rfl, hitems⟩
    · rintro ⟨_, ⟨⟩, hitems⟩
      exact hitems
  | object fields ih =>
    exact ⟨fun _ => Route.ofJson?_object_iff fun field hfield => (ih field hfield).2,
      fun forest => ⟨nofun, nofun⟩⟩
  -- a value without parts is neither a route nor a forest
  | null => exact ⟨fun route => ⟨nofun, nofun⟩, fun forest => ⟨nofun, nofun⟩⟩
  | bool value => exact ⟨fun route => ⟨nofun, nofun⟩, fun forest => ⟨nofun, nofun⟩⟩
  | number literal => exact ⟨fun route => ⟨nofun, nofun⟩, fun forest => ⟨nofun, nofun⟩⟩
  | string text => exact ⟨fun route => ⟨nofun, nofun⟩, fun forest => ⟨nofun, nofun⟩⟩

/-! ### Writing -/

/-- A written route stands for itself if its written children do. A name that is left out counts as
    none. -/
theorem Route.denotes_toJson {route : Route}
    (h : List.Forall₂ Route.Denotes (Forest.toJsonItems route.children) route.children) :
    Route.Denotes route.toJson route := by
  obtain ⟨name, path, file, children⟩ := route
  unfold Route.toJson
  cases name with
  | none =>
    have honce : ∀ key ∈ Route.keys, ["path", "file", "children"].count key ≤ 1 := by decide
    exact .object honce .missing rfl rfl (.array _) h
  | some name =>
    have honce : ∀ key ∈ Route.keys, ["name", "path", "file", "children"].count key ≤ 1 := by
      decide
    exact .object honce (.text name) rfl rfl (.array _) h

/-- Written routes stand for themselves, one by one. -/
theorem Forest.denotes_toJsonItems (forest : Forest) :
    List.Forall₂ Route.Denotes (Forest.toJsonItems forest) forest := by
  induction forest using Forest.induct with
  | nil => exact .nil
  | cons route rest below beside => exact .cons (Route.denotes_toJson below) beside

/-- **A forest is read back as it was written.** -/
theorem Forest.ofJson?_toJson (forest : Forest) : Forest.ofJson? forest.toJson = some forest :=
  ((Json.read_iff _).2 _).mpr ⟨_, rfl, forest.denotes_toJsonItems⟩

/-- **Route trees survive JSON.** A forest is read back as it was written. A value is read as the
    forest that it stands for, if it stands for one, and what was read from it is the same after
    one more time of writing and reading. -/
theorem Forest.json_roundTrip :
    (∀ forest : Forest, Forest.ofJson? forest.toJson = some forest) ∧
      (∀ value forest, Forest.ofJson? value = some forest ↔ Forest.Denotes value forest) ∧
      ∀ value, (Forest.ofJson? value).bind (fun forest => Forest.ofJson? forest.toJson)
        = Forest.ofJson? value := by
  refine ⟨Forest.ofJson?_toJson, fun value => (Json.read_iff value).2, fun value => ?_⟩
  cases Forest.ofJson? value with
  | none => rfl
  | some forest => exact forest.ofJson?_toJson

/-- A route with a null name and a field that is not known, and one that is an array without
    children. -/
example :
    Forest.ofJson? (.array [
        .object [("name", .null), ("path", .string "/shop"), ("icon", .bool true),
          ("file", .string "/pages/shop.vue")],
        .array [.string "Shop-about", .string "/about", .string "/pages/about.vue"]])
      = some [⟨none, "/shop", "/pages/shop.vue", []⟩,
          ⟨some "Shop-about", "/about", "/pages/about.vue", []⟩] := by
  rfl

/-- An object with two paths is no route. -/
example :
    Forest.ofJson? (.array [
        .object [("path", .string "/shop"), ("file", .string "/pages/shop.vue"),
          ("path", .string "/store")]]) = none := by
  rfl

end FileRoutes
