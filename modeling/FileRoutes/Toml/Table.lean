import FileRoutes.Toml.Value

namespace FileRoutes.Toml

/-!
# TOML — tables under construction

The statements of a document give values to keys and open tables. Which of them may still add
to a table depends on how the table came to be:

* `Origin` — whether a table was opened by its own header, by the header of a table below it,
  or by a dotted key;
* `Item` — what a key of a table under construction stands for;
* `descend` — a change to the table that a list of keys leads to;
* `assign`, `openTable`, `addTable` — the three statements of a document;
* `Item.toValue` — the finished value.
-/

/-- How a table came to be. -/
inductive Origin where
  /-- By a header of its own, as an element of an array, or as the whole document. -/
  | header
  /-- By the header of a table below it. -/
  | parent
  /-- By a dotted key. -/
  | dotted
deriving Repr, DecidableEq

/-- What a key of a table under construction stands for. -/
inductive Item where
  | value (value : Value)
  | table (origin : Origin) (entries : List (String × Item))
  /-- An array that gets one table for each header in double brackets. -/
  | tables (elements : List (List (String × Item)))

/-- The keys of a table under construction, in order of appearance. -/
abbrev Entries := List (String × Item)

/-- Changes what a key stands for, or adds the key at the end. -/
def Entries.update (key : String) (change : Option Item → Option Item) :
    Entries → Option Entries
  | [] => (change none).map fun item => [(key, item)]
  | (name, item) :: rest =>
    if name = key then (change (some item)).map fun item => (name, item) :: rest
    else (Entries.update key change rest).map ((name, item) :: ·)

/-- Changes the table that a list of keys leads to. Missing tables on the way are made; an
    array of tables leads to its last one. The keys of a dotted key (`isDotted`) do not lead
    into a table that has a header. -/
def descend (isDotted : Bool) (change : Origin → Entries → Option Entries) :
    List String → Origin → Entries → Option Entries
  | [], origin, entries => change origin entries
  | key :: rest, _, entries =>
    entries.update key fun
      | none =>
        -- The kind of key that makes a table decides who may add to it later.
        let origin := if isDotted then .dotted else .parent
        (descend isDotted change rest origin []).map (.table origin)
      | some (.value _) => none
      | some (.table origin inner) =>
        if isDotted && origin == .header then none
        else (descend isDotted change rest origin inner).map (.table origin)
      | some (.tables elements) =>
        match elements.getLast? with
        | none => none
        | some last =>
          (descend isDotted change rest .header last).map fun last =>
            .tables (elements.dropLast ++ [last])

/-! ### Statements -/

/-- Gives a value to a key in the table that the keys before it lead to. A key is given a
    value once, and a dotted key adds only to a table that dotted keys made. -/
def assign (path : List String) (key : String) (value : Value) (origin : Origin)
    (entries : Entries) : Option Entries :=
  descend true (fun origin entries =>
    -- Without a dot the key belongs to the table at hand, which no dotted key made.
    if (origin == .dotted) == path.isEmpty then none
    else entries.update key fun
      | none => some (.value value)
      | some _ => none) path origin entries

/-- Opens the table of a header. A table is opened once, and may exist before only because
    of the headers of tables below it. -/
def openTable (path : List String) (key : String) (document : Entries) : Option Entries :=
  descend false (fun _ entries =>
    entries.update key fun
      | none => some (.table .header [])
      | some (.table .parent inner) => some (.table .header inner)
      | some _ => none) path .header document

/-- Adds a table to the array of a header in double brackets. -/
def addTable (path : List String) (key : String) (document : Entries) : Option Entries :=
  descend false (fun _ entries =>
    entries.update key fun
      | none => some (.tables [[]])
      | some (.tables elements) => some (.tables (elements ++ [[]]))
      | some _ => none) path .header document

/-! ### Finished values -/

mutual

/-- The value that an item has come to. -/
def Item.toValue : Item → Value
  | .value value => value
  | .table _ entries => .table (valuesOf entries)
  | .tables elements => .array (tablesOf elements)

/-- The values of the keys of a table. -/
def valuesOf : List (String × Item) → List (String × Value)
  | [] => []
  | (key, item) :: rest => (key, item.toValue) :: valuesOf rest

/-- The tables of an array. -/
def tablesOf : List (List (String × Item)) → List Value
  | [] => []
  | entries :: rest => .table (valuesOf entries) :: tablesOf rest

end

end FileRoutes.Toml
