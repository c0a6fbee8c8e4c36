import FileRoutes.Proofs.Json.RoundTrip

namespace FileRoutes

/-!
# JSON — what a printed text tells

The text of a value ends where the value does: whatever follows it, two texts that are the same
have the same value at their start. So a printed forest can be told from its text.

* `Json.readChar`, `Json.readChar_escapeChar` — an escaped character is read back;
* `Json.quote_append_inj` — a string ends at its own quote;
* `Json.Plain` — values without numbers, whose first character tells their kind;
* `Json.enclose_append_inj` — an array or an object ends where it is closed;
* `Json.Told`, `Json.Plain.told` — a value without numbers is told by the start of a text;
* `Forest.eq_of_pretty_eq` — forests that are printed alike are the same.
-/

namespace Json

/-! ### Strings -/

/-- The number that a lowercase hexadecimal digit stands for. -/
def hexValue (c : Char) : Nat := if c ≤ '9' then c.toNat - 0x30 else c.toNat - 0x57

/-- Reads the first character of what stands between the quotes of a string. -/
def readChar : List Char → Option (Char × List Char)
  | '\\' :: 'u' :: '0' :: '0' :: high :: low :: rest =>
    some (Char.ofNat (16 * hexValue high + hexValue low), rest)
  | '\\' :: 'b' :: rest => some ('\x08', rest)
  | '\\' :: 't' :: rest => some ('\t', rest)
  | '\\' :: 'n' :: rest => some ('\n', rest)
  | '\\' :: 'f' :: rest => some ('\x0c', rest)
  | '\\' :: 'r' :: rest => some ('\r', rest)
  | '\\' :: c :: rest => some (c, rest)
  | c :: rest => some (c, rest)
  | [] => none

/-- A character that is no backslash is read as it is. -/
theorem readChar_of_ne {c : Char} (h : c ≠ '\\') (rest : List Char) :
    readChar (c :: rest) = some (c, rest) := by
  unfold readChar
  split <;> simp_all

/-- The code of a control is read back from its two digits. -/
theorem ofNat_hexValue {n : Nat} (h : n < 32) :
    Char.ofNat (16 * hexValue (hexDigit (n / 16)) + hexValue (hexDigit (n % 16)))
      = Char.ofNat n := by
  revert n
  decide

/-- **An escaped character is read back.** -/
theorem readChar_escapeChar (c : Char) (rest : List Char) :
    readChar (escapeChar c ++ rest) = some (c, rest) := by
  unfold escapeChar
  -- seven characters have an escape of their own
  iterate 7
    split
    next h => rw [h]; rfl
  split
  next _ _ _ _ _ _ _ hcontrol =>
    have hcode : c.toNat < 32 := UInt32.lt_iff_toNat_lt.mp hcontrol
    show some (Char.ofNat (16 * hexValue (hexDigit (c.toNat / 16))
      + hexValue (hexDigit (c.toNat % 16))), rest) = _
    rw [ofNat_hexValue hcode, Char.ofNat_toNat]
  next hbackslash _ _ _ _ _ _ => exact readChar_of_ne hbackslash rest

/-- An escaped character does not start with a quote. -/
theorem escapeChar_eq_cons (c : Char) : ∃ d more, d ≠ '"' ∧ escapeChar c = d :: more := by
  unfold escapeChar
  by_cases hquote : c = '"'
  · exact ⟨'\\', ['"'], by decide, by rw [if_pos hquote]⟩
  · rw [if_neg hquote]
    repeat' split
    all_goals first
      | exact ⟨'\\', _, by decide, rfl⟩
      | exact ⟨c, [], hquote, rfl⟩

/-- The escaped text of a string ends at the first quote behind it. -/
theorem escape_append_inj {left right rest rest' : List Char}
    (h : left.flatMap escapeChar ++ '"' :: rest = right.flatMap escapeChar ++ '"' :: rest') :
    left = right ∧ rest = rest' := by
  -- a quote inside a text is escaped, so that a bare quote is the end of both
  induction left generalizing right with
  | nil =>
    cases right with
    | nil => exact ⟨rfl, (List.cons.inj h).2⟩
    | cons d right =>
      obtain ⟨e, more, he, hescape⟩ := escapeChar_eq_cons d
      rw [List.flatMap_nil, List.flatMap_cons, hescape] at h
      exact absurd (List.cons.inj h).1.symm he
  | cons c left ih =>
    cases right with
    | nil =>
      obtain ⟨e, more, he, hescape⟩ := escapeChar_eq_cons c
      rw [List.flatMap_nil, List.flatMap_cons, hescape] at h
      exact absurd (List.cons.inj h).1 he
    | cons d right =>
      rw [List.flatMap_cons, List.flatMap_cons, List.append_assoc, List.append_assoc] at h
      have hread := congrArg readChar h
      rw [readChar_escapeChar, readChar_escapeChar, Option.some_inj, Prod.mk.injEq] at hread
      obtain ⟨rfl, hlater⟩ := hread
      obtain ⟨rfl, hrest⟩ := ih hlater
      exact ⟨rfl, hrest⟩

/-- Unfolding lemma: the characters of a string. -/
theorem toList_quote (text : String) :
    (quote text).toList = '"' :: (text.toList.flatMap escapeChar ++ ['"']) := by
  simp [quote]

/-- **A string ends at its own quote.** -/
theorem quote_append_inj {left right : String} {rest rest' : List Char}
    (h : (quote left).toList ++ rest = (quote right).toList ++ rest') :
    left = right ∧ rest = rest' := by
  rw [toList_quote, toList_quote, List.cons_append, List.cons_append, List.append_assoc,
    List.append_assoc] at h
  obtain ⟨htext, hrest⟩ := escape_append_inj (List.cons.inj h).2
  exact ⟨String.toList_inj.mp htext, hrest⟩

/-! ### Kinds of values -/

/-- A value without numbers, which do not show where they end. -/
inductive Plain : Json → Prop
  | null : Plain .null
  | bool (value : Bool) : Plain (.bool value)
  | string (text : String) : Plain (.string text)
  | array {items : List Json} (hitems : ∀ item ∈ items, Plain item) : Plain (.array items)
  | object {fields : List (String × Json)} (hfields : ∀ field ∈ fields, Plain field.2) :
    Plain (.object fields)

/-- The first character of the text of a value without numbers. -/
def opening : Json → Char
  | .null => 'n'
  | .bool true => 't'
  | .bool false => 'f'
  | .number _ => '0'
  | .string _ => '"'
  | .array _ => '['
  | .object _ => '\x7b'

/-- The text of a value starts with its opening character. -/
theorem Plain.head?_write {value : Json} (h : value.Plain) (level : Nat) (rest : List Char) :
    ((write level value).toList ++ rest).head? = some value.opening := by
  cases h with
  | null => simp [write, opening]
  | bool value => cases value <;> simp [write, opening]
  | string text => simp [write, toList_quote, opening]
  | @array items _ => cases items <;> simp [write, opening]
  | @object fields _ => cases fields <;> simp [write, opening]

/-- Two values of one kind. Null and the two truth values are kinds of their own. -/
inductive SameKind : Json → Json → Prop
  | null : SameKind .null .null
  | bool (value : Bool) : SameKind (.bool value) (.bool value)
  | number (left right : String) : SameKind (.number left) (.number right)
  | string (left right : String) : SameKind (.string left) (.string right)
  | array (left right : List Json) : SameKind (.array left) (.array right)
  | object (left right : List (String × Json)) : SameKind (.object left) (.object right)

/-- The opening character tells the kind of a value. -/
theorem sameKind_of_opening {left right : Json} (h : left.opening = right.opening) :
    SameKind left right := by
  rcases left with _ | (_ | _) | _ | _ | _ | _ <;> rcases right with _ | (_ | _) | _ | _ | _ | _ <;>
    first
    | constructor
    | simp [opening] at h

/-- Values whose texts start alike are of one kind. -/
theorem Plain.sameKind {left right : Json} {level : Nat} {rest rest' : List Char}
    (hleft : left.Plain) (hright : right.Plain)
    (h : (write level left).toList ++ rest = (write level right).toList ++ rest') :
    SameKind left right := by
  apply sameKind_of_opening
  have hhead := congrArg List.head? h
  rwa [hleft.head?_write, hright.head?_write, Option.some_inj] at hhead

/-! ### Arrays and objects -/

/-- The texts of further parts of a value, each after a comma and on a line of its own. -/
def further (level : Nat) (parts : List (List Char)) : List Char :=
  parts.flatMap fun part => ',' :: ((newline level).toList ++ part)

/-- The text of a value that has parts on the next level, between two brackets. -/
def enclose (level : Nat) (opening closing : Char) : List (List Char) → List Char
  | [] => [opening, closing]
  | part :: rest =>
    opening :: ((newline (level + 1)).toList ++ (part ++ (further (level + 1) rest ++
      ((newline level).toList ++ [closing]))))

/-- The text of a field: its name and its value. -/
def fieldText (level : Nat) (field : String × Json) : List Char :=
  (quote field.1).toList ++ (": ".toList ++ (write level field.2).toList)

/-- Unfolding lemma: further items of an array. -/
theorem toList_writeItems (level : Nat) (items : List Json) :
    (writeItems level items).toList
      = further level (items.map fun item => (write level item).toList) := by
  induction items with
  | nil => simp [writeItems, further]
  | cons item items ih =>
    rw [writeItems, String.toList_append, ih]
    simp [further]

/-- Unfolding lemma: further fields of an object. -/
theorem toList_writeFields (level : Nat) (fields : List (String × Json)) :
    (writeFields level fields).toList = further level (fields.map (fieldText level)) := by
  induction fields with
  | nil => simp [writeFields, further]
  | cons field fields ih =>
    rw [writeFields, String.toList_append, ih]
    simp [further, fieldText]

/-- Unfolding lemma: an array is written as its items between brackets. -/
theorem toList_write_array (level : Nat) (items : List Json) :
    (write level (.array items)).toList
      = enclose level '[' ']' (items.map fun item => (write (level + 1) item).toList) := by
  cases items <;> simp [write, enclose, toList_writeItems]

/-- Unfolding lemma: an object is written as its fields between braces. -/
theorem toList_write_object (level : Nat) (fields : List (String × Json)) :
    (write level (.object fields)).toList
      = enclose level '\x7b' '\x7d' (fields.map (fieldText (level + 1))) := by
  cases fields <;> simp [write, enclose, toList_writeFields, fieldText]

section Parts

variable {α : Type} {text : α → List Char} {left right : List α} {level : Nat}
  {rest rest' : List Char}

/-- Further parts end where no comma follows. -/
theorem further_append_inj
    (htext : ∀ a ∈ left, ∀ b ∈ right, ∀ rest rest', text a ++ rest = text b ++ rest' →
      a = b ∧ rest = rest')
    (hrest : rest.head? ≠ some ',') (hrest' : rest'.head? ≠ some ',')
    (h : further level (left.map text) ++ rest = further level (right.map text) ++ rest') :
    left = right ∧ rest = rest' := by
  induction left generalizing right with
  | nil =>
    cases right with
    | nil => exact ⟨rfl, h⟩
    | cons b right =>
      apply absurd (congrArg List.head? h)
      simpa [further] using hrest
  | cons a left ih =>
    cases right with
    | nil =>
      apply absurd (congrArg List.head? h).symm
      simpa [further] using hrest'
    | cons b right =>
      simp only [further, List.map_cons, List.flatMap_cons, List.cons_append, List.append_assoc,
        List.cons.injEq, List.append_cancel_left_eq, true_and] at h
      obtain ⟨rfl, hlater⟩ := htext a List.mem_cons_self b List.mem_cons_self _ _ h
      obtain ⟨rfl, hends⟩ := ih (fun a ha b hb =>
        htext a (List.mem_cons_of_mem _ ha) b (List.mem_cons_of_mem _ hb)) hlater
      exact ⟨rfl, hends⟩

/-- A value with parts ends where it is closed. -/
theorem enclose_append_inj {opening closing : Char} (hclosing : closing ≠ '\n')
    (htext : ∀ a ∈ left, ∀ b ∈ right, ∀ rest rest', text a ++ rest = text b ++ rest' →
      a = b ∧ rest = rest')
    (h : enclose level opening closing (left.map text) ++ rest
      = enclose level opening closing (right.map text) ++ rest') :
    left = right ∧ rest = rest' := by
  -- a line break follows the last part, and no comma
  have hbreak : ∀ tail : List Char, ((newline level).toList ++ tail).head? ≠ some ',' := by
    simp [newline]
  rcases left with _ | ⟨a, left⟩ <;> rcases right with _ | ⟨b, right⟩
  · exact ⟨rfl, List.append_cancel_left h⟩
  -- without parts it is closed at once, with parts there is a line break first
  · simp [enclose, newline, hclosing] at h
  · simp [enclose, newline, Ne.symm hclosing] at h
  · simp only [enclose, List.map_cons, List.cons_append, List.append_assoc, List.cons.injEq,
      List.append_cancel_left_eq, true_and] at h
    obtain ⟨rfl, hlater⟩ := htext a List.mem_cons_self b List.mem_cons_self _ _ h
    obtain ⟨rfl, hends⟩ := further_append_inj (fun a ha b hb =>
      htext a (List.mem_cons_of_mem _ ha) b (List.mem_cons_of_mem _ hb)) (hbreak _) (hbreak _) hlater
    exact ⟨rfl, (List.cons.inj (List.append_cancel_left hends)).2⟩

end Parts

/-! ### All values -/

/-- A value that is told by the start of a text. -/
def Told (value : Json) : Prop :=
  ∀ other : Json, other.Plain → ∀ level rest rest',
    (write level value).toList ++ rest = (write level other).toList ++ rest' →
    value = other ∧ rest = rest'

/-- A field ends where its value does. -/
theorem fieldText_append_inj {field other : String × Json} {level : Nat} {rest rest' : List Char}
    (hfield : Told field.2) (hother : other.2.Plain)
    (h : fieldText level field ++ rest = fieldText level other ++ rest') :
    field = other ∧ rest = rest' := by
  obtain ⟨name, value⟩ := field
  obtain ⟨name', value'⟩ := other
  simp only [fieldText, List.append_assoc] at h
  obtain ⟨rfl, hvalue⟩ := quote_append_inj h
  obtain ⟨rfl, hrest⟩ := hfield value' hother _ _ _ (List.append_cancel_left hvalue)
  exact ⟨rfl, hrest⟩

/-- **A value is told by the start of a text**, whatever follows it there. -/
theorem Plain.told {value : Json} (h : value.Plain) : Told value := by
  induction h with
  | null =>
    intro other hother level rest rest' heq
    cases Plain.null.sameKind hother heq
    exact ⟨rfl, List.append_cancel_left heq⟩
  | bool value =>
    intro other hother level rest rest' heq
    cases (Plain.bool value).sameKind hother heq
    exact ⟨rfl, List.append_cancel_left heq⟩
  | string text =>
    intro other hother level rest rest' heq
    cases (Plain.string text).sameKind hother heq
    simp only [write] at heq
    obtain ⟨rfl, hrest⟩ := quote_append_inj heq
    exact ⟨rfl, hrest⟩
  | array hitems ih =>
    intro other hother level rest rest' heq
    cases (Plain.array hitems).sameKind hother heq
    cases hother with
    | array hothers =>
      rw [toList_write_array, toList_write_array] at heq
      obtain ⟨rfl, hrest⟩ := enclose_append_inj (by decide)
        (fun item hitem other hother => ih item hitem other (hothers other hother) _) heq
      exact ⟨rfl, hrest⟩
  | object hfields ih =>
    intro other hother level rest rest' heq
    cases (Plain.object hfields).sameKind hother heq
    cases hother with
    | object hothers =>
      rw [toList_write_object, toList_write_object] at heq
      obtain ⟨rfl, hrest⟩ := enclose_append_inj (by decide)
        (fun field hfield other hother _ _ => fieldText_append_inj (ih field hfield)
          (hothers other hother)) heq
      exact ⟨rfl, hrest⟩

/-- Values without numbers are the same if they are printed alike. -/
theorem Plain.eq_of_pretty_eq {left right : Json} (hleft : left.Plain) (hright : right.Plain)
    (h : left.pretty = right.pretty) : left = right :=
  (hleft.told right hright 0 [] [] (by rw [← pretty, ← pretty, h])).1

end Json

/-! ### Route trees -/

/-- A written route has no numbers if its written children have none. -/
theorem Route.plain_toJson {route : Route}
    (h : ∀ item ∈ Forest.toJsonItems route.children, item.Plain) : route.toJson.Plain := by
  obtain ⟨name, path, file, children⟩ := route
  have hparts : ∀ field ∈ [("path", Json.string path), ("file", .string file),
      ("children", .array (Forest.toJsonItems children))], field.2.Plain := by
    simpa using ⟨Json.Plain.string path, .string file, .array h⟩
  unfold Route.toJson
  cases name with
  | none => exact .object hparts
  | some name => exact .object (List.forall_mem_cons.mpr ⟨.string name, hparts⟩)

/-- Written routes have no numbers. -/
theorem Forest.plain_toJsonItems (forest : Forest) :
    ∀ item ∈ Forest.toJsonItems forest, item.Plain := by
  induction forest using Forest.induct with
  | nil => exact nofun
  | cons route rest below beside =>
    exact List.forall_mem_cons.mpr ⟨Route.plain_toJson below, beside⟩

/-- A written forest has no numbers. -/
theorem Forest.plain_toJson (forest : Forest) : forest.toJson.Plain :=
  .array forest.plain_toJsonItems

/-- **A forest can be told from its printed text.** -/
theorem Forest.eq_of_pretty_eq {left right : Forest}
    (h : left.toJson.pretty = right.toJson.pretty) : left = right := by
  have hjson : left.toJson = right.toJson :=
    left.plain_toJson.eq_of_pretty_eq right.plain_toJson h
  have hread := congrArg Forest.ofJson? hjson
  rwa [Forest.ofJson?_toJson, Forest.ofJson?_toJson, Option.some_inj] at hread

/-- A page without a name and its index page. The list of children is there even if it is empty. -/
example :
    (Forest.toJson [⟨none, "/Shop", "\"Shop\".vue",
        [⟨some "Shop-index", "", "Shop/index.vue", []⟩]⟩]).pretty
      = String.intercalate "\n" [
          "[",
          "  \x7b",
          "    \"path\": \"/Shop\",",
          "    \"file\": \"\\\"Shop\\\".vue\",",
          "    \"children\": [",
          "      \x7b",
          "        \"name\": \"Shop-index\",",
          "        \"path\": \"\",",
          "        \"file\": \"Shop/index.vue\",",
          "        \"children\": []",
          "      \x7d",
          "    ]",
          "  \x7d",
          "]"] := by
  decide +kernel

end FileRoutes
