import FileRoutes.Proofs.Url.Replacement

namespace FileRoutes.Url

/-!
# URLs — reading an encoded text back

* `unescape`, `decode?` — the usual reading of a percent-encoded text: its bytes, and the text that
  they are in UTF-8;
* `unescape_encodeChars` — an encoded text has the bytes of its units;
* `WellEncoded` — the form of an encoded text: visible ASCII characters that a URL does not read as
  structure, and complete escapes;
* `faithful_encode` — encoding keeps encoded slashes, has that form, and can be read back.
-/

/-! ### Decoding -/

/-- The number that a hexadecimal digit of either case stands for. -/
def hexValue? (c : Char) : Option Nat :=
  if '0' ≤ c ∧ c ≤ '9' then some (c.toNat - 0x30)
  else if 'A' ≤ c ∧ c ≤ 'F' then some (c.toNat - 0x37)
  else if 'a' ≤ c ∧ c ≤ 'f' then some (c.toNat - 0x57)
  else none

/-- The bytes of a percent-encoded text. A `%` without two hexadecimal digits behind it stands for
    itself, as other characters do. -/
def unescape : List Char → List UInt8
  | [] => []
  | '%' :: high :: low :: rest =>
    match hexValue? high, hexValue? low with
    | some m, some n => UInt8.ofNat (16 * m + n) :: unescape rest
    | _, _ => String.utf8EncodeChar '%' ++ unescape (high :: low :: rest)
  | c :: rest => String.utf8EncodeChar c ++ unescape rest

/-- Decodes a percent-encoded text, if its bytes are a text in UTF-8. -/
def decode? (text : String) : Option String :=
  String.fromUTF8? (unescape text.toList).toByteArray

/-- A digit that is written is read back. -/
theorem hexValue?_hexDigit {n : Nat} (h : n < 16) : hexValue? (hexDigit n) = some n := by
  revert n
  decide

/-- An escape is read as its byte. -/
theorem unescape_escapeByte (byte : UInt8) (rest : List Char) :
    unescape (escapeByte byte ++ rest) = byte :: unescape rest := by
  have hbyte := byte.toNat_lt
  have hhigh := hexValue?_hexDigit (n := byte.toNat / 16) (by omega)
  have hlow := hexValue?_hexDigit (n := byte.toNat % 16) (by omega)
  have hvalue : UInt8.ofNat (16 * (byte.toNat / 16) + byte.toNat % 16) = byte := by
    rw [Nat.div_add_mod, UInt8.ofNat_toNat]
  show unescape ('%' :: hexDigit (byte.toNat / 16) :: hexDigit (byte.toNat % 16) :: rest) = _
  rw [unescape, hhigh, hlow]
  dsimp only
  rw [hvalue]

/-- Escapes are read as their bytes. -/
theorem unescape_escapes (bytes : List UInt8) (rest : List Char) :
    unescape (bytes.flatMap escapeByte ++ rest) = bytes ++ unescape rest := by
  induction bytes with
  | nil => rfl
  | cons byte bytes ih =>
    rw [List.flatMap_cons, List.append_assoc, unescape_escapeByte, ih, List.cons_append]

/-- Other characters are read as themselves. -/
theorem unescape_cons {c : Char} (hc : c ≠ '%') (rest : List Char) :
    unescape (c :: rest) = String.utf8EncodeChar c ++ unescape rest := by
  rw [unescape]
  exact fun high low later h _ => hc h

/-- The code of a unit is read as the bytes of its character. -/
theorem unescape_unitCode (u : Option Char) (rest : List Char) :
    unescape (unitCode u ++ rest) = String.utf8EncodeChar (u.getD '/') ++ unescape rest := by
  rcases unitCode_cases u with ⟨c, rfl, hc, hcode⟩ | ⟨c, hcode, hu⟩
  · have hne : c ≠ '%' := by
      rintro rfl
      exact absurd hc (by decide)
    rw [hcode, List.singleton_append, unescape_cons hne]
    rfl
  · have hchar : u.getD '/' = c := by
      rcases hu with ⟨rfl, -⟩ | ⟨rfl, rfl⟩ <;> rfl
    rw [hcode, hchar, escapes, unescape_escapes]

/-- **An encoded text has the bytes of its units.** -/
theorem unescape_encodeChars (text : List Char) :
    unescape (encodeChars text)
      = ((units text).map (·.getD '/')).flatMap String.utf8EncodeChar := by
  rw [encodeChars_eq_flatMap]
  induction units text with
  | nil => rfl
  | cons u us ih =>
    rw [List.flatMap_cons, unescape_unitCode, ih, List.map_cons, List.flatMap_cons]

/-- The bytes of a text are that text. -/
theorem fromUTF8?_bytes (text : String) :
    String.fromUTF8? (text.toList.flatMap String.utf8EncodeChar).toByteArray = some text := by
  have hbytes : text.toByteArray = (text.toList.flatMap String.utf8EncodeChar).toByteArray := by
    have hlist := String.toByteArray_ofList (l := text.toList)
    rwa [String.ofList_toList] at hlist
  rw [← hbytes, String.fromUTF8?, dif_pos text.isValidUTF8]
  rfl

/-! ### The form of an encoded text -/

/-- Whether every `%` of a text has two hexadecimal digits behind it, with capital letters. -/
def CompleteEscapes (text : List Char) : Prop :=
  ∀ place, text[place]? = some '%' → ∃ high low, text[place + 1]? = some high ∧
    text[place + 2]? = some low ∧ high ∈ "0123456789ABCDEF".toList ∧
    low ∈ "0123456789ABCDEF".toList

/-- The characters, other than `%`, that a URL or a route pattern would read as structure. -/
def structureChars : List Char := " \"<>[\\]^`\x7b\x7d#?&+".toList

/-- The form of percent-encoded path texts. -/
structure WellEncoded (text : String) : Prop where
  ascii : ∀ c ∈ text.toList, c.toNat < 0x80
  escapes : CompleteEscapes text.toList
  /-- There are no controls, and nothing that would be read as structure. -/
  plain : ∀ c ∈ text.toList, c ≠ '%' → 0x20 ≤ c.toNat ∧ c.toNat ≠ 0x7F ∧ c ∉ structureChars

/-- Texts with complete escapes can be put together. -/
theorem CompleteEscapes.append {left right : List Char} (hleft : CompleteEscapes left)
    (hright : CompleteEscapes right) : CompleteEscapes (left ++ right) := by
  intro place hplace
  by_cases hlt : place < left.length
  · rw [List.getElem?_append_left hlt] at hplace
    obtain ⟨high, low, hhigh, hlow, hdigits⟩ := hleft place hplace
    have hlength := (List.getElem?_eq_some_iff.mp hlow).1
    refine ⟨high, low, ?_, ?_, hdigits⟩
    · rwa [List.getElem?_append_left (by omega)]
    · rwa [List.getElem?_append_left hlength]
  · obtain ⟨behind, rfl⟩ := Nat.exists_eq_add_of_le (Nat.le_of_not_lt hlt)
    rw [List.getElem?_append_right (by omega), Nat.add_sub_cancel_left] at hplace
    obtain ⟨high, low, hhigh, hlow, hdigits⟩ := hright behind hplace
    refine ⟨high, low, ?_, ?_, hdigits⟩
    · rw [List.getElem?_append_right (by omega)]
      rwa [show left.length + behind + 1 - left.length = behind + 1 by omega]
    · rw [List.getElem?_append_right (by omega)]
      rwa [show left.length + behind + 2 - left.length = behind + 2 by omega]

/-- No escape starts within nothing. -/
theorem completeEscapes_nil : CompleteEscapes [] := by
  intro place hplace
  simp at hplace

/-- The escape of a byte is complete. -/
theorem completeEscapes_escapeByte (byte : UInt8) : CompleteEscapes (escapeByte byte) := by
  have hbyte := byte.toNat_lt
  have hhigh : byte.toNat / 16 < 16 := by omega
  have hlow : byte.toNat % 16 < 16 := by omega
  intro place hplace
  match place with
  | 0 => exact ⟨_, _, rfl, rfl, hexDigit_mem hhigh, hexDigit_mem hlow⟩
  | 1 => exact absurd (Option.some.inj hplace) (hexDigit_ne_percent hhigh)
  | 2 => exact absurd (Option.some.inj hplace) (hexDigit_ne_percent hlow)
  | place + 3 => cases hplace

/-- So are the codes of units. -/
theorem completeEscapes_unitCode (u : Option Char) : CompleteEscapes (unitCode u) := by
  rcases unitCode_cases u with ⟨c, -, hc, hcode⟩ | ⟨c, hcode, -⟩
  · -- what stands for itself is no `%`
    rw [hcode]
    intro place hplace
    have hpercent : '%' = c := List.mem_singleton.mp (List.mem_of_getElem? hplace)
    rw [← hpercent] at hc
    exact absurd hc (by decide)
  · rw [hcode, Url.escapes]
    induction String.utf8EncodeChar c with
    | nil => exact completeEscapes_nil
    | cons byte bytes ih =>
      rw [List.flatMap_cons]
      exact (completeEscapes_escapeByte byte).append ih

/-- **Every escape of an encoded text is complete.** -/
theorem completeEscapes_encodeChars (text : List Char) : CompleteEscapes (encodeChars text) := by
  rw [encodeChars_eq_flatMap]
  induction units text with
  | nil => exact completeEscapes_nil
  | cons u us ih =>
    rw [List.flatMap_cons]
    exact (completeEscapes_unitCode u).append ih

/-- A character that is not reserved is visible ASCII and no structure. -/
theorem bounds_of_not_reserved {c : Char} (h : isReserved c = false) :
    0x20 ≤ c.toNat ∧ c.toNat < 0x7F ∧ c ∉ structureChars := by
  have hstructure : ∀ d ∈ structureChars, isReserved d = true :=
    List.all_eq_true.mp (by decide)
  have hplain : c ∉ structureChars := by
    intro hc
    rw [hstructure c hc] at h
    cases h
  unfold isReserved at h
  rw [Bool.or_eq_false_iff, Bool.or_eq_false_iff, decide_eq_false_iff_not,
    decide_eq_false_iff_not, UInt32.lt_iff_toNat_lt, UInt32.le_iff_toNat_le] at h
  exact ⟨Nat.le_of_not_lt h.1.1, Nat.lt_of_not_le h.1.2, hplain⟩

/-- **Encoded texts are well-formed.** -/
theorem wellEncoded_encode (text : String) : WellEncoded (encode text) := by
  have hdigits : ∀ c ∈ "0123456789ABCDEF".toList, isReserved c = false := by
    have hall : "0123456789ABCDEF".toList.all (!isReserved ·) = true := by decide
    simpa using hall
  have hbounds : ∀ c ∈ (encode text).toList, c ≠ '%' → 0x20 ≤ c.toNat ∧ c.toNat < 0x7F ∧
      c ∉ structureChars := by
    intro c hc hpercent
    rw [toList_encode] at hc
    rcases mem_of_mem_encodeChars hc with ⟨-, hreserved⟩ | hc | hc
    · exact bounds_of_not_reserved hreserved
    · exact absurd hc hpercent
    · exact bounds_of_not_reserved (hdigits c hc)
  constructor
  · intro c hc
    by_cases hpercent : c = '%'
    · rw [hpercent]
      decide
    · have := (hbounds c hc hpercent).2.1
      omega
  · rw [toList_encode]
    exact completeEscapes_encodeChars text.toList
  · intro c hc hpercent
    obtain ⟨hvisible, hascii, hplain⟩ := hbounds c hc hpercent
    exact ⟨hvisible, by omega, hplain⟩

/-- **Encoding is faithful.** A text is encoded character by character, but for slashes that are
    encoded already; the result is well-formed; and decoding it gives the text back, with those
    slashes decoded. -/
theorem faithful_encode (text : String) :
    encode text = replaceAll "%252f" "%2F" (replaceAll "%252F" "%2F"
        (String.ofList (text.toList.flatMap encodeChar))) ∧
      WellEncoded (encode text) ∧
      decode? (encode text) = some (replaceAll "%2f" "/" (replaceAll "%2F" "/" text)) := by
  refine ⟨encode_eq_replaceAll text, wellEncoded_encode text, ?_⟩
  rw [decode?, toList_encode, unescape_encodeChars, ← toList_replaceAll_slashes]
  exact fromUTF8?_bytes _

end FileRoutes.Url
