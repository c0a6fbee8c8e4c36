import FileRoutes.Url.Encoding

namespace FileRoutes.Url

/-!
# URLs — what an encoded text still tells

* `mem_of_mem_encodeChars` — an encoded text has unreserved characters of the text, `%` and
  hexadecimal digits;
* `units` — a text as it is encoded piece by piece: characters, and slashes that are written
  as `%2F` or `%2f` already;
* `units_eq_of_encodeChars_eq` — the units are found again in the encoded text.

The code is read from the left: an unreserved character stands for itself, and a `%` starts
the bytes of one character, whose number the first byte tells.
-/

/-! ### Escapes -/

/-- The digits of escapes are hexadecimal. -/
theorem hexDigit_mem {n : Nat} (h : n < 16) : hexDigit n ∈ "0123456789ABCDEF".toList := by
  revert n
  decide

/-- Different numbers below sixteen have different digits. -/
theorem hexDigit_inj {m n : Nat} (hm : m < 16) (hn : n < 16) (h : hexDigit m = hexDigit n) :
    m = n := by
  have hdigits : ∀ m < 16, ∀ n < 16, hexDigit m = hexDigit n → m = n := by decide
  exact hdigits m hm n hn h

/-- Different bytes have different escapes. -/
theorem escapeByte_inj {a b : UInt8} (h : escapeByte a = escapeByte b) : a = b := by
  simp only [escapeByte, List.cons.injEq, and_true, true_and] at h
  have ha := a.toNat_lt
  have hb := b.toNat_lt
  have hhigh := hexDigit_inj (by omega) (by omega) h.1
  have hlow := hexDigit_inj (by omega) (by omega) h.2
  apply UInt8.toNat_inj.mp
  omega

/-- The bytes of a character as escapes. -/
def escapes (c : Char) : List Char := (String.utf8EncodeChar c).flatMap escapeByte

/-- Of two rows of escapes that a text starts with, one goes on from the other. -/
private theorem bytes_prefix_of_escapes {a b : List UInt8} {left right : List Char}
    (h : a.flatMap escapeByte ++ left = b.flatMap escapeByte ++ right) : a <+: b ∨ b <+: a := by
  induction a generalizing b with
  | nil => exact .inl List.nil_prefix
  | cons x a ih =>
    cases b with
    | nil => exact .inr List.nil_prefix
    | cons y b =>
      rw [List.flatMap_cons, List.flatMap_cons, List.append_assoc, List.append_assoc] at h
      obtain ⟨hbyte, hrest⟩ := List.append_inj h rfl
      rw [escapeByte_inj hbyte]
      simpa only [List.cons_prefix_cons, true_and] using ih hrest

/-- A character is known by the bytes that a row of bytes starts with. -/
private theorem eq_of_utf8EncodeChar_start {c d : Char}
    (h : String.utf8EncodeChar c <+: String.utf8EncodeChar d) : c = d := by
  obtain ⟨rest, hrest⟩ := h
  have hc := ByteArray.utf8DecodeChar?_utf8EncodeChar_append (b := rest.toByteArray) (c := c)
  have hd := ByteArray.utf8DecodeChar?_utf8EncodeChar_append (b := ByteArray.empty) (c := d)
  rw [← List.toByteArray_append, hrest] at hc
  rw [ByteArray.append_empty, hc] at hd
  exact Option.some.inj hd

/-- A character is known by the escapes that a text starts with. -/
theorem escapes_append_inj {c d : Char} {left right : List Char}
    (h : escapes c ++ left = escapes d ++ right) : c = d ∧ left = right := by
  have hcd : c = d := by
    rcases bytes_prefix_of_escapes h with hbytes | hbytes
    · exact eq_of_utf8EncodeChar_start hbytes
    · exact (eq_of_utf8EncodeChar_start hbytes).symm
  subst hcd
  exact ⟨rfl, List.append_cancel_left h⟩

/-- Escapes start with `%`. -/
theorem escapes_eq_cons (c : Char) : ∃ rest, escapes c = '%' :: rest := by
  obtain ⟨byte, bytes, h⟩ := List.exists_cons_of_ne_nil (String.utf8EncodeChar_ne_nil (c := c))
  exact ⟨_, by rw [escapes, h]; rfl⟩

/-- Escapes have only `%` and hexadecimal digits. -/
theorem mem_escapes {c d : Char} (h : d ∈ escapes c) :
    d = '%' ∨ d ∈ "0123456789ABCDEF".toList := by
  obtain ⟨byte, -, hd⟩ := List.mem_flatMap.mp h
  have hbyte := byte.toNat_lt
  simp only [escapeByte, List.mem_cons, List.not_mem_nil, or_false] at hd
  rcases hd with rfl | rfl | rfl
  · exact .inl rfl
  · exact .inr (hexDigit_mem (by omega))
  · exact .inr (hexDigit_mem (by omega))

/-! ### Units -/

/-- The units that a text is encoded by: its characters, where `none` stands for a slash that is
    encoded already. -/
def units : List Char → List (Option Char)
  | [] => []
  | '%' :: '2' :: 'F' :: rest => none :: units rest
  | '%' :: '2' :: 'f' :: rest => none :: units rest
  | c :: rest => some c :: units rest

/-- What stands for a unit in the encoded text. -/
def unitCode : Option Char → List Char
  | none => escapes '/'
  | some c => encodeChar c

/-- A text is encoded unit by unit. -/
theorem encodeChars_eq_flatMap (text : List Char) :
    encodeChars text = (units text).flatMap unitCode := by
  fun_induction encodeChars text with
  | case1 => rfl
  | case2 rest ih => rw [units, List.flatMap_cons, ih]; rfl
  | case3 rest ih => rw [units, List.flatMap_cons, ih]; rfl
  | case4 c rest hupper hlower ih =>
    rw [units, List.flatMap_cons, ih]
    · rfl
    · exact hupper
    · exact hlower

/-- A unit is an unreserved character that stands for itself, or it is written as the escapes of
    a character, which is reserved or the slash. -/
theorem unitCode_cases (u : Option Char) :
    (∃ c, u = some c ∧ isReserved c = false ∧ unitCode u = [c]) ∨
    (∃ c, unitCode u = escapes c ∧
      ((u = some c ∧ isReserved c = true) ∨ (u = none ∧ c = '/'))) := by
  cases u with
  | none => exact .inr ⟨'/', rfl, .inr ⟨rfl, rfl⟩⟩
  | some c =>
    by_cases hc : isReserved c = true
    · exact .inr ⟨c, by simp [unitCode, encodeChar, hc, escapes], .inl ⟨rfl, hc⟩⟩
    · exact .inl ⟨c, rfl, by simpa using hc, by simp [unitCode, encodeChar, hc]⟩

/-- A unit is known by the code that a text starts with. -/
theorem unitCode_append_inj {u v : Option Char} {left right : List Char}
    (h : unitCode u ++ left = unitCode v ++ right) : u = v ∧ left = right := by
  -- An unreserved character is not the sign that escapes start with.
  have hsign : ∀ {c d : Char} {left right : List Char}, isReserved c = false →
      [c] ++ left ≠ escapes d ++ right := by
    intro c d left right hc heq
    obtain ⟨rest, hrest⟩ := escapes_eq_cons d
    rw [hrest, List.singleton_append, List.cons_append, List.cons.injEq] at heq
    rw [heq.1] at hc
    exact absurd hc (by decide)
  rcases unitCode_cases u with ⟨c, rfl, hc, hcode⟩ | ⟨c, hcode, hu⟩ <;>
    rcases unitCode_cases v with ⟨d, rfl, hd, hcode'⟩ | ⟨d, hcode', hv⟩ <;>
    rw [hcode, hcode'] at h
  · rw [List.singleton_append, List.singleton_append, List.cons.injEq] at h
    exact ⟨by rw [h.1], h.2⟩
  · exact absurd h (hsign hc)
  · exact absurd h.symm (hsign hd)
  · obtain ⟨rfl, hrest⟩ := escapes_append_inj h
    refine ⟨?_, hrest⟩
    -- a slash that is encoded already has escapes too, but no character of its own
    have hslash : isReserved '/' = false := by decide
    rcases hu with ⟨rfl, hc⟩ | ⟨rfl, hc⟩ <;> rcases hv with ⟨rfl, hd⟩ | ⟨rfl, hd⟩
    · rfl
    · rw [hd, hslash] at hc
      cases hc
    · rw [hc, hslash] at hd
      cases hd
    · rfl

/-- Every unit has a code. -/
theorem unitCode_ne_nil (u : Option Char) : unitCode u ≠ [] := by
  rcases unitCode_cases u with ⟨c, -, -, hcode⟩ | ⟨c, hcode, -⟩
  · rw [hcode]
    exact List.cons_ne_nil _ _
  · obtain ⟨rest, hrest⟩ := escapes_eq_cons c
    rw [hcode, hrest]
    exact List.cons_ne_nil _ _

/-- **The units of a text are found again in the encoded text.** -/
theorem units_eq_of_encodeChars_eq {left right : List Char}
    (h : encodeChars left = encodeChars right) : units left = units right := by
  rw [encodeChars_eq_flatMap, encodeChars_eq_flatMap] at h
  -- the units are read off from the left, one code after the other
  generalize units left = us at h ⊢
  generalize units right = vs at h ⊢
  induction us generalizing vs with
  | nil =>
    cases vs with
    | nil => rfl
    | cons v vs => simp [unitCode_ne_nil] at h
  | cons u us ih =>
    cases vs with
    | nil => simp [unitCode_ne_nil] at h
    | cons v vs =>
      rw [List.flatMap_cons, List.flatMap_cons] at h
      obtain ⟨rfl, hrest⟩ := unitCode_append_inj h
      rw [ih vs hrest]

/-! ### The characters of an encoded text -/

/-- A character that stands among the units stands in the text. -/
theorem mem_of_some_mem_units {text : List Char} {c : Char} (h : some c ∈ units text) :
    c ∈ text := by
  fun_induction units text with
  | case1 => simp at h
  | case2 rest ih => simpa using .inr (.inr (.inr (ih (by simpa using h))))
  | case3 rest ih => simpa using .inr (.inr (.inr (ih (by simpa using h))))
  | case4 d rest hupper hlower ih =>
    rcases List.mem_cons.mp h with hd | h
    · simp [Option.some.inj hd]
    · exact List.mem_cons_of_mem d (ih h)

/-- An encoded text has unreserved characters of the text, `%` and hexadecimal digits. -/
theorem mem_of_mem_encodeChars {text : List Char} {c : Char} (h : c ∈ encodeChars text) :
    (c ∈ text ∧ isReserved c = false) ∨ c = '%' ∨ c ∈ "0123456789ABCDEF".toList := by
  rw [encodeChars_eq_flatMap] at h
  obtain ⟨u, hu, hc⟩ := List.mem_flatMap.mp h
  rcases unitCode_cases u with ⟨d, rfl, hd, hcode⟩ | ⟨d, hcode, -⟩
  · rw [hcode, List.mem_singleton] at hc
    subst hc
    exact .inl ⟨mem_of_some_mem_units hu, hd⟩
  · rw [hcode] at hc
    exact .inr (mem_escapes hc)

/-- A slash of an encoded text is a slash of the text. -/
theorem slash_mem_of_encodeChars {text : List Char} (h : '/' ∈ encodeChars text) :
    '/' ∈ text := by
  rcases mem_of_mem_encodeChars h with h | h | h
  · exact h.1
  · exact absurd h (by decide)
  · exact absurd h (by decide)

/-- An encoded text has no backslash. -/
theorem backslash_not_mem_encodeChars (text : List Char) : '\\' ∉ encodeChars text := by
  intro h
  rcases mem_of_mem_encodeChars h with h | h | h
  · exact absurd h.2 (by decide)
  · exact absurd h (by decide)
  · exact absurd h (by decide)

/-- Only the empty text has an empty code. -/
theorem encodeChars_ne_nil {text : List Char} (h : text ≠ []) : encodeChars text ≠ [] := by
  rw [encodeChars_eq_flatMap]
  have hunits : units text ≠ [] := by
    fun_cases units text <;> simp_all
  obtain ⟨u, us, hus⟩ := List.exists_cons_of_ne_nil hunits
  simp [hus, unitCode_ne_nil]

/-! ### Texts with given units -/

/-- Units that are all characters are the characters of the text. -/
theorem eq_of_units_eq_map_some {text chars : List Char} (h : units text = chars.map some) :
    text = chars := by
  fun_induction units text generalizing chars with
  | case1 => simpa using h.symm
  | case2 rest ih => cases chars <;> simp at h
  | case3 rest ih => cases chars <;> simp at h
  | case4 c rest hupper hlower ih =>
    cases chars with
    | nil => simp at h
    | cons d chars =>
      rw [List.map_cons, List.cons.injEq, Option.some.injEq] at h
      rw [h.1, ih h.2]

/-- How many characters of the text a unit stands for. -/
def unitLength : Option Char → Nat
  | none => 3
  | some _ => 1

/-- The length of a text is known from its units. -/
theorem length_eq_foldr_units (text : List Char) :
    text.length = (units text).foldr (fun unit rest => unitLength unit + rest) 0 := by
  fun_induction units text with
  | case1 => rfl
  | case2 rest ih => simp [ih, unitLength]; omega
  | case3 rest ih => simp [ih, unitLength]; omega
  | case4 c rest hupper hlower ih => simp [ih, unitLength]; omega

end FileRoutes.Url
