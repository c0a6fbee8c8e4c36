import FileRoutes.Proofs.Url.Encoding

namespace FileRoutes.Url

/-!
# URLs — encoded slashes by replacement

Encoding keeps a slash that is encoded already. The plain way to that end is to encode every
character, and then to replace what has become of the encoded slashes in the whole text.

* `replaceChars`, `replaceAll` — a text with every occurrence of a pattern replaced;
* `Spelled` — what a way to write characters needs, so that encoded slashes are found among them;
* `Spelled.replace_twice` — replacing the two spellings of an encoded slash, one after the other,
  replaces the units of the text that are one;
* `spelled_plain`, `spelled_encodeChar` — so it is in the text itself and in the encoded one;
* `encode_eq_replaceAll` — encoding keeps encoded slashes as two replacements do.

The escapes of two neighbours never make up the pattern together: a `%` in the encoded text starts
the escape of a byte, and only the character `%` has the byte that the pattern starts with.
-/

/-! ### Replacing -/

/-- The characters with every occurrence of a pattern replaced. Occurrences are found from the left
    and do not overlap; the pattern has a character. -/
def replaceChars (pattern new : List Char) : List Char → List Char
  | [] => []
  | c :: rest =>
    if pattern <+: c :: rest then
      new ++ replaceChars pattern new (rest.drop (pattern.length - 1))
    else c :: replaceChars pattern new rest
termination_by text => text.length

/-- The text with every occurrence of a pattern replaced. -/
def replaceAll (pattern new text : String) : String :=
  String.ofList (replaceChars pattern.toList new.toList text.toList)

/-- Unfolding lemma: a text is replaced by its characters. -/
@[simp] theorem toList_replaceAll (pattern new text : String) :
    (replaceAll pattern new text).toList
      = replaceChars pattern.toList new.toList text.toList := by
  simp [replaceAll]

section

variable {pattern new : List Char}

/-- Unfolding lemma: there is nothing to replace in no characters. -/
@[simp] theorem replaceChars_nil : replaceChars pattern new [] = [] := by
  rw [replaceChars]

/-- A pattern that a text starts with is replaced. -/
theorem replaceChars_append (hpattern : pattern ≠ []) (rest : List Char) :
    replaceChars pattern new (pattern ++ rest) = new ++ replaceChars pattern new rest := by
  obtain ⟨c, others, rfl⟩ := List.exists_cons_of_ne_nil hpattern
  have hprefix : c :: others <+: c :: (others ++ rest) := List.prefix_append (c :: others) rest
  rw [List.cons_append, replaceChars, if_pos hprefix]
  simp

/-- A character at which the pattern does not start stays. -/
theorem replaceChars_cons {c : Char} {rest : List Char} (h : ¬ pattern <+: c :: rest) :
    replaceChars pattern new (c :: rest) = c :: replaceChars pattern new rest := by
  rw [replaceChars, if_neg h]

/-- So do characters that the pattern does not start with. -/
theorem replaceChars_append_of_head {text : List Char} (h : ∀ c ∈ text, pattern.head? ≠ some c)
    (hpattern : pattern ≠ []) (rest : List Char) :
    replaceChars pattern new (text ++ rest) = text ++ replaceChars pattern new rest := by
  obtain ⟨d, others, rfl⟩ := List.exists_cons_of_ne_nil hpattern
  induction text with
  | nil => rfl
  | cons c text ih =>
    have hc : d ≠ c := by simpa using h c List.mem_cons_self
    rw [List.cons_append, replaceChars_cons fun hprefix => hc (List.cons_prefix_cons.mp hprefix).1,
      ih fun e he => h e (List.mem_cons_of_mem c he), List.cons_append]

/-- A character that a replaced text starts with, but not what it is replaced by, stands at the
    start of the text. -/
theorem eq_cons_of_replaceChars {text rest : List Char} {c : Char} (hne : new ≠ [])
    (hnew : new.head? ≠ some c) (h : replaceChars pattern new text = c :: rest) :
    ∃ before, text = c :: before ∧ replaceChars pattern new before = rest := by
  cases text with
  | nil => simp at h
  | cons d before =>
    by_cases hprefix : pattern <+: d :: before
    · obtain ⟨e, others, rfl⟩ := List.exists_cons_of_ne_nil hne
      rw [replaceChars, if_pos hprefix, List.cons_append, List.cons.injEq] at h
      simp [h.1] at hnew
    · rw [replaceChars_cons hprefix, List.cons.injEq] at h
      exact ⟨before, by rw [h.1], h.2⟩

end

/-! ### Encoded slashes -/

/-- The digits of an encoded slash, of which the second one may stand in either case. -/
def slashDigits : List Char := ['2', 'F', 'f']

/-- Unfolding lemma: a statement about the three digits. -/
theorem forall_slashDigits {p : Char → Prop} :
    (∀ c ∈ slashDigits, p c) ↔ p '2' ∧ p 'F' ∧ p 'f' := by
  simp [slashDigits]

/-- What lets encoded slashes be found in a text whose characters are written by a code, while
    slashes that were found already are written in a way of their own. -/
structure Spelled (code : Char → List Char) (slash : List Char) : Prop where
  /-- The digits are written as themselves, and nothing else starts like one of them. -/
  digit : ∀ c ∈ slashDigits, code c = [c]
  start : ∀ c, ∃ first rest, code c = first :: rest ∧ (first ∈ slashDigits → c = first)
  slash_start : ∃ first rest, slash = first :: rest ∧ first ∉ slashDigits
  /-- A character stays where it does not start an encoded slash. -/
  pass : ∀ x c rest, (c = '%' → ¬ ['2', x] <+: rest) →
    replaceChars (code '%' ++ ['2', x]) slash (code c ++ rest)
      = code c ++ replaceChars (code '%' ++ ['2', x]) slash rest
  /-- So does what a slash was replaced by. -/
  pass_slash : ∀ rest, replaceChars (code '%' ++ ['2', 'f']) slash (slash ++ rest)
    = slash ++ replaceChars (code '%' ++ ['2', 'f']) slash rest

namespace Spelled

variable {code : Char → List Char} {slash : List Char}

/-- Digits that a written text starts with are those of the text. -/
theorem prefix_of_written (h : Spelled code slash) {digits text : List Char}
    (hdigits : ∀ c ∈ digits, c ∈ slashDigits) (hwritten : digits <+: text.flatMap code) :
    digits <+: text := by
  induction digits generalizing text with
  | nil => exact List.nil_prefix
  | cons d digits ih =>
    have hd := hdigits d List.mem_cons_self
    cases text with
    | nil => simp at hwritten
    | cons c text =>
      obtain ⟨first, rest, hcode, hfirst⟩ := h.start c
      rw [List.flatMap_cons, hcode, List.cons_append, List.cons_prefix_cons] at hwritten
      obtain ⟨rfl, hwritten⟩ := hwritten
      obtain rfl := hfirst hd
      rw [h.digit _ hd, List.cons.injEq] at hcode
      rw [← hcode.2, List.nil_append] at hwritten
      exact List.cons_prefix_cons.mpr
        ⟨rfl, ih (fun e he => hdigits e (List.mem_cons_of_mem _ he)) hwritten⟩

/-- Digits that a text starts with once its slashes are replaced are those of the text. -/
theorem prefix_of_replaced (h : Spelled code slash) {pattern digits text : List Char}
    (hdigits : ∀ c ∈ digits, c ∈ slashDigits)
    (hreplaced : digits <+: replaceChars pattern slash text) : digits <+: text := by
  obtain ⟨first, others, rfl, hfirst⟩ := h.slash_start
  induction digits generalizing text with
  | nil => exact List.nil_prefix
  | cons d digits ih =>
    have hd : (first :: others).head? ≠ some d := by
      intro heq
      rw [List.head?_cons, Option.some.injEq] at heq
      exact hfirst (heq ▸ hdigits d List.mem_cons_self)
    obtain ⟨rest, hrest⟩ := hreplaced
    obtain ⟨before, rfl, hbefore⟩ :=
      eq_cons_of_replaceChars (List.cons_ne_nil _ _) hd hrest.symm
    exact List.cons_prefix_cons.mpr ⟨rfl, ih (fun e he => hdigits e (List.mem_cons_of_mem _ he))
      (hbefore ▸ List.prefix_append digits rest)⟩

/-- **Two replacements find every encoded slash**, and nothing else. -/
theorem replace_twice (h : Spelled code slash) (text : List Char) :
    replaceChars (code '%' ++ ['2', 'f']) slash
        (replaceChars (code '%' ++ ['2', 'F']) slash (text.flatMap code))
      = (units text).flatMap fun unit => unit.elim slash code := by
  have hpattern : ∀ x, code '%' ++ ['2', x] ≠ [] := by simp
  have htwo : code '2' = ['2'] := h.digit '2' (by decide)
  have hupper : code 'F' = ['F'] := h.digit 'F' (by decide)
  have hlower : code 'f' = ['f'] := h.digit 'f' (by decide)
  fun_induction units text with
  | case1 => simp
  | case2 rest ih =>
    have hwritten : ('%' :: '2' :: 'F' :: rest).flatMap code
        = (code '%' ++ ['2', 'F']) ++ rest.flatMap code := by
      simp [htwo, hupper]
    rw [hwritten, replaceChars_append (hpattern 'F'), h.pass_slash, ih, List.flatMap_cons]
    rfl
  | case3 rest ih =>
    have hwritten : ('%' :: '2' :: 'f' :: rest).flatMap code
        = code '%' ++ (code '2' ++ (code 'f' ++ rest.flatMap code)) := by
      simp
    -- the first replacement passes over the other spelling
    have hfirst : replaceChars (code '%' ++ ['2', 'F']) slash
        (('%' :: '2' :: 'f' :: rest).flatMap code)
          = (code '%' ++ ['2', 'f']) ++ replaceChars (code '%' ++ ['2', 'F']) slash
            (rest.flatMap code) := by
      rw [hwritten, h.pass, h.pass, h.pass, htwo, hlower]
      · simp
      · simp
      · simp
      · simp [htwo, hlower]
    rw [hfirst, replaceChars_append (hpattern 'f'), ih, List.flatMap_cons]
    rfl
  | case4 c rest hnot_upper hnot_lower ih =>
    rw [List.flatMap_cons, h.pass, h.pass, ih, List.flatMap_cons]
    · rfl
    · -- the digits behind a `%` would be those of the text
      rintro rfl hdigits
      obtain ⟨others, rfl⟩ := h.prefix_of_written (by simp [slashDigits])
        (h.prefix_of_replaced (by simp [slashDigits]) hdigits)
      exact hnot_lower others rfl rfl
    · rintro rfl hdigits
      obtain ⟨others, rfl⟩ := h.prefix_of_written (by simp [slashDigits]) hdigits
      exact hnot_upper others rfl rfl

end Spelled

/-! ### The text itself, and the encoded text -/

/-- A text is written as it is, and an encoded slash as a slash. -/
theorem spelled_plain : Spelled (fun c => [c]) ['/'] where
  digit _ _ := rfl
  start c := ⟨c, [], rfl, fun _ => rfl⟩
  slash_start := ⟨'/', [], rfl, by decide⟩
  pass x c rest h := by
    by_cases hc : c = '%'
    · subst hc
      exact replaceChars_cons fun hprefix => h rfl (List.cons_prefix_cons.mp hprefix).2
    · exact replaceChars_append_of_head (by simpa using Ne.symm hc) (by simp) rest
  pass_slash rest := replaceChars_append_of_head (by simp) (by simp) rest

/-- Only `%` has its byte among those of a character. -/
theorem percent_not_mem_bytes {c : Char} (hc : c ≠ '%') : 0x25 ∉ String.utf8EncodeChar c := by
  have hcode : c.val.toNat ≠ 0x25 := fun h => hc (Char.toNat_inj.mp h)
  have hbyte : ∀ n, (0x25 : UInt8) = UInt8.ofNat n → n % 256 = 0x25 := by
    intro n hn
    have hnat := congrArg UInt8.toNat hn
    simpa using hnat.symm
  intro hmem
  unfold String.utf8EncodeChar at hmem
  dsimp only at hmem
  generalize c.val.toNat = v at hcode hmem
  -- beyond ASCII, all bytes are at least 128
  split at hmem
  · have hone := hbyte v (List.mem_singleton.mp hmem)
    omega
  · split at hmem
    · simp only [List.mem_cons, List.not_mem_nil, or_false] at hmem
      rcases hmem with h | h <;> have := hbyte _ h <;> omega
    · split at hmem
      · simp only [List.mem_cons, List.not_mem_nil, or_false] at hmem
        rcases hmem with h | h | h <;> have := hbyte _ h <;> omega
      · simp only [List.mem_cons, List.not_mem_nil, or_false] at hmem
        rcases hmem with h | h | h | h <;> have := hbyte _ h <;> omega

/-- A hexadecimal digit is not the sign that escapes start with. -/
theorem hexDigit_ne_percent {n : Nat} (h : n < 16) : hexDigit n ≠ '%' :=
  fun heq => absurd (heq ▸ hexDigit_mem h) (by decide)

/-- Escapes of bytes other than that of `%` are passed over. -/
theorem replaceChars_escapes {bytes : List UInt8} (hbytes : 0x25 ∉ bytes)
    (digits new rest : List Char) :
    replaceChars (escapeByte 0x25 ++ digits) new (bytes.flatMap escapeByte ++ rest)
      = bytes.flatMap escapeByte ++ replaceChars (escapeByte 0x25 ++ digits) new rest := by
  induction bytes with
  | nil => rfl
  | cons byte bytes ih =>
    rw [List.mem_cons, not_or] at hbytes
    obtain ⟨hfirst, hothers⟩ := hbytes
    have hbyte := byte.toNat_lt
    have hescape : escapeByte byte
        = '%' :: [hexDigit (byte.toNat / 16), hexDigit (byte.toNat % 16)] := rfl
    -- the pattern does not start at the sign of the escape, nor at one of its two digits
    have hsign : ¬ escapeByte 0x25 ++ digits
        <+: escapeByte byte ++ (bytes.flatMap escapeByte ++ rest) := by
      rintro ⟨later, hlater⟩
      rw [List.append_assoc] at hlater
      exact hfirst (escapeByte_inj (List.append_inj hlater rfl).1)
    have hdigits : ∀ c ∈ [hexDigit (byte.toNat / 16), hexDigit (byte.toNat % 16)],
        (escapeByte 0x25 ++ digits).head? ≠ some c := by
      have hhigh := hexDigit_ne_percent (n := byte.toNat / 16) (by omega)
      have hlow := hexDigit_ne_percent (n := byte.toNat % 16) (by omega)
      simpa [escapeByte] using ⟨Ne.symm hhigh, Ne.symm hlow⟩
    rw [hescape, List.cons_append] at hsign
    rw [List.flatMap_cons, List.append_assoc, List.append_assoc, hescape, List.cons_append,
      replaceChars_cons hsign, replaceChars_append_of_head hdigits (by simp [escapeByte]),
      ih hothers]
    rfl

/-- A text is written character by character, and an encoded slash as one escape. -/
theorem spelled_encodeChar : Spelled encodeChar ['%', '2', 'F'] where
  digit := forall_slashDigits.mpr (by decide)
  start c := by
    by_cases hc : isReserved c = true
    · obtain ⟨rest, hrest⟩ := escapes_eq_cons c
      exact ⟨'%', rest, by rw [encodeChar, if_pos hc]; exact hrest, fun h => absurd h (by decide)⟩
    · exact ⟨c, [], by rw [encodeChar, if_neg hc], fun _ => rfl⟩
  slash_start := ⟨'%', ['2', 'F'], rfl, by decide⟩
  pass x c rest h := by
    by_cases hc : c = '%'
    · subst hc
      have hsign : ¬ ['%', '2', '5', '2', x] <+: '%' :: (['2', '5'] ++ rest) := by
        simpa using h rfl
      show replaceChars ['%', '2', '5', '2', x] _ ('%' :: (['2', '5'] ++ rest)) = _
      rw [replaceChars_cons hsign, replaceChars_append_of_head (by simp) (by simp)]
      rfl
    · by_cases hreserved : isReserved c = true
      · have hcode : encodeChar c = (String.utf8EncodeChar c).flatMap escapeByte :=
          if_pos hreserved
        rw [hcode]
        exact replaceChars_escapes (percent_not_mem_bytes hc) ['2', x] _ rest
      · have hcode : encodeChar c = [c] := if_neg hreserved
        rw [hcode]
        refine replaceChars_append_of_head ?_ (by simp) rest
        simpa [show encodeChar '%' = ['%', '2', '5'] by decide] using Ne.symm hc
  pass_slash rest := by
    have hsign : ¬ ['%', '2', '5', '2', 'f'] <+: '%' :: (['2', 'F'] ++ rest) := by simp
    show replaceChars ['%', '2', '5', '2', 'f'] _ ('%' :: (['2', 'F'] ++ rest)) = _
    rw [replaceChars_cons hsign, replaceChars_append_of_head (by simp) (by simp)]
    rfl

/-- A text with its encoded slashes replaced by slashes is the text of its units. -/
theorem toList_replaceAll_slashes (text : String) :
    (replaceAll "%2f" "/" (replaceAll "%2F" "/" text)).toList
      = (units text.toList).map (·.getD '/') := by
  have hunits := spelled_plain.replace_twice text.toList
  rw [List.flatMap_singleton' text.toList] at hunits
  rw [toList_replaceAll, toList_replaceAll]
  refine hunits.trans ?_
  rw [List.map_eq_flatMap]
  congr
  funext unit
  cases unit <;> rfl

/-- **Encoded slashes are kept as two replacements keep them**: every character is encoded, and then
    the sign in front of the digits of a slash is encoded no more. -/
theorem encode_eq_replaceAll (text : String) :
    encode text = replaceAll "%252f" "%2F" (replaceAll "%252F" "%2F"
      (String.ofList (text.toList.flatMap encodeChar))) := by
  have hplain : (String.ofList (text.toList.flatMap encodeChar)).toList
      = text.toList.flatMap encodeChar := String.toList_ofList
  apply String.toList_inj.mp
  rw [toList_encode, toList_replaceAll, toList_replaceAll, hplain]
  refine Eq.trans ?_ (spelled_encodeChar.replace_twice text.toList).symm
  rw [encodeChars_eq_flatMap]
  congr
  funext unit
  cases unit <;> rfl

/-- A sign in front of an encoded slash is encoded, and the slash is kept. -/
example : encode "%%2f%252F" = "%25%2F%25252F" := by decide +kernel

end FileRoutes.Url
