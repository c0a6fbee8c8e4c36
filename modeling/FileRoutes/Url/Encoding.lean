namespace FileRoutes.Url

/-!
# URLs — percent-encoding of literal path text

* `isReserved` — the characters that have to be written as bytes: controls, everything
  beyond ASCII, and what a URL or a route pattern would read as structure;
* `escapeByte` — a byte as `%` and two uppercase hexadecimal digits;
* `encode` — a text with its reserved characters written as their UTF-8 bytes.

A slash that is already written as `%2F` stays one, so that it is not encoded twice.
-/

/-- Whether a character of a path text is written as its bytes. -/
def isReserved (c : Char) : Bool :=
  c.val < 0x20 || 0x7F ≤ c.val || " \"%<>[\\]^`\x7b\x7d#?&+".toList.contains c

/-- The uppercase hexadecimal digit of a number below sixteen. -/
def hexDigit (n : Nat) : Char :=
  if n < 10 then Char.ofNat (0x30 + n) else Char.ofNat (0x37 + n)

/-- A byte as `%` and two hexadecimal digits. -/
def escapeByte (byte : UInt8) : List Char :=
  ['%', hexDigit (byte.toNat / 16), hexDigit (byte.toNat % 16)]

/-- A character as it stands in an encoded path: itself, or its escaped UTF-8 bytes. -/
def encodeChar (c : Char) : List Char :=
  if isReserved c then (String.utf8EncodeChar c).flatMap escapeByte else [c]

/-- Encodes the characters of a path text, keeping an encoded slash as `%2F`. -/
def encodeChars : List Char → List Char
  | [] => []
  | '%' :: '2' :: 'F' :: rest => '%' :: '2' :: 'F' :: encodeChars rest
  | '%' :: '2' :: 'f' :: rest => '%' :: '2' :: 'F' :: encodeChars rest
  | c :: rest => encodeChar c ++ encodeChars rest

/-- Percent-encodes a literal path text. -/
def encode (text : String) : String := String.ofList (encodeChars text.toList)

/-- Unfolding lemma: a text is encoded character by character. -/
@[simp] theorem toList_encode (text : String) :
    (encode text).toList = encodeChars text.toList := by
  simp [encode]

end FileRoutes.Url
