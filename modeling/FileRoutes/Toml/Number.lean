import FileRoutes.Toml.Value

namespace FileRoutes.Toml

/-!
# TOML — numbers

* `integer?` — an integer of 64 bits, in decimal with a sign or in hexadecimal, octal or
  binary;
* `float?` — a number with a fraction or an exponent, an infinity, or no number. One that is
  too large is refused.

An underscore may stand between two digits.
-/

/-- The digits of a text in which single underscores may stand between digits. -/
def digits? (isDigit : Char → Bool) : List Char → Option (List Char)
  | [] => none
  | [c] => if isDigit c then some [c] else none
  -- What follows an underscore has to be a digit again, so it cannot end the text.
  | c :: '_' :: rest => if isDigit c then (digits? isDigit rest).map (c :: ·) else none
  | c :: rest => if isDigit c then (digits? isDigit rest).map (c :: ·) else none

/-- The value of a hexadecimal digit; octal and binary digits have the same values. -/
def digitValue (c : Char) : Nat :=
  if c.isDigit then c.toNat - 0x30 else c.toUpper.toNat - 0x37

/-- The number with the given digits in a base. -/
def ofDigits (base : Nat) (digits : List Char) : Nat :=
  digits.foldl (fun n c => base * n + digitValue c) 0

/-- Whether a character is a hexadecimal digit of either case. -/
def isHexDigit (c : Char) : Bool :=
  c.isDigit || ('a' ≤ c && c ≤ 'f') || ('A' ≤ c && c ≤ 'F')

/-- The digits of a decimal number, which starts with a zero only if that is all. -/
def decimal? (text : List Char) : Option (List Char) :=
  match digits? Char.isDigit text with
  | some ('0' :: _ :: _) => none
  | digits => digits

/-- Whether a text starts with a minus, and the text without its sign. -/
def sign : List Char → Bool × List Char
  | '-' :: rest => (true, rest)
  | '+' :: rest => (false, rest)
  | text => (false, text)

/-- A number that fits into 64 bits with a sign. -/
def bounded? (n : Int) : Option Int :=
  if -0x8000000000000000 ≤ n ∧ n ≤ 0x7FFFFFFFFFFFFFFF then some n else none

/-- The integer that a text writes. -/
def integer? (text : List Char) : Option Int :=
  match text with
  | '0' :: 'x' :: rest => (digits? isHexDigit rest).bind fun ds => bounded? (ofDigits 16 ds)
  | '0' :: 'o' :: rest =>
    (digits? (fun c => '0' ≤ c && c ≤ '7') rest).bind fun ds => bounded? (ofDigits 8 ds)
  | '0' :: 'b' :: rest =>
    (digits? (fun c => c == '0' || c == '1') rest).bind fun ds => bounded? (ofDigits 2 ds)
  | _ =>
    let (negative, magnitude) := sign text
    (decimal? magnitude).bind fun ds =>
      bounded? (if negative then -(ofDigits 10 ds : Int) else ofDigits 10 ds)

/-! ### Floats -/

/-- The exponent in a text that is empty or writes one after an `e`. -/
def exponent? : List Char → Option Int
  | [] => some 0
  | e :: rest =>
    if e = 'e' || e = 'E' then
      let (negative, magnitude) := sign rest
      (digits? Char.isDigit magnitude).map fun ds =>
        if negative then -(ofDigits 10 ds : Int) else ofDigits 10 ds
    else none

/-- Whether `digits · 10 ^ exponent` is rounded to infinity: the least such number lies half a
    unit above the largest float. A number of far fewer or more digits needs no power. -/
def overflows (digits : List Char) (exponent : Int) : Bool :=
  -- Leading zeros say nothing about the size of the number.
  let significant := digits.dropWhile (· == '0')
  let magnitude : Int := significant.length + exponent
  let limit := Nat.pow 2 1024 - Nat.pow 2 970
  if significant.isEmpty || magnitude < 300 then false
  else if magnitude > 320 then true
  else if 0 ≤ exponent then limit ≤ ofDigits 10 significant * Nat.pow 10 exponent.toNat
  else limit * Nat.pow 10 (-exponent).toNat ≤ ofDigits 10 significant

/-- Whether a text without its sign writes a finite float or, below zero, any float. -/
def isFloat (negative : Bool) (text : List Char) : Bool :=
  let whole := text.takeWhile fun c => c.isDigit || c == '_'
  let rest := text.dropWhile fun c => c.isDigit || c == '_'
  let fraction := rest.drop 1 |>.takeWhile fun c => c.isDigit || c == '_'
  let parts : Option (List Char × Int) :=
    match rest with
    | [] => none
    | '.' :: rest => do
      let places ← digits? Char.isDigit fraction
      let exponent ← exponent? (rest.drop fraction.length)
      return (places, exponent - places.length)
    | _ => do return ([], ← exponent? rest)
  match decimal? whole, parts with
  | some digits, some (places, exponent) => negative || !overflows (digits ++ places) exponent
  | _, _ => false

/-- The float that a text writes. -/
def float? (text : List Char) : Option String :=
  let (negative, magnitude) := sign text
  if magnitude = ['i', 'n', 'f'] || magnitude = ['n', 'a', 'n'] || isFloat negative magnitude then
    some (String.ofList text)
  else none

end FileRoutes.Toml
