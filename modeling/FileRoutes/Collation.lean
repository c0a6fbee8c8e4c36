import FileRoutes.Unicode.Blank
import FileRoutes.Unicode.Alphanumeric
import FileRoutes.Unicode.LetterCase

namespace FileRoutes.Collation

/-!
# Collation — the order of file paths

File lists are sorted in an order close to that of an English dictionary, which does not
depend on the machine:

* `primaryWeight` — blanks before punctuation before digits before letters, where a letter
  weighs as much as its lowercase form;
* `tertiaryWeight` — lowercase before uppercase;
* `compare` — by the primary weights, then by the tertiary weights, then by the code points.
-/

/-- The classes of characters. -/
inductive CharClass where
  | blank
  | punctuation
  | digit
  | letter
deriving Repr, DecidableEq

/-- The least weight of a class. The classes lie further apart than any rank within one, so
    that two characters of different classes compare by their classes alone. -/
def CharClass.base : CharClass → Nat
  | .blank => 0x000000
  | .punctuation => 0x200000
  | .digit => 0x400000
  | .letter => 0x600000

/-- ASCII punctuation in sorting order. -/
def punctuationOrder : List Char := "_-,;:!?.'\"()[]\x7b\x7d@*/\\&#%`^+<=>|~$".toList

/-- The class of a character and its rank within the class. Letters beyond ASCII come after
    the ASCII alphabet, other characters beyond ASCII after the ASCII punctuation. -/
def classify (c : Char) : CharClass × Nat :=
  if Unicode.isBlank c then (.blank, c.toNat)
  else if c.isDigit then (.digit, c.toNat)
  else if c.isAlpha then (.letter, c.toLower.toNat)
  else
    -- ASCII is settled by the first three lines and this table.
    match punctuationOrder.findIdx? (· == c) with
    | some rank => (.punctuation, rank)
    | none =>
      if Unicode.isAlphanumeric c then (.letter, 0x100 + Unicode.lowercaseCode c)
      else (.punctuation, punctuationOrder.length + c.toNat)

/-- The weight that decides first. -/
def primaryWeight (c : Char) : Nat := (classify c).1.base + (classify c).2

/-- The weight that decides between texts of equal primary weights. -/
def tertiaryWeight (c : Char) : Nat := if Unicode.isUppercase c then 1 else 0

/-- The weights of a text's characters, in order. -/
def weights (weight : Char → Nat) (text : String) : List Nat := text.toList.map weight

/-- Compares two paths: by their primary weights, then by their tertiary weights, then by
    their code points. -/
def compare (a b : String) : Ordering :=
  (Ord.compare (weights primaryWeight a) (weights primaryWeight b)).then <|
    (Ord.compare (weights tertiaryWeight a) (weights tertiaryWeight b)).then <|
      Ord.compare a b

end FileRoutes.Collation
