namespace FileRoutes.Unicode

/-!
# Unicode — sets of code points as spans

A character property is stored as a list of spans. A span with a stride of two
covers a stretch where capital and small letters alternate:

* `Span` — the code points `first`, `first + stride`, … up to `last`;
* `Span.covers` — whether a code point is one of them;
* `covered` — whether a character lies in one of a list of spans.
-/

/-- The code points from `first` to `last` in steps of `stride`. -/
structure Span where
  first : Nat
  last : Nat
  stride : Nat
deriving Repr, DecidableEq

/-- Whether `code` is one of the span's code points. -/
def Span.covers (span : Span) (code : Nat) : Bool :=
  span.first ≤ code && code ≤ span.last && (code - span.first) % span.stride == 0

/-- Whether some span of the list covers the character. -/
def covered (spans : List Span) (c : Char) : Bool :=
  spans.any (·.covers c.toNat)

/-- Unfolding lemma: a single span of stride one is a closed interval. -/
@[simp] theorem Span.covers_stride_one (first last code : Nat) :
    (Span.mk first last 1).covers code = (decide (first ≤ code) && decide (code ≤ last)) := by
  simp [Span.covers, Nat.mod_one]

end FileRoutes.Unicode
