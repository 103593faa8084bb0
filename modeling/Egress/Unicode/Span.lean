/-!
# Spans of character codes

A class of characters is given by the spans that their codes form, in ascending order.
-/

namespace Egress.Unicode

/-- The codes from `first` to `last`. -/
structure Span where
  first : Nat
  last : Nat

/-- Whether a code lies in one of some spans.  Spans ascend, so the first one that begins behind the
code ends the search. -/
def inSpans : List Span → Nat → Bool
  | [], _ => false
  | span :: others, code =>
    if code < span.first then false else code ≤ span.last || inSpans others code

end Egress.Unicode
