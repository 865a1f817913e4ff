/-!
# Ranges of code points

A property of characters is written down as the closed ranges of code points that have it, in
increasing order, so that a search may stop at the first range that lies beyond the code point.
-/
namespace CustomScalars.Text

structure CodeRange where
  first : Nat
  last : Nat

namespace CodeRange

def covers : List CodeRange → Nat → Bool
  | [], _ => false
  | range :: rest, code =>
    if code < range.first then false else code ≤ range.last || covers rest code

end CodeRange

end CustomScalars.Text
