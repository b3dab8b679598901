/-! # Sets of code points

A set is kept as the ascending list of the code points at which membership changes, so that a
code point belongs to the set when an odd number of changes lie at or before it. -/

namespace MacDispatch.Text

/-- A set of code points, given by the places at which membership changes. -/
structure CodeSet where
  changes : List Nat

namespace CodeSet

def contains (set : CodeSet) (c : Char) : Bool :=
  (set.changes.takeWhile (· ≤ c.toNat)).length % 2 == 1

end CodeSet

/-- The characters that only set others apart: blanks, tabs and line breaks of every kind. -/
def whitespace : CodeSet where
  changes := [
    0x9, 0xe, 0x20, 0x21, 0x85, 0x86, 0xa0, 0xa1, 0x1680, 0x1681, 0x2000, 0x200b, 0x2028, 0x202a,
    0x202f, 0x2030, 0x205f, 0x2060, 0x3000, 0x3001]

end MacDispatch.Text
