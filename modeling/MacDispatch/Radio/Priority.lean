/-! # Priorities

A priority granted by the radio scheduler; zero is idle, and a greater number weighs more. -/

namespace MacDispatch

structure Priority where
  val : UInt32
deriving DecidableEq, Repr

namespace Priority

/-- The priority while nothing is granted. -/
def idle : Priority := ⟨0⟩

instance : Ord Priority where
  compare a b := compare a.val b.val

def max (a b : Priority) : Priority := if a.val ≤ b.val then b else a

def text (p : Priority) : String := toString p.val.toNat

end Priority

end MacDispatch
