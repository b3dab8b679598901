/-! # Integers of fixed width

The ranges of integers that are held in 64 or in 32 bits. -/

namespace MacDispatch

def leastInteger : Int := -9223372036854775808

def greatestInteger : Int := 9223372036854775807

def greatestUnsigned : Nat := 18446744073709551615

def greatestWord : Nat := 4294967295

def fitsInteger (n : Int) : Bool := leastInteger ≤ n && n ≤ greatestInteger

end MacDispatch
