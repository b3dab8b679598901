/-! # Frames

A frame is its bytes: a length byte of which seven bits count, then the frame control field. -/

namespace MacDispatch

structure Frame where
  bytes : List UInt8
deriving DecidableEq, Repr

namespace Frame

/-- The length announced by the first byte; its highest bit is reserved. -/
def psduLength? (frame : Frame) : Option UInt8 :=
  frame.bytes[0]?.map (· &&& 0x7f)

/-- Whether the second byte asks for an acknowledgement. -/
def ackRequested (frame : Frame) : Bool :=
  match frame.bytes[1]? with
  | some control => control &&& 0x20 != 0
  | none => false

end Frame

end MacDispatch
