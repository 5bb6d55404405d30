/-!
# Big-endian words

Every multi-byte scalar of a message travels with its most significant byte first: the
transaction id and the lease time as four bytes, `secs`, `flags` and the largest message
size as two. This module writes and reads those words over plain byte lists.

The readers take the first bytes of a list and ignore the rest, so that the envelope decoder
can read a field at its offset by dropping the bytes before it.
-/

set_option autoImplicit false

namespace AddressLeasing.Word

/-- A 16-bit word, most significant byte first. -/
def be16 (w : UInt16) : List UInt8 :=
  [(w >>> 8).toUInt8, w.toUInt8]

/-- A 32-bit word, most significant byte first. -/
def be32 (w : UInt32) : List UInt8 :=
  [(w >>> 24).toUInt8, (w >>> 16).toUInt8, (w >>> 8).toUInt8, w.toUInt8]

/-- The 16-bit word at the front of a list; missing bytes read as zero. -/
def read16 (bytes : List UInt8) : UInt16 :=
  match bytes ++ [0, 0] with
  | a :: b :: _ => (a.toUInt16 <<< 8) ||| b.toUInt16
  | _ => 0

/-- The 32-bit word at the front of a list; missing bytes read as zero. -/
def read32 (bytes : List UInt8) : UInt32 :=
  match bytes ++ [0, 0, 0, 0] with
  | a :: b :: c :: d :: _ =>
    (a.toUInt32 <<< 24) ||| (b.toUInt32 <<< 16) ||| (c.toUInt32 <<< 8) ||| d.toUInt32
  | _ => 0

@[simp] theorem length_be16 (w : UInt16) : (be16 w).length = 2 := rfl

@[simp] theorem length_be32 (w : UInt32) : (be32 w).length = 4 := rfl

end AddressLeasing.Word
