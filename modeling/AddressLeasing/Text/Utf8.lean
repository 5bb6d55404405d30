/-!
# Where UTF-8 goes wrong

Text fields of a message must be well-formed UTF-8. Whether a byte string is well formed is
decided by core's `String.fromUTF8?`; this module says *where* and *how* a malformed string
fails, for the error report.

The scan walks the bytes one character at a time. A lead byte fixes the width of the
character: `00`–`7F` one byte, `C2`–`DF` two, `E0`–`EF` three, `F0`–`F4` four; any other lead
byte is an invalid sequence of one byte. The second byte of a three- or four-byte character
has a narrower range when it would otherwise allow an overlong form, a surrogate or a code
point above `10FFFF`: after `E0` it is `A0`–`BF`, after `ED` `80`–`9F`, after `F0` `90`–`BF`,
after `F4` `80`–`8F`; every other continuation byte is `80`–`BF`. The report gives the index
where the bad character starts and, when the input did not simply end too early, how many of
its bytes were read before it went wrong.
-/

set_option autoImplicit false

namespace AddressLeasing

/-- The first malformed character of a byte string: it starts at `validUpTo`; `errorLength`
is the number of bytes that cannot start a valid character there, or `none` when the input
ends in the middle of a character. -/
structure Utf8Error where
  validUpTo : Nat
  errorLength : Option Nat
  deriving DecidableEq, Inhabited

namespace Utf8Error

/-- The report of a malformed character. -/
def message (e : Utf8Error) : String :=
  match e.errorLength with
  | some n => s!"invalid utf-8 sequence of {n} bytes from index {e.validUpTo}"
  | none => s!"incomplete utf-8 byte sequence from index {e.validUpTo}"

end Utf8Error

namespace Utf8

/-- Bytes `80`–`BF`, which continue a character. -/
def isContinuation (b : UInt8) : Bool := 0x80 ≤ b && b ≤ 0xBF

/-- The number of bytes of a character with this lead byte, `0` if none can start with it. -/
def width (b : UInt8) : Nat :=
  if b < 0x80 then 1
  else if b < 0xC2 then 0
  else if b < 0xE0 then 2
  else if b < 0xF0 then 3
  else if b < 0xF5 then 4
  else 0

/-- The allowed second byte of a three-byte character with lead byte `lead`. -/
def secondOfThree (lead b : UInt8) : Bool :=
  if lead == 0xE0 then 0xA0 ≤ b && b ≤ 0xBF
  else if lead == 0xED then 0x80 ≤ b && b ≤ 0x9F
  else isContinuation b

/-- The allowed second byte of a four-byte character with lead byte `lead`. -/
def secondOfFour (lead b : UInt8) : Bool :=
  if lead == 0xF0 then 0x90 ≤ b && b ≤ 0xBF
  else if lead == 0xF4 then 0x80 ≤ b && b ≤ 0x8F
  else isContinuation b

/-- The first malformed character of `bytes`, whose first byte has index `start`. -/
def firstError (start : Nat) : List UInt8 → Option Utf8Error
  | [] => none
  | lead :: rest =>
    let bad (n : Nat) : Option Utf8Error := some ⟨start, some n⟩
    let cut : Option Utf8Error := some ⟨start, none⟩
    let w := width lead
    if w == 1 then firstError (start + 1) rest
    else if w == 2 then
      match rest with
      | [] => cut
      | b :: rest => if isContinuation b then firstError (start + 2) rest else bad 1
    else if w == 3 then
      match rest with
      | [] => cut
      | b :: rest =>
        if !secondOfThree lead b then bad 1 else
        match rest with
        | [] => cut
        | c :: rest => if isContinuation c then firstError (start + 3) rest else bad 2
    else if w == 4 then
      match rest with
      | [] => cut
      | b :: rest =>
        if !secondOfFour lead b then bad 1 else
        match rest with
        | [] => cut
        | c :: rest =>
          if !isContinuation c then bad 2 else
          match rest with
          | [] => cut
          | d :: rest => if isContinuation d then firstError (start + 4) rest else bad 3
    else bad 1

/-- Reads well-formed UTF-8 text, or reports its first malformed character. -/
def decode (bytes : List UInt8) : Except Utf8Error String :=
  match String.fromUTF8? bytes.toByteArray with
  | some s => .ok s
  | none => .error ((firstError 0 bytes).getD ⟨bytes.length, none⟩)

end Utf8

end AddressLeasing
