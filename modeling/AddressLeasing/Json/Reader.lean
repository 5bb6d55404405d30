import AddressLeasing.Json.Value
import AddressLeasing.Decimal.Binary64
/-!
# Reading JSON text

A reader walks the bytes of a text with an index as its state. A fault is reported at a
position: the line (from 1) and the number of bytes since the last line feed, taken either at
the index (`fail`) or one byte further, where the reader was looking (`failPeek`).

Numbers are classified while they are read: a whole number that fits in 64 bits is
`unsigned`, a negative one down to `-2^63` is `negative`, and anything else becomes a double
as `significand · 10^exponent`, with the exponent clamped to the 32-bit range. A leading zero
may not be followed by a digit, a point must be followed by a digit, and so must an `e`.

Strings may contain any byte from `U+0020` up; escapes are the usual eight plus `\uXXXX`,
where a leading surrogate must be followed by an escaped trailing one.

`skipValue` passes over a value whose content does not matter (an unknown record field). It
checks the syntax but not the nesting depth, and its checks run in its own order, so some
faults are named differently than when the value is read (`[1,]` is "expected value" here,
"trailing comma" there).
-/

set_option autoImplicit false

namespace AddressLeasing.Json

/-- A reader over a text's bytes; the state is the index of the next byte. -/
abbrev Reader := StateT Nat (ReaderT ByteArray (Except Error))

namespace Reader

/-- Line and column of byte index `i`. -/
def positionOf (b : ByteArray) (i : Nat) : Nat × Nat :=
  (b.toList.take i).foldl (fun (lc : Nat × Nat) x => if x == 10 then (lc.1 + 1, 0) else (lc.1, lc.2 + 1))
    (1, 0)

/-- A fault positioned at the current index. -/
def errorHere (f : Fault) : Reader Error := do
  let b ← read
  let i ← get
  pure ⟨f, some (positionOf b i)⟩

/-- A fault positioned one byte past the current index (or at the end). -/
def errorPeek (f : Fault) : Reader Error := do
  let b ← read
  let i ← get
  pure ⟨f, some (positionOf b (min (i + 1) b.size))⟩

def fail {α : Type} (f : Fault) : Reader α := do throw (← errorHere f)

def failPeek {α : Type} (f : Fault) : Reader α := do throw (← errorPeek f)

/-- The byte at the index, if any. -/
def peek? : Reader (Option UInt8) := do
  let b ← read
  let i ← get
  pure (if h : i < b.size then some b[i] else none)

def eat : Reader Unit := modify (· + 1)

/-- The byte at the index, moving past it. -/
def next? : Reader (Option UInt8) := do
  let c ← peek?
  if c.isSome then eat
  pure c

/-- The bytes left to read. -/
def remaining : Reader Nat := do
  let b ← read
  let i ← get
  pure (b.size - i)

def isSpace (c : UInt8) : Bool := c == 0x20 || c == 0x0A || c == 0x09 || c == 0x0D

def isDigit (c : UInt8) : Bool := 0x30 ≤ c && c ≤ 0x39

/-- The first index from `i` that is not white space. -/
def skipSpaces (b : ByteArray) (i : Nat) : Nat :=
  if h : i < b.size then (if isSpace b[i] then skipSpaces b (i + 1) else i) else i
termination_by b.size - i

/-- Skips white space and returns the byte that follows, if any. -/
def ws : Reader (Option UInt8) := do
  let b ← read
  modify (skipSpaces b)
  peek?

/-- The first index from `i` that is not a digit. -/
def skipDigitsFrom (b : ByteArray) (i : Nat) : Nat :=
  if h : i < b.size then (if isDigit b[i] then skipDigitsFrom b (i + 1) else i) else i
termination_by b.size - i

def skipDigits : Reader Unit := do
  let b ← read
  modify (skipDigitsFrom b)

/-- Expects the rest of a literal, one byte at a time. -/
def ident : List UInt8 → Reader Unit
  | [] => pure ()
  | e :: rest => do
    match ← next? with
    | none => fail .eofValue
    | some c => if c != e then fail .expectedIdent else ident rest

/-! ## Strings -/

/-- The value of a hexadecimal digit. -/
def hexValue (c : UInt8) : Option Nat :=
  if 0x30 ≤ c && c ≤ 0x39 then some (c.toNat - 0x30)
  else if 0x61 ≤ c && c ≤ 0x66 then some (c.toNat - 0x61 + 10)
  else if 0x41 ≤ c && c ≤ 0x46 then some (c.toNat - 0x41 + 10)
  else none

/-- Four hexadecimal digits; all four are passed over before they are checked. -/
def hex4 : Reader Nat := do
  let b ← read
  let i ← get
  if i + 4 ≤ b.size then
    set (i + 4)
    match hexValue b[i]!, hexValue b[i+1]!, hexValue b[i+2]!, hexValue b[i+3]! with
    | some a, some c, some d, some e => pure (((a * 16 + c) * 16 + d) * 16 + e)
    | _, _, _, _ => fail .invalidEscape
  else
    set b.size
    fail .eofString

/-- The byte at the index; the end of the text ends the string too early. -/
def peekInString : Reader UInt8 := do
  match ← peek? with
  | some c => pure c
  | none => fail .eofString

/-- The UTF-8 bytes of a code point. -/
def utf8 (n : Nat) : List UInt8 := String.utf8EncodeChar (Char.ofNat n)

/-- The rest of a `\u` escape: one code point, from one escape or a surrogate pair. -/
def unicodeEscape : Reader (List UInt8) := do
  let n ← hex4
  if 0xDC00 ≤ n && n ≤ 0xDFFF then fail .loneLeadingSurrogate
  else if n < 0xD800 || 0xDBFF < n then pure (utf8 n)
  else
    if (← peekInString) == 0x5C then eat else do eat; fail .unexpectedEndOfHexEscape
    if (← peekInString) == 0x75 then eat else do eat; fail .unexpectedEndOfHexEscape
    let n2 ← hex4
    if n2 < 0xDC00 || 0xDFFF < n2 then fail .loneLeadingSurrogate
    else pure (utf8 ((n - 0xD800) * 1024 + (n2 - 0xDC00) + 0x10000))

/-- The rest of an escape after its backslash. -/
def escape : Reader (List UInt8) := do
  match ← next? with
  | none => fail .eofString
  | some c =>
    if c == 0x22 then pure [0x22]
    else if c == 0x5C then pure [0x5C]
    else if c == 0x2F then pure [0x2F]
    else if c == 0x62 then pure [0x08]
    else if c == 0x66 then pure [0x0C]
    else if c == 0x6E then pure [0x0A]
    else if c == 0x72 then pure [0x0D]
    else if c == 0x74 then pure [0x09]
    else if c == 0x75 then unicodeEscape
    else fail .invalidEscape

/-- The bytes of a string up to its closing quote. -/
def stringBytes (fuel : Nat) (acc : Array UInt8) : Reader (Array UInt8) :=
  match fuel with
  | 0 => fail .eofString
  | fuel + 1 => do
    match ← peek? with
    | none => fail .eofString
    | some c =>
      if c == 0x22 then do eat; pure acc
      else if c == 0x5C then do
        eat
        let bs ← escape
        stringBytes fuel (acc ++ bs.toArray)
      else if c < 0x20 then do eat; fail .controlCharacter
      else do eat; stringBytes fuel (acc.push c)

/-- A string after its opening quote. -/
def string : Reader String := do
  let bytes ← stringBytes ((← remaining) + 1) #[]
  pure ((String.fromUTF8? ⟨bytes⟩).getD "")

/-- Passes over an escape after its backslash. -/
def skipEscape : Reader Unit := do
  match ← next? with
  | none => fail .eofString
  | some c =>
    if [0x22, 0x5C, 0x2F, 0x62, 0x66, 0x6E, 0x72, 0x74].contains c then pure ()
    else if c == 0x75 then do let _ ← hex4
    else fail .invalidEscape

/-- Passes over a string after its opening quote. A control character is reported where it
stands. -/
def skipString (fuel : Nat) : Reader Unit :=
  match fuel with
  | 0 => fail .eofString
  | fuel + 1 => do
    match ← peek? with
    | none => fail .eofString
    | some c =>
      if c == 0x22 then eat
      else if c == 0x5C then do eat; skipEscape; skipString fuel
      else if c < 0x20 then fail .controlCharacter
      else do eat; skipString fuel

/-! ## Numbers -/

def u64Max : Nat := Nat.pow 2 64 - 1

/-- Clamps to the 32-bit signed range. -/
def clamp32 (n : Int) : Int := max (-Nat.pow 2 31) (min (Nat.pow 2 31 - 1) n)

/-- `±significand · 10^exponent` as a double, or out of range. -/
def fromParts (positive : Bool) (significand : Nat) (exponent : Int) : Reader Float :=
  match Binary64.ofDecimal significand exponent with
  | none => fail .numberOutOfRange
  | some f => pure (if positive then f else -f)

/-- The exponent after `e`, then the double. -/
def exponentPart (fuel : Nat) (positive : Bool) (significand : Nat) (start : Int) : Reader Float := do
  eat
  let up ← match ← peek? with
    | some 0x2B => do eat; pure true
    | some 0x2D => do eat; pure false
    | _ => pure true
  let first ← match ← next? with
    | none => fail .eofValue
    | some c => if isDigit c then pure (c.toNat - 0x30) else fail .invalidNumber
  let rec digits : Nat → Nat → Reader (Option Nat)
    | 0, e => pure (some e)
    | fuel + 1, e => do
      match ← peek? with
      | some c =>
        if isDigit c then do
          eat
          let e' := e * 10 + (c.toNat - 0x30)
          if Nat.pow 2 31 - 1 < e' then pure none else digits fuel e'
        else pure (some e)
      | none => pure (some e)
  match ← digits fuel first with
  | some e => fromParts positive significand (clamp32 (if up then start + e else start - e))
  | none =>
    -- the exponent does not fit: infinity is refused, zero is accepted
    if significand != 0 && up then fail .numberOutOfRange
    else do skipDigits; pure (if positive then 0.0 else -0.0)

/-- The fraction after `.`, then the exponent if any, then the double. -/
def fractionPart (fuel : Nat) (positive : Bool) (significand : Nat) (before : Int) : Reader Float := do
  eat
  let rec digits : Nat → Nat → Int → Reader (Nat × Int × Bool)
    | 0, s, e => pure (s, e, false)
    | fuel + 1, s, e => do
      match ← peek? with
      | some c =>
        if isDigit c then
          let s' := s * 10 + (c.toNat - 0x30)
          if u64Max < s' then pure (s, e, true)
          else do eat; digits fuel s' (e - 1)
        else pure (s, e, false)
      | none => pure (s, e, false)
  let (s, after, overflow) ← digits fuel significand 0
  if overflow then do
    -- further digits are dropped
    skipDigits
    match ← peek? with
    | some 0x65 | some 0x45 => exponentPart fuel positive s (before + after)
    | _ => fromParts positive s (before + after)
  else if after == 0 then
    match ← peek? with
    | some _ => failPeek .invalidNumber
    | none => failPeek .eofValue
  else
    match ← peek? with
    | some 0x65 | some 0x45 => exponentPart fuel positive s (before + after)
    | _ => fromParts positive s (before + after)

/-- What follows the whole part of a number. -/
def afterWhole (fuel : Nat) (positive : Bool) (significand : Nat) : Reader Number := do
  match ← peek? with
  | some 0x2E => .float <$> fractionPart fuel positive significand 0
  | some 0x65 | some 0x45 => .float <$> exponentPart fuel positive significand 0
  | _ =>
    if positive then pure (.unsigned significand)
    else if 1 ≤ significand && significand ≤ Nat.pow 2 63 then pure (.negative (-(significand : Int)))
    else pure (.float (-(Binary64.ofNat significand)))

/-- A whole part too long for 64 bits: its further digits only scale it. -/
def longWhole (fuel : Nat) (positive : Bool) (significand : Nat) : Reader Float := do
  let rec go : Nat → Int → Reader Float
    | 0, e => fromParts positive significand e
    | fuel + 1, e => do
      match ← peek? with
      | some c =>
        if isDigit c then do eat; go fuel (e + 1)
        else if c == 0x2E then fractionPart fuel positive significand e
        else if c == 0x65 || c == 0x45 then exponentPart fuel positive significand e
        else fromParts positive significand e
      | none => fromParts positive significand e
  go fuel 0

/-- A number after its sign. -/
def number (positive : Bool) : Reader Number := do
  let fuel := (← remaining) + 1
  match ← next? with
  | none => fail .eofValue
  | some c =>
    if c == 0x30 then
      match ← peek? with
      | some d => if isDigit d then failPeek .invalidNumber else afterWhole fuel positive 0
      | none => afterWhole fuel positive 0
    else if isDigit c then
      let rec whole : Nat → Nat → Reader Number
        | 0, s => afterWhole fuel positive s
        | n + 1, s => do
          match ← peek? with
          | some d =>
            if isDigit d then
              let s' := s * 10 + (d.toNat - 0x30)
              if u64Max < s' then .float <$> longWhole fuel positive s
              else do eat; whole n s'
            else afterWhole fuel positive s
          | none => afterWhole fuel positive s
      whole fuel (c.toNat - 0x30)
    else fail .invalidNumber

/-- Passes over an exponent after `e`. -/
def skipExponent : Reader Unit := do
  eat
  match ← peek? with
  | some 0x2B | some 0x2D => eat
  | _ => pure ()
  match ← next? with
  | some c => if isDigit c then skipDigits else fail .invalidNumber
  | none => fail .invalidNumber

/-- Passes over a number after its sign. -/
def skipNumber : Reader Unit := do
  match ← next? with
  | some 0x30 =>
    match ← peek? with
    | some d => if isDigit d then failPeek .invalidNumber else pure ()
    | none => pure ()
  | some c => if isDigit c && c != 0x30 then skipDigits else fail .invalidNumber
  | none => fail .invalidNumber
  match ← peek? with
  | some 0x2E => do
    eat
    match ← peek? with
    | some d => if isDigit d then skipDigits else failPeek .invalidNumber
    | none => failPeek .invalidNumber
    match ← peek? with
    | some 0x65 | some 0x45 => skipExponent
    | _ => pure ()
  | some 0x65 | some 0x45 => skipExponent
  | _ => pure ()

/-! ## Values -/

/-! Passing over values: `skipValue` reads one value; `closeOrNext` is inside the innermost
open container `frame` (with `outer` around it) and reads a separator, a closing bracket or,
right after the opening one, the first member. -/
mutual
def skipValue (fuel : Nat) (outer : List UInt8) : Reader Unit :=
  match fuel with
  | 0 => fail .eofValue
  | fuel + 1 => do
    match ← ws with
    | none => failPeek .eofValue
    | some c =>
      if c == 0x5B || c == 0x7B then do eat; closeOrNext fuel false c outer
      else do
        if c == 0x6E then do eat; ident [0x75, 0x6C, 0x6C]
        else if c == 0x74 then do eat; ident [0x72, 0x75, 0x65]
        else if c == 0x66 then do eat; ident [0x61, 0x6C, 0x73, 0x65]
        else if c == 0x2D then do eat; skipNumber
        else if isDigit c then skipNumber
        else if c == 0x22 then do eat; skipString ((← remaining) + 1)
        else failPeek .expectedValue
        match outer with
        | [] => pure ()
        | frame :: rest => closeOrNext fuel true frame rest

def closeOrNext (fuel : Nat) (afterMember : Bool) (frame : UInt8) (outer : List UInt8) :
    Reader Unit :=
  match fuel with
  | 0 => fail .eofValue
  | fuel + 1 => do
    let isList := frame == 0x5B
    match ← ws with
    | none => failPeek (if isList then .eofList else .eofObject)
    | some c =>
      if c == 0x2C && afterMember then do
        eat
        nextMember fuel frame outer
      else if (c == 0x5D && isList) || (c == 0x7D && !isList) then do
        eat
        match outer with
        | [] => pure ()
        | f :: rest => closeOrNext fuel true f rest
      else if afterMember then
        failPeek (if isList then .expectedListCommaOrEnd else .expectedObjectCommaOrEnd)
      else nextMember fuel frame outer

def nextMember (fuel : Nat) (frame : UInt8) (outer : List UInt8) : Reader Unit :=
  match fuel with
  | 0 => fail .eofValue
  | fuel + 1 => do
    if frame == 0x7B then
      match ← ws with
      | some 0x22 => do eat; skipString ((← remaining) + 1)
      | some _ => failPeek .keyMustBeString
      | none => failPeek .eofObject
      match ← ws with
      | some 0x3A => eat
      | some _ => failPeek .expectedColon
      | none => failPeek .eofObject
    skipValue fuel (frame :: outer)
end

/-- Passes over one value. -/
def skip : Reader Unit := do skipValue (3 * (← remaining) + 3) []

/-- Reads the colon after an object key. -/
def colon : Reader Unit := do
  match ← ws with
  | some 0x3A => eat
  | some _ => failPeek .expectedColon
  | none => failPeek .eofObject

/-- The end of a list whose members were all read, as a result: a fault here does not stop
the reader, which has already moved past any white space. -/
def endList : Reader (Except Error Unit) := do
  match ← ws with
  | some 0x5D => do eat; pure (.ok ())
  | some 0x2C => do
    eat
    match ← ws with
    | some 0x5D => .error <$> errorPeek .trailingComma
    | _ => .error <$> errorPeek .trailingCharacters
  | some _ => .error <$> errorPeek .trailingCharacters
  | none => .error <$> errorPeek .eofList

/-- The end of an object whose members were all read, as a result. -/
def endObject : Reader (Except Error Unit) := do
  match ← ws with
  | some 0x7D => do eat; pure (.ok ())
  | some 0x2C => .error <$> errorPeek .trailingComma
  | some _ => .error <$> errorPeek .trailingCharacters
  | none => .error <$> errorPeek .eofObject

/-- Before a list member: `true` when one follows, `false` at the closing bracket. The
first member needs no comma; every later one needs exactly one. -/
def listMember (first : Bool) : Reader Bool := do
  match ← ws with
  | some 0x5D => pure false
  | some 0x2C =>
    if first then pure true
    else do
      eat
      match ← ws with
      | some 0x5D => failPeek .trailingComma
      | some _ => pure true
      | none => failPeek .eofValue
  | some _ => if first then pure true else failPeek .expectedListCommaOrEnd
  | none => failPeek .eofList

/-- Before an object member: its key, or `none` at the closing brace. -/
def objectKey (first : Bool) : Reader (Option String) := do
  let key : Reader (Option String) := do
    match ← ws with
    | some 0x22 => do eat; some <$> string
    | some 0x7D => failPeek .trailingComma
    | some _ => failPeek .keyMustBeString
    | none => failPeek .eofValue
  match ← ws with
  | some 0x7D => pure none
  | some 0x2C => if first then failPeek .keyMustBeString else do eat; key
  | some _ => if first then key else failPeek .expectedObjectCommaOrEnd
  | none => failPeek .eofObject

/-- The most containers open at once. -/
def depthLimit : Nat := 128

/-! Reading a document value, `depth` containers deep. -/
mutual
def value (fuel depth : Nat) : Reader Value :=
  match fuel with
  | 0 => fail .eofValue
  | fuel + 1 => do
    match ← ws with
    | none => failPeek .eofValue
    | some c =>
      if c == 0x6E then do eat; ident [0x75, 0x6C, 0x6C]; pure .null
      else if c == 0x74 then do eat; ident [0x72, 0x75, 0x65]; pure (.bool true)
      else if c == 0x66 then do eat; ident [0x61, 0x6C, 0x73, 0x65]; pure (.bool false)
      else if c == 0x2D then do eat; .number <$> number false
      else if isDigit c then .number <$> number true
      else if c == 0x22 then do eat; .string <$> string
      else if c == 0x5B then do
        if depthLimit ≤ depth + 1 then failPeek .recursionLimit
        eat
        let items ← listItems fuel (depth + 1) true
        match ← endList with
        | .ok () => pure (.array items)
        | .error e => throw e
      else if c == 0x7B then do
        if depthLimit ≤ depth + 1 then failPeek .recursionLimit
        eat
        let members ← objectMembers fuel (depth + 1) true
        match ← endObject with
        | .ok () => pure (.object members)
        | .error e => throw e
      else failPeek .expectedValue

def listItems (fuel depth : Nat) (first : Bool) : Reader (List Value) :=
  match fuel with
  | 0 => fail .eofList
  | fuel + 1 => do
    if ← listMember first then
      let v ← value fuel depth
      let rest ← listItems fuel depth false
      pure (v :: rest)
    else pure []

def objectMembers (fuel depth : Nat) (first : Bool) : Reader (List (String × Value)) :=
  match fuel with
  | 0 => fail .eofObject
  | fuel + 1 => do
    match ← objectKey first with
    | none => pure []
    | some k =>
      colon
      let v ← value fuel depth
      let rest ← objectMembers fuel depth false
      pure ((k, v) :: rest)
end

/-- Runs a reader over a whole text: after it, only white space may follow. -/
def run {α : Type} (r : Reader α) (text : String) : Except Error α :=
  let go : Reader α := do
    let a ← r
    match ← ws with
    | some _ => failPeek .trailingCharacters
    | none => pure a
  (go.run' 0).run text.toUTF8

end Reader

/-- Reads a whole text as one document value. -/
def parse (text : String) : Except Error Value :=
  Reader.run (do Reader.value (2 * (← Reader.remaining) + 2) 0) text

end AddressLeasing.Json
