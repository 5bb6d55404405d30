import AddressLeasing.Wire.LeaseOption
/-!
# Option lists and the options region

An option list holds at most one option per code, in the order the codes were first added.
Adding an option whose code is present replaces that entry where it stands; any other option
goes to the end.

On the wire the options fill a region of exactly 336 bytes: the options back to back, then
zeros. Reading a region skips zero bytes as padding and reads code, length and content for
everything else until the region ends. A code that is the region's last byte has no length
byte: that is accepted only for the end marker, which then stands for an empty end marker. A
repeated code keeps its first occurrence.
-/

set_option autoImplicit false

namespace AddressLeasing

/-- Options in wire order, at most one per code. -/
structure OptionList where
  entries : List LeaseOption
  deriving DecidableEq, Inhabited

namespace OptionList

/-- Size of the options region of a message. -/
def regionSize : Nat := 336

def empty : OptionList := ⟨[]⟩

/-- The option with this code. -/
def get? (l : OptionList) (code : UInt8) : Option LeaseOption :=
  l.entries.find? (·.code == code)

def contains (l : OptionList) (code : UInt8) : Bool :=
  l.entries.any (·.code == code)

/-- The option with this code, or `optionNotFound`. -/
def require (l : OptionList) (code : UInt8) : Except Error LeaseOption :=
  match l.get? code with
  | some o => .ok o
  | none => .error (.optionNotFound code)

/-- Replaces the entry with `o`'s code in place, or appends `o`. -/
def insert (l : OptionList) (o : LeaseOption) : OptionList :=
  if l.contains o.code then ⟨l.entries.map fun e => if e.code == o.code then o else e⟩
  else ⟨l.entries ++ [o]⟩

/-- `insert`, also handing back the entry it replaced: the one with `o`'s code, `none` when `o`
was appended. -/
def insertReplacing (l : OptionList) (o : LeaseOption) : Option LeaseOption × OptionList :=
  (l.get? o.code, l.insert o)

/-- Inserts each option in turn. -/
def ofList (os : List LeaseOption) : OptionList :=
  os.foldl insert empty

/-- Removes the entry with this code. -/
def erase (l : OptionList) (code : UInt8) : OptionList :=
  ⟨l.entries.filter (·.code != code)⟩

def length (l : OptionList) : Nat := l.entries.length

def isEmpty (l : OptionList) : Bool := l.entries.isEmpty

/-- Bytes the options occupy on the wire. -/
def encodedLength (l : OptionList) : Nat :=
  l.entries.foldl (fun n o => n + o.encodedLength) 0

/-- Reads an optional option with a typed reader. -/
def typed {α : Type} (l : OptionList) (code : OptionCode) (read : LeaseOption → Except Error α) :
    Except Error (Option α) :=
  match l.get? code.toByte with
  | some o => (read o).map some
  | none => .ok none

/-- The message kind (option 53), `none` when absent. -/
def kind (l : OptionList) : Except Error (Option MessageKind) :=
  l.typed .messageKind LeaseOption.asKind

/-- The requested address (option 50), `none` when absent. -/
def requestedAddress (l : OptionList) : Except Error (Option Ipv4) :=
  l.typed .requestedAddress LeaseOption.asAddress

/-- The server identifier (option 54), `none` when absent. -/
def serverIdentifier (l : OptionList) : Except Error (Option Ipv4) :=
  l.typed .serverIdentifier LeaseOption.asAddress

/-- The lease time in seconds (option 51), `none` when absent. -/
def leaseTime (l : OptionList) : Except Error (Option UInt32) :=
  l.typed .leaseTime LeaseOption.asWord32

/-- The options region: the options back to back, then zeros up to 336 bytes. -/
def encode (l : OptionList) : Except Error (List UInt8) :=
  let size := l.encodedLength
  if regionSize < size then .error (.optionsOverflow size)
  else .ok (l.entries.flatMap LeaseOption.encode ++ List.replicate (regionSize - size) 0)

/-- Adds a decoded option unless its code was seen before. -/
def keepFirst (l : OptionList) (o : LeaseOption) : OptionList :=
  if l.contains o.code then l else ⟨l.entries ++ [o]⟩

/-- Reads the region `bytes`, whose first byte is at `offset`, after the options `acc`. -/
def decodeFrom (offset : Nat) (acc : OptionList) (bytes : List UInt8) :
    Except Error OptionList :=
  match bytes with
  | [] => .ok acc
  | code :: rest =>
    if code == 0 then decodeFrom (offset + 1) acc rest
    else match rest with
      | [] =>
        if code == 255 then .ok (acc.insert .endMarker)
        else .error (.malformed (.lengthByteMissing code offset))
      | len :: rest =>
        if rest.length < len.toNat then
          .error (.malformed (.contentOverrun code offset len.toNat rest.length))
        else
          decodeFrom (offset + 2 + len.toNat) (acc.keepFirst ⟨code, rest.take len.toNat⟩)
            (rest.drop len.toNat)
termination_by bytes.length
decreasing_by
  all_goals simp only [List.length_cons, List.length_drop]
  all_goals omega

/-- Reads an options region. -/
def decode (bytes : List UInt8) : Except Error OptionList :=
  decodeFrom 0 empty bytes

end OptionList

end AddressLeasing
