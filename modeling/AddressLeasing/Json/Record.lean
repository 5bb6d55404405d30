import AddressLeasing.Json.Reader
import AddressLeasing.Net.Endpoint
/-!
# Records in JSON

A record is a fixed list of named, typed fields, such as a configuration. It can be read from
an object, in any order, with unknown members ignored and a repeated member refused, or from
a list holding the fields in order. A field that is never given is missing; the first missing
field in record order is reported.

Reading works on text and on a document already parsed, with the same faults. From text, a
fault found while reading a member is placed where the reader stood; a repeated member is
placed right after its key, and a missing one right after the closing brace. A parsed object
is read in key order, which is the order of the members' names.

A field is an IPv4 address or socket address written as a string, a string, or a whole number
of 16, 32 or 64 bits.
-/

set_option autoImplicit false

namespace AddressLeasing.Json

/-- The type of a record field. -/
inductive FieldKind where
  | ipv4
  | endpoint
  | text
  | word16
  | word32
  | word64
  deriving DecidableEq, Inhabited

/-- The value of a record field. -/
inductive FieldValue where
  | ipv4 (a : Ipv4)
  | endpoint (e : Endpoint)
  | text (s : String)
  | word (n : Nat)
  deriving DecidableEq, Inhabited

namespace FieldKind

/-- What a diagnostic says was expected. -/
def expected : FieldKind → String
  | .ipv4 => "IPv4 address"
  | .endpoint => "socket address"
  | .text => "a string"
  | .word16 => "u16"
  | .word32 => "u32"
  | .word64 => "u64"

/-- Whether the field is written as a string. -/
def isText : FieldKind → Bool
  | .ipv4 | .endpoint | .text => true
  | _ => false

/-- The largest value of a whole-number field. -/
def bound : FieldKind → Nat
  | .word16 => Nat.pow 2 16 - 1
  | .word32 => Nat.pow 2 32 - 1
  | _ => Nat.pow 2 64 - 1

/-- A string as this field. -/
def ofString (k : FieldKind) (s : String) : Except Fault FieldValue :=
  match k with
  | .ipv4 =>
    match Ipv4.parse? s with
    | some a => .ok (.ipv4 a)
    | none => .error (.custom "invalid IPv4 address syntax")
  | .endpoint =>
    match Endpoint.parse? s with
    | some e => .ok (.endpoint e)
    | none => .error (.custom "invalid socket address syntax")
  | _ => .ok (.text s)

/-- A number as this whole-number field. -/
def ofNumber (k : FieldKind) (n : Number) : Except Fault FieldValue :=
  match n with
  | .unsigned v => if v ≤ k.bound then .ok (.word v) else .error (.invalidValue (.integer v) k.expected)
  | .negative v => .error (.invalidValue (.integer v) k.expected)
  | .float f => .error (.invalidType (.float (floatText f)) k.expected)

/-- A parsed value as this field. -/
def ofValue (k : FieldKind) (v : Value) : Except Fault FieldValue :=
  match v with
  | .string s => if k.isText then k.ofString s else .error (.invalidType v.found k.expected)
  | .number n => if k.isText then .error (.invalidType v.found k.expected) else k.ofNumber n
  | _ => .error (.invalidType v.found k.expected)

end FieldKind

/-- A record: its name, used in diagnostics, and its fields in order. -/
structure Schema where
  name : String
  fields : List (String × FieldKind)

namespace Schema

def expected (s : Schema) : String := "struct " ++ s.name

/-- What a list too short for the record is compared with. -/
def expectedElements (s : Schema) : String :=
  s!"struct {s.name} with {s.fields.length} elements"

/-- The position of a field. -/
def indexOf? (s : Schema) (name : String) : Option Nat :=
  s.fields.findIdx? (·.1 == name)

/-- The record, once every field has a value; otherwise the first missing field. -/
def complete (s : Schema) (slots : List (Option FieldValue)) : Except Fault (List FieldValue) :=
  match (s.fields.zip slots).find? (·.2.isNone) with
  | some ((name, _), _) => .error (.missingField name)
  | none => .ok (slots.filterMap id)

def empty (s : Schema) : List (Option FieldValue) := s.fields.map fun _ => none

/-! ## From a parsed document -/

/-- Object members in key order, a repeated key keeping its last value. -/
def sortMembers (members : List (String × Value)) : List (String × Value) :=
  let insert (acc : List (String × Value)) (m : String × Value) : List (String × Value) :=
    let rest := acc.filter (·.1 != m.1)
    let (before, after) := rest.partition (·.1 < m.1)
    before ++ m :: after
  members.foldl insert []

/-- The fields from object members, in key order. -/
def fromMembers (s : Schema) (slots : List (Option FieldValue)) :
    List (String × Value) → Except Fault (List (Option FieldValue))
  | [] => .ok slots
  | (k, v) :: rest =>
    match s.indexOf? k with
    | none => s.fromMembers slots rest
    | some i => do
      let kind := (s.fields.getD i ("", .text)).2
      let fv ← kind.ofValue v
      s.fromMembers (slots.set i (some fv)) rest

/-- Reads a record from a parsed document. -/
def ofValue (s : Schema) (v : Value) : Except Fault (List FieldValue) :=
  match v with
  | .object members => do
    let slots ← s.fromMembers s.empty (sortMembers members)
    s.complete slots
  | .array items => do
    let rec take : List (String × FieldKind) → List Value → Nat → Except Fault (List FieldValue)
      | [], rest, _ =>
        if rest.isEmpty then .ok []
        else .error (.invalidLength items.length "fewer elements in array")
      | (_, kind) :: fs, item :: rest, i => do
        let fv ← kind.ofValue item
        let tail ← take fs rest (i + 1)
        pure (fv :: tail)
      | _ :: _, [], i => .error (.invalidLength i s.expectedElements)
    take s.fields items 0
  | _ => .error (.invalidType v.found s.expected)

/-! ## From text -/

/-- What the reader found where a value of another type was expected: the value is read to
name it, and the fault is placed after it; a list or object is named without being read. -/
def peekInvalid {α : Type} (expected : String) : Reader α := do
  match ← Reader.peek? with
  | some 0x6E => do Reader.eat; Reader.ident [0x75, 0x6C, 0x6C]; Reader.fail (.invalidType .null expected)
  | some 0x74 => do
    Reader.eat; Reader.ident [0x72, 0x75, 0x65]; Reader.fail (.invalidType (.bool true) expected)
  | some 0x66 => do
    Reader.eat; Reader.ident [0x61, 0x6C, 0x73, 0x65]
    Reader.fail (.invalidType (.bool false) expected)
  | some 0x2D => do
    Reader.eat
    let n ← Reader.number false
    Reader.fail (.invalidType n.found expected)
  | some 0x22 => do
    Reader.eat
    let t ← Reader.string
    Reader.fail (.invalidType (.string t) expected)
  | some 0x5B => Reader.fail (.invalidType .sequence expected)
  | some 0x7B => Reader.fail (.invalidType .map expected)
  | some c =>
    if Reader.isDigit c then do
      let n ← Reader.number true
      Reader.fail (.invalidType n.found expected)
    else Reader.failPeek .expectedValue
  | none => Reader.failPeek .expectedValue

/-- Reads one field. -/
def field (kind : FieldKind) : Reader FieldValue := do
  match ← Reader.ws with
  | none => Reader.failPeek .eofValue
  | some c =>
    if kind.isText then
      if c == 0x22 then do
        Reader.eat
        let t ← Reader.string
        match kind.ofString t with
        | .ok v => pure v
        | .error f => Reader.fail f
      else peekInvalid kind.expected
    else if c == 0x2D || Reader.isDigit c then do
      if c == 0x2D then Reader.eat
      let n ← Reader.number (c != 0x2D)
      match kind.ofNumber n with
      | .ok v => pure v
      | .error f => Reader.fail f
    else peekInvalid kind.expected

/-- The members of an object, after its opening brace. A repeated or missing field is a
fault without a position, given back as a result. -/
def objectFields (s : Schema) : Nat → List (Option FieldValue) → Bool →
    Reader (Except Fault (List (Option FieldValue)))
  | 0, slots, _ => pure (.ok slots)
  | fuel + 1, slots, first => do
    match ← Reader.objectKey first with
    | none => pure (.ok slots)
    | some k =>
      match s.indexOf? k with
      | some i =>
        if (slots.getD i none).isSome then pure (.error (.duplicateField k))
        else do
          Reader.colon
          let v ← field (s.fields.getD i ("", .text)).2
          objectFields s fuel (slots.set i (some v)) false
      | none => do
        Reader.colon
        Reader.skip
        objectFields s fuel slots false

/-- The fields of a list, after its opening bracket, in record order. -/
def listFields (s : Schema) : List (String × FieldKind) → Nat → Bool →
    Reader (Except Fault (List FieldValue))
  | [], _, _ => pure (.ok [])
  | (_, kind) :: rest, i, first => do
    if ← Reader.listMember first then
      let v ← field kind
      match ← listFields s rest (i + 1) false with
      | .ok vs => pure (.ok (v :: vs))
      | .error f => pure (.error f)
    else pure (.error (.invalidLength i s.expectedElements))

/-- Reads a record from text. -/
def read (s : Schema) : Reader (List FieldValue) := do
  match ← Reader.ws with
  | none => Reader.failPeek .eofValue
  | some 0x7B => do
    Reader.eat
    let r ← objectFields s ((← Reader.remaining) + 1) s.empty true
    let close ← Reader.endObject
    match r with
    | .error f => Reader.fail f
    | .ok slots =>
      match s.complete slots with
      | .error f => Reader.fail f
      | .ok vs =>
        match close with
        | .error e => throw e
        | .ok () => pure vs
  | some 0x5B => do
    Reader.eat
    let r ← listFields s s.fields 0 true
    let close ← Reader.endList
    match r with
    | .error f => Reader.fail f
    | .ok vs =>
      match close with
      | .error e => throw e
      | .ok () => pure vs
  | some _ => peekInvalid s.expected

/-- Reads a whole text as this record. -/
def ofText (s : Schema) (text : String) : Except Error (List FieldValue) :=
  Reader.run s.read text

end Schema

end AddressLeasing.Json
