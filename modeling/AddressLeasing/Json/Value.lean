import AddressLeasing.Json.Error
import AddressLeasing.Decimal.Shortest
import AddressLeasing.Text.Hex
/-!
# JSON documents

A document is a tree of values. Numbers keep the class the reader gave them: a whole number
from 0 to `2^64 - 1`, a negative whole number down to `-2^63`, or a double for everything
else (a fraction, an exponent, a whole number out of those ranges, and `-0`).

Writing escapes the double quote, the backslash and the control characters below `U+0020`
(`\b`, `\f`, `\n`, `\r`, `\t` by name, the rest as `\u00xx` with lowercase digits) and
nothing else. The pretty form puts each member on its own line, indented by two spaces per
level, with `": "` after keys.
-/

set_option autoImplicit false

namespace AddressLeasing.Json

/-- A number as the reader classifies it. -/
inductive Number where
  | unsigned (n : Nat)
  | negative (n : Int)
  | float (f : Float)
  deriving Inhabited

/-- A JSON value; object members in document order. -/
inductive Value where
  | null
  | bool (b : Bool)
  | number (n : Number)
  | string (s : String)
  | array (items : List Value)
  | object (members : List (String × Value))
  deriving Inhabited

/-- A double as it is shown in a diagnostic and written in JSON text (see `Decimal.text`). -/
def floatText (f : Float) : String := Decimal.text f

/-- How a number is named when it was not expected. -/
def Number.found : Number → Found
  | .unsigned n => .integer n
  | .negative n => .integer n
  | .float f => .float (floatText f)

/-- How a value is named when it was not expected. -/
def Value.found : Value → Found
  | .null => .null
  | .bool b => .bool b
  | .number n => n.found
  | .string s => .string s
  | .array _ => .sequence
  | .object _ => .map

/-- The member `key` of an object (the last one, if repeated). -/
def Value.get? (v : Value) (key : String) : Option Value :=
  match v with
  | .object members => (members.reverse.find? (·.1 == key)).map (·.2)
  | _ => none

/-- One character of a written string. -/
def escapeChar (c : Char) : String :=
  if c == '"' then "\\\""
  else if c == '\\' then "\\\\"
  else if c.toNat < 0x20 then
    if c.toNat == 8 then "\\b"
    else if c.toNat == 12 then "\\f"
    else if c == '\n' then "\\n"
    else if c == '\r' then "\\r"
    else if c == '\t' then "\\t"
    else "\\u00" ++ String.ofList [Hex.digit (c.toNat / 16), Hex.digit (c.toNat % 16)]
  else String.singleton c

/-- A string between double quotes, escaped for JSON. -/
def quote (s : String) : String :=
  "\"" ++ String.join (s.toList.map escapeChar) ++ "\""

/-- The text of a number: whole numbers in decimal, doubles by their shortest text. -/
def Number.render : Number → String
  | .unsigned n => toString n
  | .negative n => toString n
  | .float f => floatText f

/-! The compact text of a value. -/
mutual
def Value.render : Value → String
  | .null => "null"
  | .bool b => toString b
  | .number n => n.render
  | .string s => quote s
  | .array items => "[" ++ ",".intercalate (renderItems items) ++ "]"
  | .object members => "\x7b" ++ ",".intercalate (renderMembers members) ++ "\x7d"

def renderItems : List Value → List String
  | [] => []
  | v :: vs => v.render :: renderItems vs

def renderMembers : List (String × Value) → List String
  | [] => []
  | (k, v) :: ms => (quote k ++ ":" ++ v.render) :: renderMembers ms
end

/-! The pretty text of a value whose nested lines are indented by `indent` and two more
spaces. -/
mutual
def Value.pretty (indent : String) : Value → String
  | .array [] => "[]"
  | .object [] => "\x7b\x7d"
  | .array items =>
    "[\n" ++ ",\n".intercalate (prettyItems (indent ++ "  ") items) ++ "\n" ++ indent ++ "]"
  | .object members =>
    "\x7b\n" ++ ",\n".intercalate (prettyMembers (indent ++ "  ") members) ++ "\n" ++ indent ++
      "\x7d"
  | v => v.render

def prettyItems (indent : String) : List Value → List String
  | [] => []
  | v :: vs => (indent ++ v.pretty indent) :: prettyItems indent vs

def prettyMembers (indent : String) : List (String × Value) → List String
  | [] => []
  | (k, v) :: ms => (indent ++ quote k ++ ": " ++ v.pretty indent) :: prettyMembers indent ms
end

end AddressLeasing.Json
