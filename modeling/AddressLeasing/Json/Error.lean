import AddressLeasing.Text.Quoted
/-!
# Why a JSON document was refused

Reading a configuration can fail in two ways. The text may not be JSON at all (a missing
colon, an unterminated string, a number too large to hold), or it may be JSON of the wrong
shape (a string where a port was expected, a missing field). Both are a `Json.Fault`.

A fault found while reading text carries the line and column where the reader stood: lines
count from 1 and the column is the number of bytes since the last line break. A fault found in
a document that was already parsed has no position.
-/

set_option autoImplicit false

namespace AddressLeasing.Json

/-- What the reader found where it expected something else. -/
inductive Found where
  | bool (b : Bool)
  | integer (n : Int)
  /-- A number with a fraction or exponent, as the decimal text it is shown by. -/
  | float (text : String)
  | string (s : String)
  | null
  | sequence
  | map
  deriving DecidableEq, Inhabited

/-- How a found value is named in a diagnostic. -/
def Found.describe : Found → String
  | .bool b => "boolean `" ++ toString b ++ "`"
  | .integer n => "integer `" ++ toString n ++ "`"
  | .float text => "floating point `" ++ text ++ "`"
  | .string s => "string " ++ Quoted.quote s
  | .null => "null"
  | .sequence => "sequence"
  | .map => "map"

/-- The causes of a refused document. -/
inductive Fault where
  | eofList
  | eofObject
  | eofString
  | eofValue
  | expectedColon
  | expectedListCommaOrEnd
  | expectedObjectCommaOrEnd
  | expectedIdent
  | expectedValue
  | invalidEscape
  | invalidNumber
  | numberOutOfRange
  | invalidCodePoint
  | controlCharacter
  | keyMustBeString
  | loneLeadingSurrogate
  | unexpectedEndOfHexEscape
  | trailingComma
  | trailingCharacters
  | recursionLimit
  /-- A value of the wrong kind, with what was expected. -/
  | invalidType (found : Found) (expected : String)
  /-- A value of the right kind but out of range or unreadable. -/
  | invalidValue (found : Found) (expected : String)
  /-- A list with too few elements for a record read from it. -/
  | invalidLength (length : Nat) (expected : String)
  | missingField (name : String)
  | duplicateField (name : String)
  /-- A text that does not read as the expected value, with the reader's own reason. -/
  | custom (reason : String)
  deriving DecidableEq, Inhabited

/-- The wording of a fault. -/
def Fault.message : Fault → String
  | .eofList => "EOF while parsing a list"
  | .eofObject => "EOF while parsing an object"
  | .eofString => "EOF while parsing a string"
  | .eofValue => "EOF while parsing a value"
  | .expectedColon => "expected `:`"
  | .expectedListCommaOrEnd => "expected `,` or `]`"
  | .expectedObjectCommaOrEnd => "expected `,` or `\x7d`"
  | .expectedIdent => "expected ident"
  | .expectedValue => "expected value"
  | .invalidEscape => "invalid escape"
  | .invalidNumber => "invalid number"
  | .numberOutOfRange => "number out of range"
  | .invalidCodePoint => "invalid unicode code point"
  | .controlCharacter => "control character (\\u0000-\\u001F) found while parsing a string"
  | .keyMustBeString => "key must be a string"
  | .loneLeadingSurrogate => "lone leading surrogate in hex escape"
  | .unexpectedEndOfHexEscape => "unexpected end of hex escape"
  | .trailingComma => "trailing comma"
  | .trailingCharacters => "trailing characters"
  | .recursionLimit => "recursion limit exceeded"
  | .invalidType found expected => "invalid type: " ++ found.describe ++ ", expected " ++ expected
  | .invalidValue found expected => "invalid value: " ++ found.describe ++ ", expected " ++ expected
  | .invalidLength n expected => "invalid length " ++ toString n ++ ", expected " ++ expected
  | .missingField name => "missing field `" ++ name ++ "`"
  | .duplicateField name => "duplicate field `" ++ name ++ "`"
  | .custom reason => reason

/-- A fault and, for text, the line and column where it was found. -/
structure Error where
  fault : Fault
  position : Option (Nat × Nat) := none
  deriving DecidableEq, Inhabited

namespace Error

/-- The fault's wording, followed by its position when there is one. -/
def message (e : Error) : String :=
  match e.position with
  | some (line, column) => e.fault.message ++ s!" at line {line} column {column}"
  | none => e.fault.message

/-- The diagnostic form: the wording quoted, with the line and column (zero without a
position). -/
def diagnostic (e : Error) : String :=
  let (line, column) := e.position.getD (0, 0)
  "Error(" ++ Quoted.quote e.fault.message ++ s!", line: {line}, column: {column})"

end Error

end AddressLeasing.Json
