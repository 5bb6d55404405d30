import AddressLeasing.Text.Printable
/-!
# Quoted text

A text shown inside a diagnostic is put between double quotes. Inside them the double quote
and the backslash are preceded by a backslash, NUL, tab, line feed and carriage return are
written `\0`, `\t`, `\n` and `\r`, and the other characters that cannot stand for themselves
(see `Printable.byCode`) are written as their code point in lowercase hexadecimal between
braces, `\u{7f}`. Every other character stands for itself.
-/

set_option autoImplicit false

namespace AddressLeasing.Quoted

/-- The lowercase hexadecimal digits of a number, without leading zeros. -/
def hexDigits (n : Nat) : String :=
  String.ofList (Nat.toDigits 16 n)

/-- One character inside the quotes. -/
def escape (c : Char) : String :=
  if c == '"' then "\\\""
  else if c == '\\' then "\\\\"
  else if c.toNat == 0 then "\\0"
  else if c == '\t' then "\\t"
  else if c == '\n' then "\\n"
  else if c == '\r' then "\\r"
  else if Printable.byCode c then "\\u\x7b" ++ hexDigits c.toNat ++ "\x7d"
  else String.singleton c

/-- A text between double quotes, escaped as above. -/
def quote (s : String) : String :=
  "\"" ++ String.join (s.toList.map escape) ++ "\""

end AddressLeasing.Quoted
