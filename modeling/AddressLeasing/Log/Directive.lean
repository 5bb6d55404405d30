import AddressLeasing.Text.Letters
import AddressLeasing.Log.Pattern
/-!
# Log filter directives

The log level option holds a filter: directives separated by commas, empty ones skipped. A
directive, once the blanks around it are trimmed, is one of

* a verbosity alone: `off`, `error`, `warn`, `info`, `debug`, `trace` in any case, or a digit
  from 0 to 5;
* `target=verbosity` or `target`: the target runs up to the first `=`;
* `target[span]=verbosity` or `target[span]`, when a `[` comes before any `=`: the target,
  which may be missing here, runs up to that `[`.

A target starts with a letter, a digit, `_`, `:` or `-`. A span is a name, optionally followed
by fields in braces, `name{fields}`, and then `]`: the name runs up to the first `{` or `]`, and
the fields up to the first `}`, which must be followed by the `]`. There must be fields
between the braces. A field is `name` or `name=value` (what follows a second `=` is ignored);
a value that is neither `true`, `false` nor a number is a pattern, which must compile
(`Log.Pattern`).

The verbosity after `=` is read from the directive as given, not as trimmed, at the place the
`=` has in the trimmed one: it names a verbosity only when nothing was trimmed before it, and
blanks after it belong to it. It may be empty, a level name in any case, or a number from 0
to 5 with an optional `+` and leading zeros.

A directive is read left to right and the first fault found is the one reported: its shape
and target, then its fields, then its verbosity. A directive that does not read is ignored
with a warning that says why, and the others still apply.
-/

set_option autoImplicit false

namespace AddressLeasing.Log

/-- How much a directive lets through. -/
inductive Verbosity where
  | off
  | error
  | warn
  | info
  | debug
  | trace
  deriving DecidableEq, Inhabited

/-- The verbosities by number, from 0 to 5. -/
def Verbosity.byNumber : List Verbosity := [.off, .error, .warn, .info, .debug, .trace]

/-- The verbosity a text names; the empty text names `error`. -/
def Verbosity.parse? (s : String) : Option Verbosity :=
  let digits := match s.toList with
    | '+' :: more => more
    | cs => cs
  if !digits.isEmpty && digits.all Char.isDigit then
    Verbosity.byNumber[digits.foldl (fun n c => 10 * n + (c.toNat - 48)) 0]?
  else
    match String.ofList (s.toList.map Char.toLower) with
    | "" => some .error
    | "off" => some .off
    | "error" => some .error
    | "warn" => some .warn
    | "info" => some .info
    | "debug" => some .debug
    | "trace" => some .trace
    | _ => none

/-- A field a span must have: a name, and the value it must match if one is given. -/
structure FieldMatch where
  name : String
  value : Option String
  deriving DecidableEq, Inhabited

/-- A span a directive applies in: its name (empty for any span) and its fields. -/
structure SpanMatch where
  name : String
  fields : List FieldMatch
  deriving DecidableEq, Inhabited

/-- One directive: where it applies and how much it lets through there. -/
structure Directive where
  target : Option String
  span : Option SpanMatch
  verbosity : Verbosity
  deriving DecidableEq, Inhabited

/-- Why a directive is ignored. -/
inductive DirectiveFault where
  /-- The directive does not have the shape of one. -/
  | malformed
  /-- A field value is a pattern that does not compile. -/
  | field (p : PatternFault)
  /-- The text after `=` names no verbosity. -/
  | verbosity
  deriving DecidableEq, Inhabited

/-- The fault as the warning states it. -/
def DirectiveFault.message : DirectiveFault → String
  | .malformed => "invalid filter directive"
  | .field p => "invalid field filter: " ++ p.message
  | .verbosity =>
    "error parsing level filter: expected one of \"off\", \"error\", \"warn\", \"info\", " ++
      "\"debug\", \"trace\", or a number 0-5"

namespace Directive

/-- The text before the first `c` and the text after it, if `c` occurs. -/
def splitAt? (c : Char) (cs : List Char) : Option (List Char × List Char) :=
  match cs.span (· != c) with
  | (before, _ :: after) => some (before, after)
  | (_, []) => none

/-- Strips a sign. -/
def unsigned : List Char → List Char
  | '+' :: more | '-' :: more => more
  | cs => cs

/-- Whether a text is a number: an integer, a decimal with digits on at least one side of
its point and an optional exponent, or `inf`, `infinity` or `nan` in any case; each with an
optional sign. -/
def isNumber (cs : List Char) : Bool :=
  let cs := unsigned cs
  let lower := String.ofList (cs.map Char.toLower)
  lower == "inf" || lower == "infinity" || lower == "nan" ||
    let whole := cs.takeWhile Char.isDigit
    let afterWhole := cs.drop whole.length
    let (fraction, afterFraction) : List Char × List Char := match afterWhole with
      | '.' :: more => (more.takeWhile Char.isDigit, more.drop (more.takeWhile Char.isDigit).length)
      | more => ([], more)
    (!whole.isEmpty || !fraction.isEmpty) &&
      match afterFraction with
      | [] => true
      | e :: more =>
        (e == 'e' || e == 'E') && !(unsigned more).isEmpty && (unsigned more).all Char.isDigit

/-- Reads one field, `name` or `name=value`, ignoring what follows a second `=`; a value that
is no boolean and no number must be a pattern that compiles. -/
def field (cs : List Char) : Except DirectiveFault FieldMatch :=
  match splitAt? '=' cs with
  | none => .ok ⟨String.ofList cs, none⟩
  | some (name, afterName) =>
    let value := afterName.takeWhile (· != '=')
    let text := String.ofList value
    if text == "true" || text == "false" || isNumber value then .ok ⟨String.ofList name, some text⟩
    else match Pattern.fault? text with
      | some p => .error (.field p)
      | none => .ok ⟨String.ofList name, some text⟩

/-- Whether a target may start with `cs`: with a letter, a digit, `_`, `:` or `-`. An empty
target is no target. -/
def targetStarts : List Char → Bool
  | c :: _ => Letters.isAlphanumeric c || c == '_' || c == ':' || c == '-'
  | [] => true

/-- The target, as a directive keeps it. -/
def targetOf (cs : List Char) : Option String :=
  if cs.isEmpty then none else some (String.ofList cs)

/-- The verbosity after `=`, or `trace` if there is no `=`. -/
def verbosityOf : Option (List Char) → Except DirectiveFault Verbosity
  | none => .ok .trace
  | some cs => match Verbosity.parse? (String.ofList cs) with
    | some v => .ok v
    | none => .error .verbosity

/-- Whether a trimmed directive is a verbosity alone. -/
def isGlobal (t : String) : Bool :=
  ["trace", "debug", "info", "warn", "error", "off", "0", "1", "2", "3", "4", "5"].contains
    (String.ofList (t.toList.map Char.toLower))

/-- Reads the span after its `[`: the span, and what follows its `]`. -/
def spanOf (cs : List Char) : Except DirectiveFault (SpanMatch × List Char) :=
  let name := cs.takeWhile fun c => c != '\x7b' && c != ']'
  match cs.drop name.length with
  | ']' :: tail => .ok (⟨String.ofList name, []⟩, tail)
  | _ :: afterBrace =>
    let inside := afterBrace.takeWhile (· != '\x7d')
    match afterBrace.drop inside.length with
    | _ :: afterFields =>
      if inside.isEmpty then .error .malformed
      else do
        let fields ← (inside.splitOn ',').mapM field
        match afterFields with
        | ']' :: tail => .ok (⟨String.ofList name, fields⟩, tail)
        | _ => .error .malformed
    | [] => .error .malformed
  | [] => .error .malformed

/-- Reads one directive `d`. `t` is `d` trimmed; `tail` is what is left of `t` when the
verbosity is due, so the `=` that starts it stands at `t.length - tail.length` in `t`, and the
verbosity is read from `d` after that place. -/
def parse (d : String) : Except DirectiveFault Directive :=
  let t := Letters.trim d
  if isGlobal t then .ok ⟨none, none, (Verbosity.parse? t).getD .trace⟩
  else
    let cs := t.toList
    let target := cs.takeWhile fun c => c != '[' && c != '='
    let verbosityAfter (tail : List Char) : Except DirectiveFault Verbosity :=
      match tail with
      | [] => verbosityOf none
      | _ => verbosityOf (some (d.toList.drop (cs.length - tail.length + 1)))
    if !targetStarts target then .error .malformed
    else
      match cs.drop target.length with
      | '[' :: afterOpen => do
        let (s, tail) ← spanOf afterOpen
        match tail with
        | [] | '=' :: _ => pure ⟨targetOf target, some s, ← verbosityAfter tail⟩
        | _ => .error .malformed
      | rest =>
        if target.isEmpty then .error .malformed
        else do pure ⟨targetOf target, none, ← verbosityAfter rest⟩

end Directive

/-- The warnings for the directives of a filter that do not read, in order. -/
def warnings (filter : String) : List String :=
  (filter.splitOn ",").filterMap fun d =>
    if d.isEmpty then none
    else match Directive.parse d with
      | .ok _ => none
      | .error e => some ("ignoring \x60" ++ d ++ "\x60: " ++ e.message)

end AddressLeasing.Log
