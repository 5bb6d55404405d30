import AddressLeasing.Net.Endpoint
/-!
# Command-line interfaces

A command line is described as data: a program has options and subcommands, each subcommand
its own options, and every option a role. The parser (`Cli.Parse`) and the help pages
(`Cli.Help`) read these descriptions, so a program's interface is one value.

An option is written `--long` and may have a one-letter form `-s`. It either takes one value,
written after it, after `=`, or right after the letter, or it is a switch, or it asks for help
or for the version. A value has a kind that decides which texts are accepted.
-/

set_option autoImplicit false

namespace AddressLeasing

namespace Cli

/-- What an option's value must be. -/
inductive ValueKind where
  /-- A file path: any text but the empty one. -/
  | path
  /-- Any text. -/
  | text
  /-- A socket address `a.b.c.d:port`. -/
  | endpoint
  /-- A count from 0 to 2⁶⁴ - 1, in decimal with an optional `+`. -/
  | count
  deriving DecidableEq, Inhabited

/-- How a value fares against its kind. -/
inductive ValueCheck where
  | accepted
  /-- The kind needs a value and the text is empty. -/
  | empty
  /-- The text is refused, for the reason given. -/
  | refused (reason : String)
  deriving DecidableEq, Inhabited

/-- The reason a decimal count is refused, if it is. -/
def countFault (s : String) : Option String :=
  let cs := s.toList
  let digits := if cs.head? == some '+' then cs.drop 1 else cs
  if cs.isEmpty then some "cannot parse integer from empty string"
  else if digits.isEmpty || !digits.all Char.isDigit then some "invalid digit found in string"
  else if Nat.pow 2 64 ≤ digits.foldl (fun n c => 10 * n + (c.toNat - '0'.toNat)) 0 then
    some "number too large to fit in target type"
  else none

/-- Checks a value against its kind. -/
def ValueKind.check : ValueKind → String → ValueCheck
  | .path, s => if s.isEmpty then .empty else .accepted
  | .text, _ => .accepted
  | .endpoint, s =>
    if (Endpoint.parse? s).isSome then .accepted else .refused "invalid socket address syntax"
  | .count, s =>
    match countFault s with
    | some reason => .refused reason
    | none => .accepted

/-- What an option does when it is given. -/
inductive Role where
  /-- Takes one value, shown as `<placeholder>` in help. -/
  | value (placeholder : String) (kind : ValueKind) (default : Option String) (required : Bool)
  /-- Is on when given. -/
  | switch
  /-- Prints the help page. -/
  | help
  /-- Prints the version. -/
  | version
  deriving DecidableEq, Inhabited

/-- One option. -/
structure Opt where
  short : Option Char
  long : String
  role : Role
  /-- One line for the help page; may be empty. -/
  help : String
  deriving DecidableEq, Inhabited

namespace Opt

/-- Whether it takes a value. -/
def takesValue (o : Opt) : Bool :=
  match o.role with
  | .value .. => true
  | _ => false

/-- Whether it must be given. -/
def isRequired (o : Opt) : Bool :=
  match o.role with
  | .value _ _ _ r => r
  | _ => false

/-- Its default value, if it has one. -/
def default? (o : Opt) : Option String :=
  match o.role with
  | .value _ _ d _ => d
  | _ => none

/-- The long form with its placeholder: `--config <CONFIG>`. -/
def display (o : Opt) : String :=
  match o.role with
  | .value p .. => "--" ++ o.long ++ " <" ++ p ++ ">"
  | _ => "--" ++ o.long

/-- The standard help option. -/
def helpOption : Opt := ⟨some 'h', "help", .help, "Print help"⟩

/-- The standard version option. -/
def versionOption : Opt := ⟨some 'V', "version", .version, "Print version"⟩

end Opt

/-- A command: its name, one line about it, and its options in the order help lists them. -/
structure Command where
  name : String
  about : String
  options : List Opt
  deriving DecidableEq, Inhabited

/-- A program: its top command, its version, and its subcommands. A `help` subcommand, which
prints the help of the commands named after it, comes with every program. -/
structure Program where
  top : Command
  version : String
  subcommands : List Command
  deriving DecidableEq, Inhabited

/-- What the built-in `help` subcommand says about itself. -/
def helpAbout : String := "Print this message or the help of the given subcommand(s)"

/-- The built-in `help` subcommand; it takes command names, not options. -/
def helpCommand : Command := ⟨"help", helpAbout, []⟩

/-- The subcommands a program answers to, the built-in `help` last. -/
def Program.commands (p : Program) : List Command := p.subcommands ++ [helpCommand]

end Cli

end AddressLeasing
