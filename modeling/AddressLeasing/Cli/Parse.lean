import AddressLeasing.Cli.Help
import AddressLeasing.Cli.Similarity
/-!
# Reading a command line

The words of a command line are read left to right against the program's description.

* A word naming a subcommand starts it, and the words after it are the subcommand's; `help`
  instead prints the help of the commands named after it.
* `--long`, `--long=value` and `-s`, `-svalue`, `-s=value` name options; letters of switches
  may be joined, `-hV`.
* An option that takes a value and has none attached takes the next word, unless that word
  is an option itself. A subcommand's name in that place is a value too.
* `--` ends the options; nothing the programs here accept may follow it. An option waiting
  for its value keeps waiting, and is refused only if nothing else is wrong.

A value is checked against its kind when the option is complete: when the next option is
met, or at the end. Each option may be given once. The help and version options stop the
reading at once, after the option before them is complete. When all words are read, every
required option must have been given, and the options left out take their defaults.

Everything else refuses the command line, with the first fault met.
-/

set_option autoImplicit false

namespace AddressLeasing

namespace Cli

/-- How reading a command line stops early. -/
inductive Halt where
  /-- A help page or the version, for standard output. -/
  | shown (text : String)
  /-- The command line is refused. -/
  | refused (r : Refusal)
  deriving DecidableEq, Inhabited

/-- A command being read: its description, the words that reach it, and its subcommands. -/
structure Level where
  command : Command
  path : String
  subcommands : List Command
  /-- Its help page. -/
  page : String
  /-- What its version option prints. -/
  versionText : String
  deriving DecidableEq, Inhabited

/-- What has been read of one command's words. -/
structure Scan where
  /-- Completed options and their values, in the order given; switches have `true`. -/
  given : List (Opt × String)
  /-- The last option that takes a value, while it is not complete: `none` while it waits for
  its value. -/
  pending : Option (Opt × Option String)
  /-- Whether `--` has been read. -/
  escaped : Bool
  deriving DecidableEq, Inhabited

namespace Scan

def start : Scan := ⟨[], none, false⟩

/-- Whether an option waits for its value. -/
def waiting (s : Scan) : Bool :=
  match s.pending with
  | some (_, none) => true
  | _ => false

/-- The options given so far. -/
def used (s : Scan) : List Opt := s.given.map (·.1)

end Scan

namespace Level

/-- The option with this long form. -/
def findLong (l : Level) (name : String) : Option Opt := l.command.options.find? (·.long == name)

/-- The option with this letter form. -/
def findShort (l : Level) (c : Char) : Option Opt := l.command.options.find? (·.short == some c)

/-- The usage line, listing the options in `used` when there are any. -/
def usageWith (l : Level) (used : List Opt) : String :=
  l.command.usageWith l.path (!l.subcommands.isEmpty) used

/-- The plain usage line. -/
def usage (l : Level) : String := l.usageWith []

def emptyValue (o : Opt) : Halt :=
  .refused ⟨"a value is required for '" ++ o.display ++ "' but none was supplied", [], none, true⟩

def invalidValue (o : Opt) (v reason : String) : Halt :=
  .refused ⟨"invalid value '" ++ v ++ "' for '" ++ o.display ++ "': " ++ reason, [], none, true⟩

def repeated (l : Level) (o : Opt) : Halt :=
  .refused ⟨"the argument '" ++ o.display ++ "' cannot be used multiple times", [],
    some l.usage, true⟩

/-- Completes option `o` with `value`. -/
def accept (l : Level) (s : Scan) (o : Opt) (value : Option String) : Except Halt Scan :=
  match o.role, value with
  | .help, _ => .error (.shown l.page)
  | .version, _ => .error (.shown l.versionText)
  | .value .., none => .error (emptyValue o)
  | .value _ kind _ _, some v =>
    if s.used.contains o then .error (l.repeated o)
    else
      match kind.check v with
      | .accepted => .ok { s with given := s.given ++ [(o, v)] }
      | .empty => .error (emptyValue o)
      | .refused reason => .error (invalidValue o v reason)
  | .switch, _ =>
    if s.used.contains o then .error (l.repeated o)
    else .ok { s with given := s.given ++ [(o, "true")] }

/-- Completes the pending option, if there is one. -/
def settle (l : Level) (s : Scan) : Except Halt Scan :=
  match s.pending with
  | none => .ok s
  | some (o, v) => l.accept { s with pending := none } o v

/-- Completes the pending option and then option `o` with `value`. -/
def take (l : Level) (s : Scan) (o : Opt) (value : Option String) : Except Halt Scan := do
  let s ← l.settle s
  l.accept s o value

/-- Completes the pending option if it can be. When it cannot, an option that has a value
still counts as given, for the usage line of a later refusal, unless it was given before:
then neither occurrence counts. One without a value is dropped. -/
def settleQuietly (l : Level) (s : Scan) : Scan :=
  match l.settle s with
  | .ok s => s
  | .error _ =>
    match s.pending with
    | some (o, some v) =>
      if s.used.contains o then { s with pending := none, given := s.given.filter (·.1 != o) }
      else { s with pending := none, given := s.given ++ [(o, v)] }
    | _ => { s with pending := none }

/-- The refusal of an unknown `--name`. A similar long form of this command is suggested;
failing that, one of a subcommand named later among `rest`. -/
def unknownLong (l : Level) (s : Scan) (name : String) (rest : List String) : Halt :=
  let s := l.settleQuietly s
  let message := "unexpected argument '--" ++ name ++ "' found"
  match (Similarity.suggest name (l.command.options.map (·.long))).getLast?.bind l.findLong with
  | some o =>
    .refused ⟨message, ["a similar argument exists: '--" ++ o.long ++ "'"],
      some (l.usageWith (s.used ++ [o])), true⟩
  | none =>
    let elsewhere := l.subcommands.findSome? fun c =>
      match (Similarity.suggest name (c.options.map (·.long))).getLast? with
      | some flag => if rest.contains c.name then some (c.name ++ " --" ++ flag) else none
      | none => none
    .refused ⟨message, (elsewhere.map fun e => ["'" ++ e ++ "' exists"]).getD [],
      some (l.usageWith s.used), true⟩

/-- The refusal of an unknown letter form. -/
def unknownShort (l : Level) (c : Char) : Halt :=
  .refused ⟨"unexpected argument '-" ++ c.toString ++ "' found", [], some l.usage, true⟩

/-- The refusal of a value attached to an option that takes none. The pending option is not
complete yet; once one of the command's own options is, the usage line shows them as a group. -/
def unwantedValue (l : Level) (s : Scan) (o : Opt) (v : String) : Halt :=
  .refused ⟨"unexpected value '" ++ v ++ "' for '" ++ o.display ++ "' found; no more were expected",
    [], some (if s.given.isEmpty then l.usageWith [o] else l.command.usageWithGroup l.path [o]),
    true⟩

/-- The refusal of a word that is neither an option nor a subcommand. -/
def stray (l : Level) (w : String) : Halt :=
  if l.subcommands.isEmpty then
    .refused ⟨"unexpected argument '" ++ w ++ "' found", [], some l.usage, true⟩
  else
    .refused ⟨"unrecognized subcommand '" ++ w ++ "'",
      similarCommands (Similarity.suggest w (l.subcommands.map (·.name))), some l.usage, true⟩

/-- The refusal of a word after `--`: a subcommand's name is pointed out as one. -/
def strayAfterEscape (l : Level) (w : String) : Halt :=
  if l.subcommands.any (·.name == w) then
    .refused ⟨"unexpected argument '" ++ w ++ "' found",
      ["subcommand '" ++ w ++ "' exists; to use it, remove the '--' before it"], some l.usage, true⟩
  else l.stray w

/-- Reads the letters of one `-abc` word. -/
def readLetters (l : Level) (s : Scan) : List Char → Except Halt Scan
  | [] => .ok s
  | c :: more =>
    match l.findShort c with
    | none => .error (l.unknownShort c)
    | some o =>
      if o.takesValue then
        if more.isEmpty then do
          let s ← l.settle s
          .ok { s with pending := some (o, none) }
        else
          let v := if more.head? == some '=' then more.drop 1 else more
          l.take s o (some (String.ofList v))
      else do
        let s ← l.take s o none
        l.readLetters s more

/-- Splits `name=value` at the first `=`. -/
def splitValue (body : String) : String × Option String :=
  match body.toList.span (· != '=') with
  | (name, []) => (String.ofList name, none)
  | (name, _ :: value) => (String.ofList name, some (String.ofList value))

end Level

/-- What reading one command's words ends with. -/
inductive Reading where
  /-- Every word was read. -/
  | finished (s : Scan)
  /-- A subcommand starts; the remaining words are its own. -/
  | descended (s : Scan) (sub : Command) (rest : List String)
  deriving DecidableEq, Inhabited

namespace Level

/-- Reads a command's words; `helpFor` answers the `help` subcommand. -/
def read (l : Level) (helpFor : List String → Halt) (s : Scan) : List String → Except Halt Reading
  | [] => .ok (.finished s)
  | w :: rest =>
    let commandPlace := !s.escaped && !s.waiting && !l.subcommands.isEmpty
    if commandPlace && w == helpCommand.name then .error (helpFor rest)
    else
      match (if commandPlace then l.subcommands.find? (·.name == w) else none) with
      | some sub => .ok (.descended s sub rest)
      | none =>
        if s.escaped then .error (l.strayAfterEscape w)
        else if w == "--" then l.read helpFor { s with escaped := true } rest
        else if w.startsWith "--" then
          let (name, attached) := splitValue (String.ofList (w.toList.drop 2))
          match l.findLong name with
          | none => .error (l.unknownLong s name rest)
          | some o =>
            match o.takesValue, attached with
            | true, some v => do
              let s ← l.take s o (some v)
              l.read helpFor s rest
            | true, none => do
              let s ← l.settle s
              l.read helpFor { s with pending := some (o, none) } rest
            | false, some v => .error (l.unwantedValue s o v)
            | false, none => do
              let s ← l.take s o none
              l.read helpFor s rest
        else if w.startsWith "-" && w.length > 1 then do
          let s ← l.readLetters s (w.toList.drop 1)
          l.read helpFor s rest
        else
          match s.pending with
          | some (o, none) => l.read helpFor { s with pending := some (o, some w) } rest
          | _ => .error (l.stray w)

/-- Completes the last option, checks that every required option was given, and returns the
values of all options, defaults included, by long form. -/
def finish (l : Level) (s : Scan) : Except Halt (List (String × String)) := do
  let s ← l.settle s
  let missing := l.command.options.filter fun o => o.isRequired && !s.used.contains o
  if !missing.isEmpty then
    throw (.refused ⟨"the following required arguments were not provided:" ++
      String.join (missing.map fun o => "\n  " ++ o.display), [],
      some (l.usageWith (s.used ++ missing)), true⟩)
  let defaults := l.command.options.filterMap fun o =>
    if s.used.contains o then none else o.default?.map (o.long, ·)
  pure (s.given.map (fun (o, v) => (o.long, v)) ++ defaults)

end Level

/-- A command line that was read: the top command's values and, if one was named, the
subcommand with its values. -/
structure Invocation where
  top : List (String × String)
  sub : Option (String × List (String × String))
  deriving DecidableEq, Inhabited

namespace Program

/-- The top command as a level. -/
def level (p : Program) : Level := ⟨p.top, p.top.name, p.commands, p.topPage, p.versionText⟩

/-- A subcommand as a level. -/
def levelOf (p : Program) (c : Command) : Level := ⟨c, p.pathOf c, [], p.pageOf c, ""⟩

/-- The `help` subcommand: the page of the command named by `names`. -/
def helpFor (p : Program) : List String → Halt
  | [] => .shown p.topPage
  | n :: more =>
    match p.commands.find? (·.name == n) with
    | none => .refused ⟨"unrecognized subcommand '" ++ n ++ "'", [], some p.topUsage, true⟩
    | some c =>
      match more with
      | [] => .shown (p.pageOf c)
      | m :: _ =>
        .refused ⟨"unrecognized subcommand '" ++ m ++ "'", [], some (p.usageOf c),
          c.name != helpCommand.name⟩

/-- Reads a command line. -/
def parse (p : Program) (words : List String) : Except Halt Invocation := do
  match ← p.level.read p.helpFor .start words with
  | .finished s => pure ⟨← p.level.finish s, none⟩
  | .descended s sub rest =>
    let l := p.levelOf sub
    let inner ← match ← l.read p.helpFor .start rest with
      | .finished t => l.finish t
      | .descended t _ _ => l.finish t
    pure ⟨← p.level.finish s, some (sub.name, inner)⟩

end Program

end Cli

end AddressLeasing
