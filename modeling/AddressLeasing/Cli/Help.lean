import AddressLeasing.Cli.Spec
import AddressLeasing.Text.Quoted
/-!
# Help pages, usage lines and refusals

A help page says what the command is for, how it is used, and then lists its subcommands, its
arguments and its options, each in a column wide enough for the longest entry plus two spaces.
An option's line gives its letter form (or room for one), its long form with placeholder, and
its help followed by its default.

A usage line names the command, then `[OPTIONS]` if some option may be left out, then the
options that may not, then `[COMMAND]` if subcommands may follow. When a command line is
refused for what it contains, the usage line lists instead the required options and those that
were given.

A refusal prints `error:` and the reason, any tips, the usage line, and the pointer to
`--help`.
-/

set_option autoImplicit false

namespace AddressLeasing

namespace Cli

/-- `n` spaces. -/
def spaces (n : Nat) : String := String.ofList (List.replicate n ' ')

/-- The text without the blanks at its end. -/
def trimEnd (s : String) : String :=
  String.ofList (s.toList.reverse.dropWhile Char.isWhitespace).reverse

/-- Keeps the first occurrence of each element. -/
def firstOccurrences {α : Type} [BEq α] (xs : List α) : List α :=
  xs.foldl (fun acc x => if acc.contains x then acc else acc ++ [x]) []

namespace Opt

/-- The letter form and long form as a help page shows them: `-c, --config <CONFIG>`, or four
spaces in place of a missing letter form. -/
def shown (o : Opt) : String :=
  (match o.short with
    | some c => "-" ++ c.toString ++ ", "
    | none => "    ") ++ o.display

/-- The help text with the default, if any: `[default: config.json]`. A default with blanks
is quoted. -/
def described (o : Opt) : String :=
  match o.default? with
  | none => o.help
  | some d =>
    let d := if d.any Char.isWhitespace then Quoted.quote d else d
    let spec := "[default: " ++ d ++ "]"
    if o.help.isEmpty then spec else o.help ++ " " ++ spec

end Opt

/-- Lines of two columns: the first column as wide as its longest entry, and at least two,
then two spaces. -/
def columns (rows : List (String × String)) : List String :=
  let width := rows.foldl (fun w r => max w r.1.length) 2
  rows.map fun (a, b) => "  " ++ a ++ spaces (width + 2 - a.length) ++ b

/-- The options section's lines. -/
def optionLines (opts : List Opt) : List String := columns (opts.map fun o => (o.shown, o.described))

/-- A page: the about line, the usage line, and the non-empty sections, ending in one newline. -/
def page (about usage : String) (sections : List (String × List String)) : String :=
  let shown := sections.filter fun s => !s.2.isEmpty
  let body := "\n\n".intercalate (shown.map fun (h, ls) => h ++ ":\n" ++ "\n".intercalate ls)
  trimEnd (about ++ "\n\nUsage: " ++ usage ++ (if body.isEmpty then "" else "\n\n" ++ body)) ++
    "\n"

namespace Command

/-- Whether some option other than help and version may be left out. -/
def hasOptional (c : Command) : Bool :=
  c.options.any fun o =>
    !o.isRequired &&
      match o.role with
      | .help | .version => false
      | _ => true

/-- The usage line of a command reached by the words `path`. -/
def usage (c : Command) (path : String) (hasSubcommands : Bool) : String :=
  " ".intercalate ([path] ++ (if c.hasOptional then ["[OPTIONS]"] else []) ++
    (c.options.filter (·.isRequired)).map (·.display) ++
    (if hasSubcommands then ["[COMMAND]"] else []))

/-- The usage line that lists the required options and then those in `used`; the plain usage
line when `used` is empty. -/
def usageWith (c : Command) (path : String) (hasSubcommands : Bool) (used : List Opt) :
    String :=
  if used.isEmpty then c.usage path hasSubcommands
  else
    " ".intercalate (path :: firstOccurrences
      ((c.options.filter (·.isRequired) ++ used).map (·.display)))

/-- Whether `o` is one of the command's own options, rather than help or version. -/
def owns (c : Command) (o : Opt) : Bool :=
  c.options.contains o &&
    match o.role with
    | .help | .version => false
    | _ => true

/-- The command's own options as one group: `<--a <A>|--b>`. -/
def group (c : Command) : String :=
  "<" ++ "|".intercalate ((c.options.filter c.owns).map (·.display)) ++ ">"

/-- The usage line that lists the options of `used` that are not the command's own, and then
the group of its own options, which stands for the required ones too. -/
def usageWithGroup (c : Command) (path : String) (used : List Opt) : String :=
  " ".intercalate (path :: firstOccurrences ((used.filter fun o => !c.owns o).map (·.display)) ++
    [c.group])

end Command

/-- Why a command line is refused, and what is printed with it. -/
structure Refusal where
  message : String
  tips : List String
  usage : Option String
  /-- Whether the command has a help option to point to. -/
  hint : Bool
  deriving DecidableEq, Inhabited

/-- The refusal as printed. -/
def Refusal.render (r : Refusal) : String :=
  "error: " ++ r.message ++
    (if r.tips.isEmpty then "" else "\n\n" ++ "\n".intercalate (r.tips.map ("  tip: " ++ ·))) ++
    (match r.usage with
      | some u => "\n\nUsage: " ++ u
      | none => "") ++
    (if r.hint then "\n\nFor more information, try '--help'.\n" else "\n")

/-- The tip naming the commands that look like a mistyped one. -/
def similarCommands : List String → List String
  | [] => []
  | [c] => ["a similar subcommand exists: '" ++ c ++ "'"]
  | cs => ["some similar subcommands exist: " ++ ", ".intercalate (cs.map fun c => "'" ++ c ++ "'")]

namespace Program

/-- The top command's usage line. -/
def topUsage (p : Program) : String := p.top.usage p.top.name true

/-- The words that reach a subcommand. -/
def pathOf (p : Program) (c : Command) : String := p.top.name ++ " " ++ c.name

/-- A subcommand's usage line; the `help` subcommand takes command names. -/
def usageOf (p : Program) (c : Command) : String :=
  if c.name == helpCommand.name then p.pathOf c ++ " [COMMAND]..."
  else c.usage (p.pathOf c) false

/-- The top command's help page. -/
def topPage (p : Program) : String :=
  page p.top.about p.topUsage
    [("Commands", columns (p.commands.map fun c => (c.name, c.about))),
      ("Options", optionLines p.top.options)]

/-- A subcommand's help page. -/
def pageOf (p : Program) (c : Command) : String :=
  if c.name == helpCommand.name then
    page c.about (p.usageOf c)
      [("Arguments", columns [("[COMMAND]...", "Print help for the subcommand(s)")])]
  else page c.about (p.usageOf c) [("Options", optionLines c.options)]

/-- What the version option prints. -/
def versionText (p : Program) : String := p.top.name ++ " " ++ p.version ++ "\n"

end Program

end Cli

end AddressLeasing
