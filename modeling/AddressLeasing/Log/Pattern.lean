import AddressLeasing.Text.Letters
/-!
# Patterns

A field value in a log filter that is neither a boolean nor a number is a pattern: a regular
expression, compiled to a deterministic automaton. This module decides whether a pattern
compiles, and if not, why. A pattern compiles when it reads, when each of its parts means
something the compiler can build without Unicode tables, when it nests at most 250 deep, and
when it tests no Unicode word boundary.

## Reading

* `(` opens a capturing group and `)` closes it. `(?P<name>` and `(?<name>` open named groups;
  a name starts with `_` or a letter, goes on with letters, digits, `_`, `.`, `[` and `]`, and
  is used once. `(?flags:` opens a group with flags and `(?flags)` sets them until the end of
  the enclosing group; the flags are `i m s U u x R`, each at most once, with at most one `-`
  before those that are turned off, and some flag after it. `(?)` sets nothing and is
  refused. Look-around, `(?=`, `(?!`, `(?<=` and `(?<!`, is refused.
* `|` separates alternatives.
* `*`, `+`, `?` and the counts `{n}`, `{n,}`, `{n,m}` (`n ≤ m`, below 2³², blanks allowed
  around the numbers) repeat what stands before them, which must be something: not the start
  of the pattern, of a group or of an alternative, and not a flag setting. A `?` after a
  repetition makes it lazy.
* `[` opens a class: an optional `^`, then any number of `-` and, if there are none, a `]`,
  all standing for themselves, then members up to the closing `]`. A member is a character,
  an escape, a range `a-z` between two characters that does not run backwards, a nested
  class, or `[:name:]` for one of the fourteen ASCII classes. `&&`, `--` and `~~` combine the
  members before and after them.
* `\` escapes: a meta character or any other ASCII character that is not a letter, a digit,
  `<` or `>` stands for itself; `\a \f \t \n \r \v` are the usual controls; `\xNN`, `\uNNNN`,
  `\UNNNNNNNN` and `\x{…}` name a character; `\d \s \w` and their negations `\D \S \W` are
  classes, and so are `\pX`, `\p{…}` and their negations; `\A \z` are the ends of the text and
  `\b \B \< \>`, `\b{start}`, `\b{end}`, `\b{start-half}`, `\b{end-half}` word boundaries. A
  digit would be a back reference and is refused.
* With the flag `x`, blanks and `#` comments up to the end of the line are skipped.

## Meaning

With Unicode on (the default, flag `u`), the classes `\d \s \w`, their negations and the
Unicode classes need tables the compiler does not have, and so does ignoring case: any
character or class under the flag `i` is refused. With Unicode off, every part must match
ASCII or whole characters only, since the text searched is UTF-8: `.`, negated classes, the
negated Perl classes and `\xNN` above `7F` are refused, and so is a character beyond ASCII in
a class; the Unicode classes are refused too.

## Depth

Each group, repetition, class, set operation, and each concatenation or alternation of two or
more parts adds one level; characters, escapes and flag settings add none.
-/

set_option autoImplicit false

namespace AddressLeasing.Log

/-- Why a pattern does not compile. -/
inductive PatternFault where
  /-- The pattern does not read, means something the compiler cannot build, or nests too
  deep. -/
  | unreadable
  /-- The pattern tests a Unicode word boundary. -/
  | wordBoundary
  deriving DecidableEq, Inhabited

/-- The fault as the filter reports it. -/
def PatternFault.message : PatternFault → String
  | .unreadable => "error building NFA"
  | .wordBoundary =>
    "unsupported regex feature for DFAs: cannot build DFAs for regexes with Unicode word " ++
      "boundaries; switch to ASCII word boundaries, or heuristically enable Unicode word " ++
      "boundaries or use a different regex engine"

namespace Pattern

/-- The deepest nesting a pattern may have. -/
def nestLimit : Nat := 250

/-- The largest count a repetition may give. -/
def countLimit : Nat := 4294967295

/-- The flags that change what a pattern reads as or means. -/
structure Flags where
  /-- `i`: case is ignored. -/
  caseless : Bool
  /-- `u`: characters are Unicode characters rather than bytes. -/
  unicode : Bool
  /-- `x`: blanks and comments are skipped. -/
  verbose : Bool
  deriving DecidableEq, Inhabited

/-- The flags a pattern starts with. -/
def Flags.initial : Flags := ⟨false, true, false⟩

/-- The flags after setting flag `c` to `on`; the others change nothing here. -/
def Flags.set (f : Flags) (c : Char) (on : Bool) : Flags :=
  if c == 'i' then { f with caseless := on }
  else if c == 'u' then { f with unicode := on }
  else if c == 'x' then { f with verbose := on }
  else f

/-- Skips blanks and `#` comments; `inComment` while inside a comment. -/
def skipBlanks : Bool → List Char → List Char
  | _, [] => []
  | true, c :: rest => if c == '\n' then skipBlanks false rest else skipBlanks true rest
  | false, c :: rest =>
    if Letters.isWhitespace c then skipBlanks false rest
    else if c == '#' then skipBlanks true rest
    else c :: rest

/-- Skips what the flag `x` skips, if it is on. -/
def skipSpace (verbose : Bool) (cs : List Char) : List Char :=
  if verbose then skipBlanks false cs else cs

/-- Characters with a meaning of their own. -/
def isMeta (c : Char) : Bool := "\\.+*?()|[]\x7b\x7d^$#&-~".toList.contains c

/-- Characters that may follow `\` and stand for themselves. -/
def isEscapable (c : Char) : Bool :=
  isMeta c || (c.toNat < 128 && !c.isAlphanum && c != '<' && c != '>')

def isHex (c : Char) : Bool :=
  c.isDigit || ('a' ≤ c && c ≤ 'f') || ('A' ≤ c && c ≤ 'F')

/-- The value of hexadecimal digits. -/
def hexValue (ds : List Char) : Nat :=
  ds.foldl (fun n c => 16 * n + (if c.isDigit then c.toNat - 48
    else if 'a' ≤ c && c ≤ 'f' then c.toNat - 87 else c.toNat - 55)) 0

/-- The character a number names: at most `0x10FFFF`, and not a surrogate. -/
def charOf? (n : Nat) : Option Char :=
  if n.isValidChar then some (Char.ofNat n) else none

/-- Reads exactly `n` hexadecimal digits, blanks skipped after each under the flag `x`. -/
def hexFixed (verbose : Bool) : Nat → List Char → List Char → Option (List Char × List Char)
  | 0, acc, cs => some (acc.reverse, cs)
  | n + 1, acc, cs =>
    match cs with
    | d :: rest => if isHex d then hexFixed verbose n (d :: acc) (skipSpace verbose rest) else none
    | [] => none

/-- Reads hexadecimal digits up to a `}`, which is consumed. -/
def hexBraced (verbose : Bool) : List Char → List Char → Option (List Char × List Char)
  | _, [] => none
  | acc, c :: rest =>
    if verbose && Letters.isWhitespace c then hexBraced verbose acc rest
    else if c == '\x7d' then some (acc.reverse, skipSpace verbose rest)
    else if isHex c then hexBraced verbose (c :: acc) rest
    else none

/-- Reads letters and `-` of a special word boundary's name up to its `}`, which is
consumed. -/
def boundaryName (verbose : Bool) : List Char → List Char → Option (List Char × List Char)
  | _, [] => none
  | acc, c :: rest =>
    if verbose && Letters.isWhitespace c then boundaryName verbose acc rest
    else if c == '\x7d' then some (acc.reverse, rest)
    else if c.isAlpha || c == '-' then boundaryName verbose (c :: acc) rest
    else none

/-- What an escape stands for. Unicode classes are not listed: no build can use them. -/
inductive Escape where
  /-- One character; `byte` when it was written as `\xNN`. -/
  | literal (c : Char) (byte : Bool)
  /-- `\d`, `\s`, `\w`, or a negation of one. -/
  | perl (negated : Bool)
  /-- An assertion; `boundary` for the word boundaries. -/
  | assertion (boundary : Bool)
  deriving DecidableEq, Inhabited

/-- Reads an escape after its `\`. -/
def escape (verbose : Bool) : List Char → Option (Escape × List Char)
  | [] => none
  | c :: cs =>
    if c.isDigit || c == 'p' || c == 'P' then none
    else if c == 'x' || c == 'u' || c == 'U' then
      let digits := if c == 'x' then 2 else if c == 'u' then 4 else 8
      match skipSpace verbose cs with
      | '\x7b' :: more => do
        let (ds, rest) ← hexBraced verbose [] (skipSpace verbose more)
        if ds.isEmpty then none
        else
          let ch ← charOf? (hexValue ds)
          pure (.literal ch false, rest)
      | more => do
        let (ds, rest) ← hexFixed verbose digits [] more
        let ch ← charOf? (hexValue ds)
        pure (.literal ch (c == 'x'), rest)
    else if c == 'd' || c == 's' || c == 'w' then some (.perl false, cs)
    else if c == 'D' || c == 'S' || c == 'W' then some (.perl true, cs)
    else if isEscapable c then some (.literal c false, cs)
    else if c == 'a' then some (.literal '\x07' false, cs)
    else if c == 'f' then some (.literal '\x0C' false, cs)
    else if c == 't' then some (.literal '\t' false, cs)
    else if c == 'n' then some (.literal '\n' false, cs)
    else if c == 'r' then some (.literal '\r' false, cs)
    else if c == 'v' then some (.literal '\x0B' false, cs)
    else if c == 'A' || c == 'z' then some (.assertion false, cs)
    else if c == 'B' || c == '<' || c == '>' then some (.assertion true, cs)
    else if c == 'b' then
      match cs with
      | '\x7b' :: more =>
        match skipSpace verbose more with
        | [] => none
        | d :: _ =>
          if d.isAlpha || d == '-' then do
            let (name, rest) ← boundaryName verbose [] (skipSpace verbose more)
            if ["start", "end", "start-half", "end-half"].contains (String.ofList name) then
              pure (.assertion true, rest)
            else none
          else some (.assertion true, cs)
      | _ => some (.assertion true, cs)
    else none

/-- The names of the ASCII classes. -/
def asciiNames : List String :=
  ["alnum", "alpha", "ascii", "blank", "cntrl", "digit", "graph", "lower", "print", "punct",
    "space", "upper", "word", "xdigit"]

/-- Reads `:name:]` after a `[` inside a class: whether the ASCII class is negated, and the
rest. Anything else is no ASCII class, and the `[` opens a nested class. -/
def asciiClass : List Char → Option (Bool × List Char)
  | ':' :: more =>
    let (negated, more) := match more with
      | '^' :: m => (true, m)
      | m => (false, m)
    let name := more.takeWhile (· != ':')
    match more.drop name.length with
    | ':' :: ']' :: rest =>
      if asciiNames.contains (String.ofList name) then some (negated, rest) else none
    | _ => none
  | _ => none

/-- The height of a union of class members: nothing and a single member add no level. -/
def unionHeight (hs : List Nat) : Nat :=
  match hs with
  | [] => 0
  | [h] => h
  | _ => 1 + hs.foldl max 0

/-- The height of a class's members: their union, combined with what stands before the last
set operation, if there is one. -/
def setHeight (lhs : Option Nat) (union : List Nat) : Nat :=
  match lhs with
  | none => unionHeight union
  | some l => 1 + max l (unionHeight union)

/-- Whether a character may stand in a class under flags `f`: without Unicode, only an ASCII
one. -/
def classChar (f : Flags) (c : Char) : Bool := f.unicode || c.toNat < 128

/-- Whether an escape may stand alone in a class under flags `f`. -/
def classEscape (f : Flags) : Escape → Bool
  | .literal c _ => classChar f c
  | .perl negated => !f.unicode && !negated
  | .assertion _ => false

/-- Reads one character or escape of a class. -/
def classAtom (f : Flags) : List Char → Option (Escape × List Char)
  | '\\' :: more => escape f.verbose more
  | c :: more => some (.literal c false, more)
  | [] => none

/-- Reads a member that is a character, an escape or a range. -/
def classRange (f : Flags) (cs : List Char) : Option (List Char) := do
  let (first, rest) ← classAtom f cs
  let rest := skipSpace f.verbose rest
  match rest with
  | [] => none
  | '-' :: after =>
    let after := skipSpace f.verbose after
    match after with
    | ']' :: _ | '-' :: _ => if classEscape f first then pure rest else none
    | _ => do
      let (last, rest) ← classAtom f after
      match first, last with
      | .literal lo _, .literal hi _ =>
        if lo ≤ hi && classChar f lo && classChar f hi then pure rest else none
      | _, _ => none
  | _ => if classEscape f first then pure rest else none

mutual

/-- Reads a class after its `[`, up to and including its `]`: the rest, the height of the
class, and whether it has members. Without Unicode a negated class is refused. -/
def bracketed (f : Flags) : Nat → List Char → Option (List Char × Nat × Bool)
  | 0, _ => none
  | fuel + 1, cs =>
    match skipSpace f.verbose cs with
    | '^' :: more => if f.unicode then opening f fuel (skipSpace f.verbose more) 0 else none
    | more => opening f fuel more 0

/-- Reads the `-` and `]` that open a class and stand for themselves; `dashes` counts the
dashes read. -/
def opening (f : Flags) : Nat → List Char → Nat → Option (List Char × Nat × Bool)
  | 0, _, _ => none
  | fuel + 1, cs, dashes =>
    match cs with
    | '-' :: more => opening f fuel (skipSpace f.verbose more) (dashes + 1)
    | ']' :: more =>
      if dashes == 0 then members f fuel (skipSpace f.verbose more) [0] none true
      else members f fuel cs (List.replicate dashes 0) none true
    | _ => members f fuel cs (List.replicate dashes 0) none (dashes != 0)

/-- Reads the members of a class up to and including its `]`. `union` holds the heights of
the members since the last set operation, latest first, `lhs` the height of what stands
before that operation, and `has` whether any member was read. -/
def members (f : Flags) : Nat → List Char → List Nat → Option Nat → Bool →
    Option (List Char × Nat × Bool)
  | 0, _, _, _, _ => none
  | fuel + 1, cs, union, lhs, has =>
    match skipSpace f.verbose cs with
    | [] => none
    | ']' :: rest => some (rest, 1 + setHeight lhs union, has)
    | '&' :: '&' :: rest | '-' :: '-' :: rest | '~' :: '~' :: rest =>
      members f fuel rest [] (some (setHeight lhs union)) has
    | '[' :: rest =>
      match asciiClass rest with
      | some (negated, rest) =>
        if negated && !f.unicode then none else members f fuel rest (0 :: union) lhs true
      | none =>
        match bracketed f fuel rest with
        | some (rest, h, inner) => members f fuel rest (h :: union) lhs (has || inner)
        | none => none
    | more =>
      match classRange f more with
      | some rest => members f fuel rest (0 :: union) lhs true
      | none => none

end

/-- One part of a concatenation: its height, and whether it only sets flags. -/
structure Piece where
  height : Nat
  setsFlags : Bool
  deriving DecidableEq, Inhabited

/-- The height of a concatenation, latest part first: nothing and a single part add no
level. -/
def concatHeight (ps : List Piece) : Nat :=
  match ps with
  | [] => 0
  | [p] => p.height
  | _ => 1 + (ps.map (·.height)).foldl max 0

/-- The height of an alternation whose finished branches have heights `branches` and whose
last branch has height `last`: a single branch adds no level. -/
def alternationHeight (branches : List Nat) (last : Nat) : Nat :=
  match branches with
  | [] => last
  | _ => 1 + max last (branches.foldl max 0)

/-- A group being read: the concatenation and alternation around it, and the flags to
restore when it closes. -/
structure Frame where
  pieces : List Piece
  branches : List Nat
  flags : Flags
  deriving DecidableEq, Inhabited

/-- What has been read of a pattern. -/
structure State where
  /-- The current concatenation, latest part first. -/
  pieces : List Piece
  /-- The heights of the finished branches of the current alternation. -/
  branches : List Nat
  /-- The open groups, innermost first. -/
  frames : List Frame
  flags : Flags
  /-- The group names used. -/
  names : List String
  /-- Whether a Unicode word boundary was read. -/
  boundary : Bool
  deriving DecidableEq, Inhabited

namespace State

def start : State := ⟨[], [], [], Flags.initial, [], false⟩

/-- Adds a part that nothing nests in. -/
def leaf (s : State) : State := { s with pieces := ⟨0, false⟩ :: s.pieces }

/-- Repeats the last part, which must be there and must not only set flags. -/
def repeatLast (s : State) : Option State :=
  match s.pieces with
  | p :: ps => if p.setsFlags then none else some { s with pieces := ⟨p.height + 1, false⟩ :: ps }
  | [] => none

/-- Opens a group with flags `f`. -/
def openGroup (s : State) (f : Flags) : State :=
  { s with pieces := [], branches := [], frames := ⟨s.pieces, s.branches, s.flags⟩ :: s.frames,
           flags := f }

/-- Closes the innermost group, which must be open. -/
def closeGroup (s : State) : Option State :=
  match s.frames with
  | fr :: frs =>
    let inner := alternationHeight s.branches (concatHeight s.pieces)
    some { s with pieces := ⟨inner + 1, false⟩ :: fr.pieces, branches := fr.branches,
                  frames := frs, flags := fr.flags }
  | [] => none

/-- The height of the whole pattern, once every group is closed. -/
def height? (s : State) : Option Nat :=
  if s.frames.isEmpty then some (alternationHeight s.branches (concatHeight s.pieces)) else none

end State

/-- Reads the flags of `(?` up to `:` or `)`: each flag with the value it is set to, the
character that ends them, and the rest. `negated` once a `-` was read, `afterDash` right
after it. -/
def readFlags : List Char → Bool → Bool → List (Char × Bool) →
    Option (List (Char × Bool) × Char × List Char)
  | [], _, _, _ => none
  | c :: rest, negated, afterDash, seen =>
    if c == ':' || c == ')' then
      if afterDash then none else some (seen.reverse, c, rest)
    else if c == '-' then
      if negated then none else readFlags rest true true seen
    else if "imsUuxR".toList.contains c then
      if seen.any (·.1 == c) then none else readFlags rest negated false ((c, !negated) :: seen)
    else none

/-- Whether a group name is well formed. -/
def isGroupName : List Char → Bool
  | first :: more =>
    (first == '_' || Letters.isAlphabetic first) &&
      more.all fun c => c == '_' || c == '.' || c == '[' || c == ']' || Letters.isAlphanumeric c
  | [] => false

/-- Reads a group name after its `<`, up to and including its `>`. -/
def groupName (cs : List Char) : Option (String × List Char) :=
  let name := cs.takeWhile (· != '>')
  match cs.drop name.length with
  | '>' :: rest => if isGroupName name then some (String.ofList name, rest) else none
  | _ => none

/-- Reads a decimal count, with blanks around it: the number, if there are digits, and the
rest. -/
def decimal (verbose : Bool) (cs : List Char) : Option Nat × List Char :=
  let cs := cs.dropWhile Letters.isWhitespace
  let ds := cs.takeWhile Char.isDigit
  let rest := skipSpace verbose ((cs.drop ds.length).dropWhile Letters.isWhitespace)
  if ds.isEmpty then (none, rest)
  else (some (ds.foldl (fun n c => 10 * n + (c.toNat - 48)) 0), rest)

/-- Reads a counted repetition after its `{`, up to and including its `}` and a `?` that
makes it lazy. -/
def counted (verbose : Bool) (cs : List Char) : Option (List Char) := do
  let (least, rest) := decimal verbose (skipSpace verbose cs)
  let n ← least
  let rest ← match rest with
    | ',' :: more =>
      match skipSpace verbose more with
      | '\x7d' :: after => if n ≤ countLimit then some after else none
      | more =>
        match decimal verbose more with
        | (some m, '\x7d' :: after) => if n ≤ m && m ≤ countLimit then some after else none
        | _ => none
    | '\x7d' :: after => if n ≤ countLimit then some after else none
    | _ => none
  match skipSpace verbose rest with
  | '?' :: after => pure after
  | after => pure after

/-- Drops the `?` that makes a repetition lazy. -/
def lazy : List Char → List Char
  | '?' :: rest => rest
  | cs => cs

/-- Whether character `c` may stand alone under flags `f`: ignoring case needs Unicode
tables, and without Unicode a byte above `7F` would not be UTF-8. -/
def charAllowed (f : Flags) (c : Char) (byte : Bool) : Bool :=
  !(f.caseless && f.unicode) && !(!f.unicode && byte && 128 ≤ c.toNat)

/-- Reads what follows a `(`: the state after it. -/
def group (s : State) (cs : List Char) : Option (State × List Char) :=
  match cs with
  | '?' :: '=' :: _ | '?' :: '!' :: _ | '?' :: '<' :: '=' :: _ | '?' :: '<' :: '!' :: _ => none
  | '?' :: 'P' :: '<' :: more | '?' :: '<' :: more => do
    let (name, rest) ← groupName more
    if s.names.contains name then none
    else pure ({ s.openGroup s.flags with names := name :: s.names }, rest)
  | '?' :: more => do
    let (items, stop, rest) ← readFlags more false false []
    let f := items.foldl (fun f (c, on) => f.set c on) s.flags
    if stop == ':' then pure (s.openGroup f, rest)
    else if items.isEmpty then none
    else pure ({ s with pieces := ⟨0, true⟩ :: s.pieces, flags := f }, rest)
  | _ => some (s.openGroup s.flags, cs)

/-- Reads a pattern from state `s`; `none` as soon as it does not read or means something
the compiler cannot build. -/
def scan : Nat → List Char → State → Option State
  | 0, _, _ => none
  | fuel + 1, cs, s =>
    match skipSpace s.flags.verbose cs with
    | [] => some s
    | c :: rest =>
      if c == '(' then do
        let (s, rest) ← group s (skipSpace s.flags.verbose rest)
        scan fuel rest s
      else if c == ')' then do
        let s ← s.closeGroup
        scan fuel rest s
      else if c == '|' then
        scan fuel rest { s with pieces := [], branches := concatHeight s.pieces :: s.branches }
      else if c == '*' || c == '+' || c == '?' then do
        let s ← s.repeatLast
        scan fuel (lazy rest) s
      else if c == '\x7b' then do
        let s ← s.repeatLast
        let rest ← counted s.flags.verbose rest
        scan fuel rest s
      else if c == '[' then do
        let (rest, h, has) ← bracketed s.flags fuel rest
        if s.flags.caseless && s.flags.unicode && has then none
        else scan fuel rest { s with pieces := ⟨h, false⟩ :: s.pieces }
      else if c == '\\' then do
        let (e, rest) ← escape s.flags.verbose rest
        match e with
        | .literal ch byte =>
          if charAllowed s.flags ch byte then scan fuel rest s.leaf else none
        | .perl negated =>
          if s.flags.unicode || negated then none else scan fuel rest s.leaf
        | .assertion b =>
          scan fuel rest { s.leaf with boundary := s.boundary || (b && s.flags.unicode) }
      else if c == '.' then
        if s.flags.unicode then scan fuel rest s.leaf else none
      else if c == '^' || c == '$' then scan fuel rest s.leaf
      else if charAllowed s.flags c false then scan fuel rest s.leaf
      else none

end Pattern

/-- Why a pattern does not compile, or `none` if it does. Every step of the scan reads at
least one character, and a class spends at most two steps of fuel on each of its characters,
so four times the length gives enough fuel. -/
def Pattern.fault? (p : String) : Option PatternFault :=
  match Pattern.scan (4 * p.length + 4) p.toList Pattern.State.start with
  | none => some .unreadable
  | some s =>
    match s.height? with
    | none => some .unreadable
    | some h =>
      if Pattern.nestLimit < h then some .unreadable
      else if s.boundary then some .wordBoundary
      else none

end AddressLeasing.Log
