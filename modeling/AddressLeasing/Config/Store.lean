import AddressLeasing.Config.Server
/-!
# Stored configurations

Configurations live in files. `ServerConfig.loadOrCreateWith` reads the configuration stored
at a path or, when nothing is there, stores the default configuration there and uses it. It
runs over any `FileOps`, so the same rule serves the real file system and the in-memory
`FileStore`.

A stored configuration is used only if it reads and passes `ServerConfig.validate`; a missing
one is created without a check, since the default is valid.

A `FileStore` stands for the working directory of a program that starts with nothing but the
files it is given. Paths are walked as the system walks them, part by part: relative ones
from the working directory, absolute ones from the root of a standard tree (`/tmp`, `/dev`,
`/dev/null` and the like). Doubled slashes change nothing and `.` stays where it is, but
every part before the last must be a directory, so `config.json/.` fails when `config.json`
is a file. The working directory holds no directories, and what lies above it is not known:
nothing is found there.
-/

set_option autoImplicit false

namespace AddressLeasing

/-- File operations in a monad `m`. -/
structure FileOps (m : Type → Type) where
  /-- The text of the file at a path, `none` when nothing is there. -/
  read : String → m (Except IoFault (Option String))
  /-- Replaces the file at a path with a text. -/
  write : String → String → m (Except IoFault Unit)

/-- A directory a path can lead through. -/
inductive Dir where
  /-- The working directory. -/
  | work
  /-- A directory above the working directory; what it holds is not known. -/
  | above
  /-- A directory of the standard tree, by its names from the root. -/
  | system (names : List String)
  deriving DecidableEq, Inhabited

/-- The directories of the standard tree below the root. -/
def systemDirectories : List (List String) :=
  [["bin"], ["boot"], ["dev"], ["dev", "shm"], ["etc"], ["home"], ["lib"], ["lib64"], ["media"],
    ["mnt"], ["opt"], ["proc"], ["root"], ["run"], ["sbin"], ["srv"], ["sys"], ["tmp"], ["usr"],
    ["usr", "bin"], ["usr", "lib"], ["usr", "local"], ["usr", "share"], ["var"], ["var", "log"],
    ["var", "tmp"]]

/-- The null device: it reads as empty and takes any text. -/
def nullDevice : List String := ["dev", "null"]

namespace Dir

/-- The directory a `..` leads to. The root is its own parent. -/
def parent : Dir → Dir
  | .work | .above => .above
  | .system names => .system names.dropLast

end Dir

/-- What a name in a directory stands for. -/
inductive Entry where
  | directory (d : Dir)
  /-- A file of the working directory. -/
  | stored (name : String)
  /-- The null device. -/
  | sink
  | missing
  deriving DecidableEq, Inhabited

/-- A path split at its slashes: whether it starts at the root, its parts without empty ones,
and whether it ends with a slash. -/
structure PathText where
  absolute : Bool
  parts : List String
  slashed : Bool
  deriving DecidableEq, Inhabited

/-- Reads a path. -/
def PathText.ofString (path : String) : PathText :=
  ⟨path.startsWith "/", (path.splitOn "/").filter (· != ""), path.endsWith "/"⟩

/-- Where a path ends. -/
inductive Target where
  /-- A directory: the root, or a path whose last part is `.` or `..`. -/
  | directory
  /-- The entry `name` of directory `d`; `slashed` when a slash follows the name. -/
  | entry (d : Dir) (name : String) (slashed : Bool)
  deriving DecidableEq, Inhabited

/-- Named files of a working directory, the latest write of each name first. -/
structure FileStore where
  files : List (String × String)
  deriving DecidableEq, Inhabited

namespace FileStore

def empty : FileStore := ⟨[]⟩

/-- The text stored under `name`. -/
def read? (s : FileStore) (name : String) : Option String :=
  (s.files.find? (·.1 == name)).map (·.2)

/-- Stores `text` under `name`, replacing what was there. -/
def write (s : FileStore) (name text : String) : FileStore :=
  ⟨(name, text) :: s.files.filter (·.1 != name)⟩

/-- What `name` stands for in directory `d`. The working directory holds only its files. -/
def entry (s : FileStore) (d : Dir) (name : String) : Entry :=
  match d with
  | .work => if (s.read? name).isSome then .stored name else .missing
  | .above => .missing
  | .system names =>
    if systemDirectories.contains (names ++ [name]) then .directory (.system (names ++ [name]))
    else if names ++ [name] == nullDevice then .sink
    else .missing

/-- Follows the parts of a path from directory `d`. Each part must lead to a directory: a
missing one fails as not found, and any other as not a directory. -/
def walk (s : FileStore) (d : Dir) : List String → Except IoFault Dir
  | [] => .ok d
  | p :: ps =>
    if p == "." then s.walk d ps
    else if p == ".." then s.walk d.parent ps
    else
      match s.entry d p with
      | .directory d' => s.walk d' ps
      | .missing => .error .notFound
      | _ => .error .notADirectory

/-- Where a path ends, after walking all of its parts but the last. The empty path leads
nowhere. -/
def target (s : FileStore) (path : String) : Except IoFault Target :=
  let t := PathText.ofString path
  let start : Dir := if t.absolute then .system [] else .work
  match t.parts.getLast? with
  | none => if t.absolute then .ok .directory else .error .notFound
  | some last =>
    if last == "." || last == ".." then do
      let _ ← s.walk start t.parts
      pure .directory
    else do
      let d ← s.walk start t.parts.dropLast
      pure (.entry d last t.slashed)

/-- Reads the file at `path`: `none` when nothing is there to read, as when a part of the path
is missing or is not a directory, or a slash follows a file. A directory is there but cannot
be read. -/
def readPath (s : FileStore) (path : String) : Except IoFault (Option String) :=
  match s.target path with
  | .error _ => .ok none
  | .ok .directory => .error .isADirectory
  | .ok (.entry d name slashed) =>
    match s.entry d name with
    | .directory _ => .error .isADirectory
    | .stored n => if slashed then .ok none else .ok (s.read? n)
    | .sink => if slashed then .ok none else .ok (some "")
    | .missing => .ok none

/-- Writes the file at `path`, creating it if it is missing. The parts before the last must
lead to directories. A directory cannot be written, and a name followed by a slash cannot be
created, so both fail as a directory; a new file outside the working directory is not kept. -/
def writePath (s : FileStore) (path text : String) : Except IoFault Unit × FileStore :=
  match s.target path with
  | .error f => (.error f, s)
  | .ok .directory => (.error .isADirectory, s)
  | .ok (.entry d name slashed) =>
    if slashed then (.error .isADirectory, s)
    else
      match s.entry d name with
      | .directory _ => (.error .isADirectory, s)
      | .stored n => (.ok (), s.write n text)
      | .sink => (.ok (), s)
      | .missing => (.ok (), if d == .work then s.write name text else s)

/-- The store's operations, over the store as state. -/
def ops : FileOps (StateM FileStore) where
  read path := do return (← get).readPath path
  write path text := modifyGet fun s => s.writePath path text

end FileStore

namespace ServerConfig

/-- Reads and checks the configuration stored at `path`; if there is none, stores the default
there and returns it. -/
def loadOrCreateWith {m : Type → Type} [Monad m] (ops : FileOps m) (path : String) :
    m (Except Error ServerConfig) := do
  match ← ops.read path with
  | .error f => pure (.error (.io f))
  | .ok (some text) => pure do
    let c ← parse text
    c.validate
    pure c
  | .ok none =>
    match ← ops.write path default.render with
    | .error f => pure (.error (.io f))
    | .ok () => pure (.ok default)

/-- `loadOrCreateWith` over a `FileStore`. -/
def loadOrCreate (s : FileStore) (path : String) : Except Error ServerConfig × FileStore :=
  (loadOrCreateWith FileStore.ops path).run s

end ServerConfig

end AddressLeasing
