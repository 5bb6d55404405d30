import AddressLeasing.Cli.Commands
/-!
# The program

Reads the command line, prints help pages, the version and refusals, and runs `show-config`
on the file system. Serving and acquiring need UDP sockets, which this build has no access
to; they end with a socket error once their configuration has been read.
-/

open AddressLeasing

/-- The fault of a failed file operation. -/
def faultOf : IO.Error → IoFault
  | .noFileOrDirectory .. => .notFound
  | .inappropriateType _ 20 _ => .notADirectory
  | .inappropriateType .. => .isADirectory
  | .permissionDenied .. => .os 13 .permissionDenied "Permission denied"
  | e => .custom .other (toString e)

/-- File operations on the file system. A file that is not UTF-8 cannot be read as text. -/
def fileOps : FileOps IO where
  read path := do
    try
      let bytes ← IO.FS.readBinFile path
      match String.fromUTF8? bytes with
      | some text => pure (.ok (some text))
      | none => pure (.error (.custom .invalidData "stream did not contain valid UTF-8"))
    catch e =>
      match e with
      | .noFileOrDirectory .. => pure (.ok none)
      | e => pure (.error (faultOf e))
  write path text := do
    try
      IO.FS.writeFile path text
      pure (.ok ())
    catch e => pure (.error (faultOf e))

/-- The report of a request that needs the network. -/
def networkReport (req : Request) : IO Report := do
  match req.task with
  | .serve =>
    match ← ServerConfig.loadOrCreateWith fileOps req.configPath with
    | .error e => pure ⟨1, "", req.warnings ++ "Error: " ++ e.diagnostic ++ "\n"⟩
    | .ok _ => pure ⟨1, "", req.warnings ++ "Error: Socket(\"UDP sockets are unavailable\")\n"⟩
  | _ => pure ⟨1, "", req.warnings ++ "Error: Socket(\"UDP sockets are unavailable\")\n"⟩

def main (args : List String) : IO UInt32 := do
  let report ← match Decision.ofArgs args with
    | .print r => pure r
    | .perform req => do
      match ← req.runLocal fileOps with
      | some r => pure r
      | none => networkReport req
  IO.print report.stdout
  IO.eprint report.stderr
  pure report.status.toUInt32
