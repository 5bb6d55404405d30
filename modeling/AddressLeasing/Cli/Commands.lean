import AddressLeasing.Cli.Parse
import AddressLeasing.Config.Store
import AddressLeasing.Log.Directive
/-!
# The command line

The program answers to `serve` (the default), `show-config` and `acquire`, each reading the
server configuration from `--config` (default `config.json`) and filtering its log by
`--log-level` (default `info`).

`show-config` loads the configuration, creating the file with the defaults when it is missing,
and prints it as pretty JSON. A failure prints `Error:` and the error's diagnostic form on
standard error, with status 1. Help and version texts go to standard output with status 0; a
refused command line goes to standard error with status 2.

`serve` and `acquire` need network sockets; the pure part here decides that they were asked
for and with what, and leaves running them to the caller.
-/

set_option autoImplicit false

namespace AddressLeasing

open Cli

/-- The program's command line. -/
def commandLine : Program where
  top := ⟨"leasewire", "A DHCP-style address leasing server and client",
    [⟨some 'c', "config", .value "CONFIG" .path (some "config.json") false, ""⟩,
      ⟨some 'l', "log-level", .value "LOG_LEVEL" .text (some "info") false, ""⟩,
      Opt.helpOption, Opt.versionOption]⟩
  version := "0.1.0"
  subcommands :=
    [⟨"serve", "Run the server until interrupted", [Opt.helpOption]⟩,
      ⟨"show-config", "Print the server configuration", [Opt.helpOption]⟩,
      ⟨"acquire", "Acquire a lease from a server and print it",
        [⟨none, "hardware-address", .value "HARDWARE_ADDRESS" .text none true, ""⟩,
          ⟨none, "server", .value "SERVER" .endpoint none true, ""⟩,
          ⟨none, "bind", .value "BIND" .endpoint (some "0.0.0.0:68") false, ""⟩,
          ⟨none, "timeout-millis", .value "TIMEOUT_MILLIS" .count (some "2000") false, ""⟩,
          ⟨none, "release", .switch, "Release the lease right after acquiring it"⟩,
          Opt.helpOption]⟩]

/-- What the program is asked to do. -/
inductive Task where
  | serve
  | showConfig
  /-- Acquire a lease as `hardware` from `server`, listening at `bind`, and give it back at
  once if `release`. -/
  | acquire (hardware : String) (server bind : Endpoint) (timeoutMillis : Nat) (release : Bool)
  deriving DecidableEq, Inhabited

/-- A task with the configuration path and log filter it runs with. -/
structure Request where
  configPath : String
  logLevel : String
  task : Task
  deriving DecidableEq, Inhabited

/-- What a run prints and its exit status. -/
structure Report where
  status : Nat
  stdout : String
  stderr : String
  deriving DecidableEq, Inhabited

/-- What a command line comes to: something to print at once, or a request to carry out. -/
inductive Decision where
  | print (r : Report)
  | perform (r : Request)
  deriving DecidableEq, Inhabited

/-- The value of option `long` in `values`. -/
def valueOf (values : List (String × String)) (long : String) : String :=
  ((values.find? (·.1 == long)).map (·.2)).getD ""

/-- The count a checked decimal value stands for. -/
def countOf (s : String) : Nat :=
  (s.toList.filter Char.isDigit).foldl (fun n c => 10 * n + (c.toNat - '0'.toNat)) 0

/-- The task a command line names; `serve` when it names none. -/
def Task.ofInvocation (i : Invocation) : Task :=
  match i.sub with
  | some ("show-config", _) => .showConfig
  | some ("acquire", v) =>
    .acquire (valueOf v "hardware-address") ((Endpoint.parse? (valueOf v "server")).getD default)
      ((Endpoint.parse? (valueOf v "bind")).getD default) (countOf (valueOf v "timeout-millis"))
      (valueOf v "release" == "true")
  | _ => .serve

/-- Reads a command line. -/
def Decision.ofArgs (args : List String) : Decision :=
  match commandLine.parse args with
  | .error (.shown text) => .print ⟨0, text, ""⟩
  | .error (.refused r) => .print ⟨2, "", r.render⟩
  | .ok i => .perform ⟨valueOf i.top "config", valueOf i.top "log-level", .ofInvocation i⟩

/-- What is printed before a request runs: a warning for each directive of its log filter that
does not read. -/
def Request.warnings (r : Request) : String :=
  String.join ((Log.warnings r.logLevel).map (· ++ "\n"))

/-- Loads the configuration at `path` and prints it. -/
def showConfig {m : Type → Type} [Monad m] (ops : FileOps m) (path : String) : m Report := do
  match ← ServerConfig.loadOrCreateWith ops path with
  | .ok c => pure ⟨0, c.render ++ "\n", ""⟩
  | .error e => pure ⟨1, "", "Error: " ++ e.diagnostic ++ "\n"⟩

/-- Carries out a request that needs no network: `show-config`. The others give `none`. -/
def Request.runLocal {m : Type → Type} [Monad m] (ops : FileOps m) (r : Request) :
    m (Option Report) := do
  match r.task with
  | .showConfig =>
    let report ← showConfig ops r.configPath
    pure (some { report with stderr := r.warnings ++ report.stderr })
  | _ => pure none

end AddressLeasing
