import AddressLeasing.Net.Ipv4
import AddressLeasing.Text.Utf8
import AddressLeasing.Text.Duration
import AddressLeasing.Json.Error
/-!
# Errors

Every failure of the library is a value of `Error`, one constructor per cause, with the data
the report needs. The wording lives in one place, `Error.message`; the command line shows the
diagnostic form `Error.diagnostic`, which names the cause.

Three causes have a family of their own:
* `Malformation`: a message field that breaks the wire format. Each is reported against the
  field it concerns (`Malformation.field`), in the order the decoder checks them.
* `OptionFault`: an option that cannot be built.
* `ConfigFault`: a configuration value the server or client refuses.
-/

set_option autoImplicit false

namespace AddressLeasing

/-- The two text fields of a message, with their sizes on the wire. -/
inductive TextField where
  | sname
  | file
  deriving DecidableEq, Inhabited

namespace TextField

def name : TextField → String
  | .sname => "sname"
  | .file => "file"

/-- Bytes the field occupies: 64 for the server name, 128 for the boot file. -/
def size : TextField → Nat
  | .sname => 64
  | .file => 128

end TextField

/-- A message field that breaks the wire format. -/
inductive Malformation where
  /-- Fewer bytes than the header and cookie. -/
  | short (length : Nat)
  | cookie
  /-- An `op` byte that is neither request nor reply. -/
  | direction (value : UInt8)
  | hardwareType (value : UInt8)
  /-- A hardware address that is not 16 bytes. -/
  | chaddrLength (length : Nat)
  | notUtf8 (field : TextField) (error : Utf8Error)
  | nulInText (field : TextField)
  | textTooLong (field : TextField) (length : Nat)
  /-- An option code as the last byte of the region, with no length byte after it. -/
  | lengthByteMissing (code : UInt8) (offset : Nat)
  /-- An option whose content runs past the end of the region. -/
  | contentOverrun (code : UInt8) (offset : Nat) (length : Nat) (remaining : Nat)
  /-- An address or 32-bit option whose content is not 4 bytes. -/
  | notFourBytes (code : UInt8) (length : Nat)
  | unknownKind (value : UInt8)
  | kindWidth (length : Nat)
  deriving DecidableEq, Inhabited

namespace Malformation

/-- The field a malformation is reported against. -/
def field : Malformation → String
  | .short _ => "length"
  | .cookie => "cookie"
  | .direction _ => "op"
  | .hardwareType _ => "htype"
  | .chaddrLength _ => "chaddr"
  | .notUtf8 f _ | .nulInText f | .textTooLong f _ => f.name
  | .lengthByteMissing .. | .contentOverrun .. | .notFourBytes .. | .unknownKind _
  | .kindWidth _ => "options"

/-- Why the field is refused. -/
def reason : Malformation → String
  | .short n => s!"{n} bytes is shorter than the 240-byte header"
  | .cookie => "invalid magic cookie"
  | .direction v => s!"{v} is not 1 or 2"
  | .hardwareType v => s!"{v} is not an allowed hardware type"
  | .chaddrLength n => s!"must be 16 bytes, got {n}"
  | .notUtf8 _ e => "not valid UTF-8: " ++ e.message
  | .nulInText _ => "must not contain NUL bytes"
  | .textTooLong f n => s!"{n} bytes exceeds the {f.size}-byte field"
  | .lengthByteMissing c i => s!"option {c} at offset {i} has no length byte"
  | .contentOverrun c i n r => s!"option {c} at offset {i} needs {n} bytes, {r} remain"
  | .notFourBytes c n => s!"option {c} must be 4 bytes, got {n}"
  | .unknownKind v => s!"unknown message type {v}"
  | .kindWidth n => s!"message type must be 1 byte, got {n}"

end Malformation

/-- An option that cannot be built. -/
inductive OptionFault where
  /-- Code 0 is padding, not an option. -/
  | padCode
  /-- Code 255 ends the options and carries nothing. -/
  | endWithContent
  | contentTooLong (code : UInt8) (length : Nat)
  deriving DecidableEq, Inhabited

def OptionFault.message : OptionFault → String
  | .padCode => "code 0 is reserved for padding"
  | .endWithContent => "end marker must have empty content"
  | .contentTooLong c n => s!"option {c} content is {n} bytes (maximum 255)"

/-- A configuration value that is refused. -/
inductive ConfigFault where
  /-- A pool range whose first address is above its last. -/
  | rangeReversed (first last : Ipv4)
  /-- A pool range with more than 65536 addresses. -/
  | rangeTooLarge (first last : Ipv4) (size : Nat)
  /-- An address prefix that is not dotted octets. -/
  | prefixUnreadable (text : String)
  | prefixNotThreeOctets (text : String)
  | poolReversed
  | poolTooLarge (size : Nat)
  | serverInPool
  | leaseDurationZero
  | sweepIntervalZero
  | hardwareAddress (text : String)
  | replyTimeoutZero
  | messageSizeTooSmall
  deriving DecidableEq, Inhabited

def ConfigFault.message : ConfigFault → String
  | .rangeReversed a b => s!"pool start {a} is after pool end {b}"
  | .rangeTooLarge a b n => s!"pool {a}-{b} holds {n} addresses, at most 65536 are supported"
  | .prefixUnreadable t => "invalid address prefix " ++ Quoted.quote t
  | .prefixNotThreeOctets t => "address prefix " ++ Quoted.quote t ++ " must have three octets"
  | .poolReversed => "pool_start must be less than or equal to pool_end"
  | .poolTooLarge n => s!"pool holds {n} addresses, at most 65536 are supported"
  | .serverInPool => "server_ip must not be within the pool range"
  | .leaseDurationZero => "lease_duration_seconds must be greater than 0"
  | .sweepIntervalZero => "sweep_interval_seconds must be greater than 0"
  | .hardwareAddress t =>
    "hardware_address " ++ Quoted.quote t ++ " is neither a MAC address nor a 16-byte identifier"
  | .replyTimeoutZero => "reply_timeout_millis must be greater than 0"
  | .messageSizeTooSmall => "max_message_size must be at least 576"

/-- The kinds of failed file and link operations the library meets. -/
inductive IoKind where
  | notFound
  | isADirectory
  | notADirectory
  | permissionDenied
  | brokenPipe
  | invalidData
  | other
  deriving DecidableEq, Inhabited

/-- The kind's name. -/
def IoKind.label : IoKind → String
  | .notFound => "NotFound"
  | .isADirectory => "IsADirectory"
  | .notADirectory => "NotADirectory"
  | .permissionDenied => "PermissionDenied"
  | .brokenPipe => "BrokenPipe"
  | .invalidData => "InvalidData"
  | .other => "Other"

/-- A failed file or link operation: one the operating system reported with its error code,
or one the library raised itself with a description. -/
inductive IoFault where
  | os (code : Nat) (kind : IoKind) (description : String)
  | custom (kind : IoKind) (description : String)
  deriving DecidableEq, Inhabited

namespace IoFault

/-- A missing file or directory. -/
def notFound : IoFault := .os 2 .notFound "No such file or directory"

/-- A directory where a file was expected. -/
def isADirectory : IoFault := .os 21 .isADirectory "Is a directory"

/-- A file where a directory was expected. -/
def notADirectory : IoFault := .os 20 .notADirectory "Not a directory"

/-- The description, with the system's code when there is one. -/
def message : IoFault → String
  | .os code _ d => d ++ s!" (os error {code})"
  | .custom _ d => d

/-- The fault's fields, named. -/
def diagnostic : IoFault → String
  | .os code k d =>
    "Os \x7b code: " ++ toString code ++ ", kind: " ++ k.label ++ ", message: " ++ Quoted.quote d ++
      " \x7d"
  | .custom k d => "Custom \x7b kind: " ++ k.label ++ ", error: " ++ Quoted.quote d ++ " \x7d"

end IoFault

/-- Every failure of the library. -/
inductive Error where
  /-- A link or file failed. -/
  | io (fault : IoFault)
  | json (error : Json.Error)
  | malformed (m : Malformation)
  | optionNotFound (code : UInt8)
  /-- Options that need more than the 336-byte region. -/
  | optionsOverflow (size : Nat)
  | invalidOption (fault : OptionFault)
  | poolExhausted
  | ownershipConflict (address : Ipv4)
  | missingOwner (address : Ipv4)
  | addressOutOfRange (address : Ipv4)
  /-- No acceptable reply within this many milliseconds. -/
  | timeout (millis : Nat)
  /-- Every attempt failed; the last one failed with `last`. -/
  | acquisitionFailed (attempts : Nat) (last : Error)
  | nak (server address : Ipv4)
  | notBound
  | invalidConfig (fault : ConfigFault)
  /-- An instant moved outside the calendar. The program stops on it. -/
  | instantOverflow
  /-- A span longer than any span can be. The program stops on it. -/
  | spanOutOfBounds
  deriving DecidableEq, Inhabited

namespace Error

/-- Whether the program stops on the error instead of reporting it. -/
def stops : Error → Bool
  | .instantOverflow | .spanOutOfBounds => true
  | _ => false

/-- The name of the cause. -/
def kind : Error → String
  | .io _ => "Io"
  | .json _ => "Json"
  | .malformed _ => "MalformedMessage"
  | .optionNotFound _ => "OptionNotFound"
  | .optionsOverflow _ => "OptionsOverflow"
  | .invalidOption _ => "InvalidOption"
  | .poolExhausted => "PoolExhausted"
  | .ownershipConflict _ => "OwnershipConflict"
  | .missingOwner _ => "MissingOwner"
  | .addressOutOfRange _ => "AddressOutOfRange"
  | .timeout _ => "Timeout"
  | .acquisitionFailed .. => "AcquisitionFailed"
  | .nak .. => "Nak"
  | .notBound => "NotBound"
  | .invalidConfig _ => "InvalidConfig"
  | .instantOverflow | .spanOutOfBounds => "panic"

/-- The report of an error. -/
def message : Error → String
  | .io f => "IO error: " ++ f.message
  | .json e => "JSON error: " ++ e.message
  | .malformed m => "Malformed message: " ++ m.field ++ ": " ++ m.reason
  | .optionNotFound c => s!"Option {c} not found"
  | .optionsOverflow n => s!"Options need {n} bytes but the region holds 336"
  | .invalidOption f => "Invalid option: " ++ f.message
  | .poolExhausted => "No available addresses in pool"
  | .ownershipConflict a => s!"Address {a} is leased to another client"
  | .missingOwner a => s!"Cannot lease {a} to an empty hardware address"
  | .addressOutOfRange a => s!"Address {a} is outside the configured pool range"
  | .timeout ms => "Timed out after " ++ Duration.render ms ++ " waiting for a reply"
  | .acquisitionFailed n last =>
    s!"Failed to acquire a lease after {n} attempt(s): " ++ last.message
  | .nak server address => s!"Server {server} refused the request for {address}"
  | .notBound => "Client holds no lease"
  | .invalidConfig f => "Invalid configuration: " ++ f.message
  | .instantOverflow => "\x60DateTime + TimeDelta\x60 overflowed"
  | .spanOutOfBounds => "TimeDelta::milliseconds out of bounds"

/-- The diagnostic form the command line prints for the errors it can meet: the cause's
name applied to its data. -/
def diagnostic : Error → String
  | .json e => "Json(" ++ e.diagnostic ++ ")"
  | .invalidConfig f => "InvalidConfig(" ++ Quoted.quote f.message ++ ")"
  | .io f => "Io(" ++ f.diagnostic ++ ")"
  | e => e.kind

end Error

end AddressLeasing
