import Steward.Json.Parser
import Steward.Json.Record
import Steward.Text.Blank
import Steward.Text.Natural

/-!
# Configuration

The settings of the daemon: defaults, overridden by a file, overridden by variables of the
environment.
-/

namespace Steward

structure Config where
  /-- Where values are stored; in memory if it is not set. -/
  dataDir : Option String := none
  /-- The number of requests that a service's channel has room for. -/
  requestBuffer : Nat := 32
  /-- The number of updates that a subscription's queue has room for. -/
  streamCapacity : Nat := 100
  requestTimeout : Option Nat := none
  logFilter : String := "info"
deriving DecidableEq

inductive ConfigFailure where
  | read (path : String)
  | parse (path : String)
  | invalidValue (key detail : String)
deriving DecidableEq

/-- The text that describes a failure, without what only the system knows about it. -/
def ConfigFailure.message : ConfigFailure → String
  | read path => s!"failed to read config file {path}"
  | parse path => s!"failed to parse config file {path}"
  | invalidValue key detail => s!"invalid value for {key}: {detail}"

namespace Config

/-! ## Names -/

def fileVariable : String := "RESOURCE_DAEMON_CONFIG"

def dataDirVariable : String := "RESOURCE_DAEMON_DATA_DIR"

def requestBufferVariable : String := "RESOURCE_DAEMON_REQUEST_BUFFER"

def streamCapacityVariable : String := "RESOURCE_DAEMON_STREAM_CAPACITY"

def requestTimeoutVariable : String := "RESOURCE_DAEMON_REQUEST_TIMEOUT_MS"

def logVariable : String := "RESOURCE_DAEMON_LOG"

def variableNames : List String :=
  [fileVariable, dataDirVariable, requestBufferVariable, streamCapacityVariable,
    requestTimeoutVariable, logVariable]

/-- The fields of a configuration file, in the order of declaration. -/
def fieldNames : List String :=
  ["data_dir", "request_buffer", "stream_capacity", "request_timeout_ms", "log_filter"]

/-! ## Rules -/

/-- The detail of the failure for a number that has to be positive. -/
def tooSmall : String := "must be at least 1"

/-- Makes sure that the buffer, the queues and the timeout are not zero, in this order. -/
def validate (c : Config) : Except ConfigFailure Unit :=
  if c.requestBuffer = 0 then .error (.invalidValue "request_buffer" tooSmall)
  else if c.streamCapacity = 0 then .error (.invalidValue "stream_capacity" tooSmall)
  else if c.requestTimeout = some 0 then .error (.invalidValue "request_timeout_ms" tooSmall)
  else .ok ()

/-! ## The file -/

/-- Reads a configuration; members of other names are refused. -/
def ofJson? (j : Json) : Option Config := do
  let fields ← j.closedFields? fieldNames
  let blank : Config := {}
  return {
    dataDir := ← fields.get "data_dir" (Json.optional? Json.text?) none
    requestBuffer :=
      ← fields.get "request_buffer" (Json.natBelow? Text.naturalBound) blank.requestBuffer
    streamCapacity :=
      ← fields.get "stream_capacity" (Json.natBelow? Text.naturalBound) blank.streamCapacity
    requestTimeout :=
      ← fields.get "request_timeout_ms" (Json.optional? (Json.natBelow? Text.naturalBound)) none
    logFilter := ← fields.get "log_filter" Json.text? blank.logFilter }

/-- The configuration in a file, given how files are read: the text of a file, if it is one. -/
def ofFile (readFile : String → Option String) (path : String) : Except ConfigFailure Config :=
  match readFile path with
  | none => .error (.read path)
  | some content =>
    match (Json.ofText? content).bind ofJson? with
    | none => .error (.parse path)
    | some config => config.validate.map fun _ => config

/-! ## The environment -/

/-- The number that a variable holds, blanks around it aside. -/
def variableNumber (key raw : String) : Except ConfigFailure Nat :=
  match Text.natural (Text.trimmed raw.toList) with
  | .ok n => .ok n
  | .error fault => .error (.invalidValue key s!"'{raw}': {fault.message}")

/-- A value that is more than blanks. -/
def nonBlank (value : Option String) : Option String :=
  value.filter fun v => !Text.isAllBlank v

/-- The number of a variable that is set, or else what was there before. -/
def overriding (lookup : String → Option String) (key : String) (otherwise : Nat) :
    Except ConfigFailure Nat :=
  match lookup key with
  | none => .ok otherwise
  | some raw => variableNumber key raw

/-- The optional number of a variable that is set, or else what was there before. -/
def overridingOption (lookup : String → Option String) (key : String) (otherwise : Option Nat) :
    Except ConfigFailure (Option Nat) :=
  match lookup key with
  | none => .ok otherwise
  | some raw => (variableNumber key raw).map some

/-- The file that the environment names. -/
def fileNamed? (lookup : String → Option String) : Option String :=
  nonBlank (lookup fileVariable)

/-- The file's configuration, or the defaults if no file is named. -/
def base (readFile lookup : String → Option String) : Except ConfigFailure Config :=
  match fileNamed? lookup with
  | some path => ofFile readFile path
  | none => .ok {}

def ofEnvironment (readFile lookup : String → Option String) : Except ConfigFailure Config := do
  let file ← base readFile lookup
  let requestBuffer ← overriding lookup requestBufferVariable file.requestBuffer
  let streamCapacity ← overriding lookup streamCapacityVariable file.streamCapacity
  let requestTimeout ← overridingOption lookup requestTimeoutVariable file.requestTimeout
  let config : Config := {
    dataDir := (nonBlank (lookup dataDirVariable)).or file.dataDir
    requestBuffer := requestBuffer
    streamCapacity := streamCapacity
    requestTimeout := requestTimeout
    logFilter := (nonBlank (lookup logVariable)).getD file.logFilter }
  config.validate
  return config

end Config

end Steward
