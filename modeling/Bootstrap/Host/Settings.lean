import Bootstrap.Disk.Action
import Bootstrap.Json.Reader
import Bootstrap.Json.Writer

/-!
# Settings files

The two JSON documents that an install leaves for the operator's tools.

* `FetchSettings` tells the dynamic inventory where to ask and who is asking. It is written once and read back by
  later installs, so it has a reader, `FetchSettings.ofJson?`.
* `connectSample` is an example for the connection helper.
-/

namespace Bootstrap.Host

/-- Headers of a request, one value a name, in the order of the names. -/
abbrev Headers := List (String × String)

namespace Headers

/-- Gives a name its value, in place of one it had. -/
def insert (name value : String) : Headers → Headers
  | [] => [(name, value)]
  | (n, v) :: rest =>
    if name < n then (name, value) :: (n, v) :: rest
    else if name = n then (name, value) :: rest
    else (n, v) :: insert name value rest

end Headers

/-- Settings for asking the inventory service. -/
structure FetchSettings where
  headers : Headers
  keyFile : String
  retryAttempts : Nat
  retryWaitSeconds : Nat
  uri : String
deriving DecidableEq

/-- The header that names the machine. -/
def identifierHeader : String := "Auth-Id"

/-- The header that proves who asks. -/
def tokenHeader : String := "Auth-Token"

namespace FetchSettings

def identifier? (s : FetchSettings) : Option String := s.headers.lookup identifierHeader

def token? (s : FetchSettings) : Option String := s.headers.lookup tokenHeader

/-- The settings of a new install. -/
def sample (identifier token monitor keyFile : String) : FetchSettings where
  headers :=
    [(identifierHeader, identifier), (tokenHeader, token), ("Content-type", "application/json"),
      ("Monitor-Name", monitor)]
  keyFile := keyFile
  retryAttempts := 3
  retryWaitSeconds := 10
  uri := "http://localhost/inventory"

def toJson (s : FetchSettings) : Json.Value :=
  .ofFields [
    ("headers", .ofFields (s.headers.map fun h => (h.1, .ofText h.2))),
    ("key_file", .ofText s.keyFile),
    ("retry_attempts", .ofNat s.retryAttempts),
    ("retry_wait_seconds", .ofNat s.retryWaitSeconds),
    ("uri", .ofText s.uri)]

/-! ### Reading -/

def textOf? : Json.Value → Option String
  | .text s => some (String.ofList s)
  | _ => none

/-- A number below 2^32 without sign, fraction and exponent. -/
def wordOf? : Json.Value → Option Nat
  | .number digits =>
    if digits.all Char.isDigit then
      let n := digits.foldl (fun n c => n * 10 + (c.toNat - '0'.toNat)) 0
      if n < Nat.pow 2 32 then some n else none
    else none
  | _ => none

/-- Headers may be repeated; the last value counts. -/
def headersOf? : Json.Value → Option Headers
  | .object fields =>
    fields.foldlM (fun hs f => do
      some (Headers.insert (String.ofList (← f.1)) (← textOf? f.2) hs)) []
  | _ => none

/-- The value of a field that stands exactly once. -/
def field? (name : String) (fields : List (Option (List Char) × Json.Value)) : Option Json.Value :=
  match fields.filter fun f => f.1 == some name.toList with
  | [f] => some f.2
  | _ => none

def ofValues? (headers keyFile attempts wait uri : Json.Value) : Option FetchSettings := do
  some ⟨← headersOf? headers, ← textOf? keyFile, ← wordOf? attempts, ← wordOf? wait, ← textOf? uri⟩

/-- Reads settings from an object, in which unknown fields are passed over, or from an array of the five values in
order. -/
def ofJson? : Json.Value → Option FetchSettings
  | .object fields =>
    if fields.all (·.1.isSome) then do
      ofValues? (← field? "headers" fields) (← field? "key_file" fields) (← field? "retry_attempts" fields)
        (← field? "retry_wait_seconds" fields) (← field? "uri" fields)
    else none
  | .array [headers, keyFile, attempts, wait, uri] => ofValues? headers keyFile attempts wait uri
  | _ => none

/-- Reads the settings in a file. -/
def load (p : Path) : Action FetchSettings := do
  let s ← Action.during (.readFile p) (Action.ask (·.readText p))
  match (Json.read? s).bind ofJson? with
  | some settings => return settings
  | none => throw ⟨[.parseFile p], .json⟩

end FetchSettings

/-- Example settings for the connection helper, with the monitoring host alone. -/
def connectSample (monitor : String) : Json.Value :=
  .ofFields [
    ("log_level", .ofText "warning"),
    ("server_address", .ofText "https://localhost:8443"),
    ("tls_insecure", .bool false),
    ("inventory", .ofFields [
      ("source", .ofText "pmm"),
      ("hosts", .ofFields [
        (monitor, .ofFields [("ssh", .ofFields [("custom_labels", .ofFields [("port", .ofNat 22)])])])])])]

end Bootstrap.Host
