import DeviceRpc.Config.Settings
import DeviceRpc.Path
import DeviceRpc.Yaml.Node

/-!
# Reading settings

Settings are a YAML document whose mappings may hold the known keys only, each
at most once. A text may be written as any scalar, and its source is the text; a
number must be a plain integer, or a literal block that is tagged as one. An empty
value stands for an empty mapping or sequence and, where something may be left
out, so does a null; a null is no mapping and no sequence. A tag matters for a
number and for what may be left out, and nowhere else.
-/

namespace DeviceRpc.Settings

/-- Whether a node is a plain scalar without text. -/
def isEmpty : Yaml.Node → Bool
  | .scalar .plain _ "" => true
  | _ => false

/-- The tag of integers. -/
def integerTag : String := "tag:yaml.org,2002:int"

/-- The tag of nulls. -/
def nullTag : String := "tag:yaml.org,2002:null"

/-- Whether a text is a null. -/
def isNull (text : String) : Bool := ["~", "null", "Null", "NULL"].contains text

/-! ## Scalars -/

/-- The text of a scalar. -/
def text? : Yaml.Node → Option String
  | .scalar _ _ text => some text
  | _ => none

/-- The value of a digit in a base of at most sixteen. -/
def digit? (base : Nat) (c : Char) : Option Nat :=
  (Yaml.hexDigit? c).filter (· < base)

/-- One or more digits in a base. -/
def digitsIn? (base : Nat) (cs : List Char) : Option Nat :=
  if cs = [] then none
  else cs.foldlM (fun n c => (digit? base c).map (base * n + ·)) 0

/-- An integer: decimal without leading zeros, or with a mark for its base, and a
plus sign or none. -/
def integer? (cs : List Char) : Option Nat :=
  let unsigned : List Char → Option Nat
    | '0' :: 'x' :: cs => digitsIn? 16 cs
    | '0' :: 'o' :: cs => digitsIn? 8 cs
    | '0' :: 'b' :: cs => digitsIn? 2 cs
    | ['0'] => some 0
    | '0' :: _ => none
    | cs => digitsIn? 10 cs
  match cs with
  | '+' :: cs => unsigned cs
  | cs => unsigned cs

/-- The text of a scalar that may be a number. -/
def numeral? : Yaml.Node → Option String
  | .scalar .plain _ text => some text
  | .scalar .literal (some tag) text => if tag = integerTag then some text else none
  | _ => none

/-- An integer below a bound. -/
def number? (bound : Nat) (node : Yaml.Node) : Option Nat := do
  (integer? (← numeral? node).toList).filter (· < bound)

/-! ## Collections -/

/-- The items of a sequence. -/
def items? : Yaml.Node → Option (List Yaml.Node)
  | .sequence items => some items
  | node => if isEmpty node then some [] else none

/-- The values of a mapping by key: only known keys, and none twice. -/
def fields? (known : List String) (node : Yaml.Node) : Option (List (String × Yaml.Node)) := do
  let pairs ← match node with
    | .mapping pairs => some pairs
    | node => if isEmpty node then some [] else none
  let fields ← pairs.mapM fun (key, value) => return (← text? key, value)
  if fields.all (known.contains ·.1) && (fields.map Prod.fst).Nodup then some fields else none

/-- The value of a key that must be there. -/
def required? {α : Type} (fields : List (String × Yaml.Node)) (key : String)
    (read : Yaml.Node → Option α) : Option α :=
  fields.lookup key >>= read

/-- The value of a key that has a default. -/
def optional? {α : Type} (fields : List (String × Yaml.Node)) (key : String) (default : α)
    (read : Yaml.Node → Option α) : Option α :=
  match fields.lookup key with
  | some node => read node
  | none => some default

/-- A value that may be left out. With a tag only a null that is tagged as one says
so, and nothing else can have this tag. -/
def maybe? {α : Type} (read : Yaml.Node → Option α) (node : Yaml.Node) : Option (Option α) :=
  match node with
  | .scalar .plain none text => if text = "" || isNull text then some none else some <$> read node
  | .scalar .plain (some tag) text =>
    if tag ≠ nullTag then some <$> read node
    else if isNull text then some none
    else none
  | _ => some <$> read node

/-! ## Sections -/

/-- The section of the server. -/
def server? (node : Yaml.Node) : Option ServerSettings := do
  let fields ← fields? ["listen", "io_timeout_ms", "max_payload_bytes"] node
  let default : ServerSettings := {}
  return {
    listen := ← optional? fields "listen" default.listen text?
    ioTimeout := ← optional? fields "io_timeout_ms" default.ioTimeout (number? UInt64.size)
    maxPayload := ← optional? fields "max_payload_bytes" default.maxPayload (number? UInt64.size) }

/-- The section of the operations listener. -/
def ops? (node : Yaml.Node) : Option String := do
  required? (← fields? ["listen"] node) "listen" text?

/-- The section of a relay. -/
def relay? (node : Yaml.Node) : Option RelaySettings := do
  let fields ← fields? ["address", "name", "connect_timeout_ms", "io_timeout_ms"] node
  let address ← required? fields "address" text?
  let name ← required? fields "name" text?
  let default : RelaySettings := { address, name }
  return { default with
    connectTimeout := ← optional? fields "connect_timeout_ms" default.connectTimeout
      (number? UInt64.size)
    ioTimeout := ← optional? fields "io_timeout_ms" default.ioTimeout (number? UInt64.size) }

/-- The section of a unit. -/
def pdu? (node : Yaml.Node) : Option PduSettings := do
  let fields ← fields? ["name", "outlets", "upstream"] node
  return {
    name := ← required? fields "name" text?
    outlets := ← optional? fields "outlets" [] fun node => do (← items? node).mapM text?
    relay := ← optional? fields "upstream" none (maybe? relay?) }

/-- The whole document. -/
def ofNode? (node : Yaml.Node) : Option Settings := do
  let fields ← fields? ["version", "server", "ops", "pdus"] node
  return {
    version := ← required? fields "version" (number? UInt32.size)
    server := ← optional? fields "server" {} server?
    ops := ← optional? fields "ops" none (maybe? ops?)
    pdus := ← optional? fields "pdus" [] fun node => do (← items? node).mapM pdu? }

/-- What is said of a document that is no settings at all. -/
def malformed : Failure := .config "invalid yaml"

/-- The settings of a document, if they are valid. -/
def load (yaml : String) : Except Failure Settings :=
  match Yaml.Node.ofText? yaml >>= ofNode? with
  | none => .error malformed
  | some settings => do
    settings.validate
    return settings

/-- The settings of a file, by its contents if it is there. -/
def loadFile (path : String) (contents : Option String) : Except Failure Settings :=
  match contents with
  | some yaml => load yaml
  | none =>
    .error (.config ("read " ++ path ++ " failed: " ++ (Path.unreadable path).message))

end DeviceRpc.Settings
