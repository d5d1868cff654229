import RoutingPlane.Device.Reader
import RoutingPlane.Note
import RoutingPlane.Snapshot.Links

/-!
Snapshots: the devices of a network, the adjacency of their interfaces and the
settings of the graph, read from one untyped value.
-/

namespace RoutingPlane

structure Snapshot where
  devices : Table String Device := .empty
  adjacency : Adjacency := .empty
  options : Options := {}

namespace Snapshot

/-- The place where a snapshot is looked for unless another one is given. -/
def standardPath : String :=
  "snapshot/network.yml"

/-- Reads the settings of a snapshot. A number that cannot be written is not
accounted for. -/
def readOptions (value : Value) : Except Fault Options :=
  (Options.read value).mapError fun fault =>
    match fault with
    | .value .longText => .value .longText
    | fault => .snapshot (.settings fault)

/-- Reports the faults of a device for it. Numbers out of range and values that
lead back to themselves are not accounted for. -/
def reportDevice (name : String) (outcome : Except DeviceFault Device) : Except Fault Device :=
  match outcome with
  | .ok device => .ok device
  | .error (.value fault) =>
      if fault.escapes then .error (.value fault)
      else .error (.snapshot (.device name (.value fault)))
  | .error fault => .error (.snapshot (.device name fault))

def readDevice (key value : Value) : Except Fault (String × Device) := do
  let name ← key.toText
  let device ← reportDevice name (Device.read name value)
  return (name, device)

def readDevices (entries : List (Value × Value)) : Except Fault (Table String Device) := do
  let devices ← entries.mapM fun entry => readDevice entry.1 entry.2
  return Table.ofList devices

def ofEntries (entries : List (Value × Value)) : Except Fault Snapshot := do
  let options ← readOptions (fieldOrNull "settings" entries)
  let devices ← readDevices (← (fieldOrNull "devices" entries).fieldsOrNone)
  let links ← (← (fieldOrNull "links" entries).elementsOrNone).mapM (Link.read devices)
  return { devices, adjacency := Link.adjacency links, options }

def read (path : String) (value : Value) : Except Fault Snapshot :=
  match value.opened with
  | .map entries => ofEntries entries
  | _ => .error (.snapshot (.notMapping path))

def readNotes (value : Value) : List Note :=
  match value.opened with
  | .map entries =>
      match Options.overridden? (fieldOrNull "settings" entries) with
      | some names => [.settingsOverridden names]
      | none => []
  | _ => []

end Snapshot

end RoutingPlane
