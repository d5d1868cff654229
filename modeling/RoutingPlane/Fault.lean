import RoutingPlane.Edge
import RoutingPlane.Options
import RoutingPlane.Yaml.Fault

/-!
Everything that can go wrong, by its cause, and how it is described: a message,
the device concerned and further details.
-/

namespace RoutingPlane

structure Description where
  message : String
  device : Option String := none
  details : List (String × String) := []
  deriving DecidableEq, Repr

/-- The text of a description: the device in brackets in front, the details in
parentheses behind. -/
def Description.text (description : Description) : String :=
  let front :=
    match description.device with
    | some device => if device = "" then [] else ["[" ++ device ++ "]"]
    | none => []
  let details :=
    if description.details.isEmpty then []
    else
      ["(" ++ String.intercalate ", "
        (description.details.map fun detail => detail.1 ++ "=" ++ detail.2) ++ ")"]
  String.intercalate " " (front ++ description.message :: details)

/-- The reasons for which a configuration cannot be turned into a graph, or a
query about a graph cannot be answered. -/
inductive ConfigurationFault where
  | unknownOptions (names : String)
  | unknownProtocol (shown : String)
  /-- The devices to model are given by a text instead of a list. -/
  | selectionIsText (text : String)
  | unknownDevice (device : String)
  | noSession (edge : EdgeKey)
  | missingBandwidth (device interface : String)
  | unboundRoute (device : String) (route : StaticRoute)
  deriving Repr

/-- The reasons for which the configuration of a device cannot be read. Values are
given as they are shown. -/
inductive DeviceFault where
  | unknownMember (area interface : String)
  | unknownStatement (shown : String)
  | unknownCondition (shown : String)
  | value (fault : ValueFault)
  deriving Repr

inductive SnapshotFault where
  | missingFile (path : String)
  | malformedFile (path : String)
  | notMapping (path : String)
  | settings (fault : OptionsFault)
  | device (name : String) (fault : DeviceFault)
  | malformedEndpoint (shown : String)
  | unknownEndpoint (ref : InterfaceRef)
  deriving Repr

inductive ReportFault where
  | missingTemplate (name : String)
  | unwritable (path : String)
  /-- No file can have the path. -/
  | impossiblePath
  /-- The path or the page holds half of a pair, which no file can hold. -/
  | halfText
  deriving DecidableEq, Repr

inductive Fault where
  | configuration (fault : ConfigurationFault)
  | snapshot (fault : SnapshotFault)
  /-- A part of a device that is read by itself. -/
  | devicePart (fault : DeviceFault)
  | report (fault : ReportFault)
  | value (fault : ValueFault)
  /-- A document whose scalars or whose nesting cannot be read. -/
  | document (fault : Yaml.DocumentFault)
  deriving Repr

/-! ## Descriptions -/

/-- The names of protocols in the order in which they are listed. -/
def protocolWords : List String :=
  ["ospf", "bgp", "static", "connected"]

def ConfigurationFault.description : ConfigurationFault → Description
  | unknownOptions names =>
      { message := "Unknown graph option(s)"
        details :=
          [("unknown", names),
            ("supported", (Value.list (Options.names.map Value.text)).shown)] }
  | unknownProtocol shown =>
      { message := "Unrecognized protocol '" ++ shown ++ "'. Supported: " ++
          String.intercalate ", " protocolWords }
  | selectionIsText text =>
      { message := "routers must be a collection of device names, not a string"
        details := [("routers", text)] }
  | unknownDevice device => { message := "Unknown device", device := some device }
  | noSession edge =>
      { message := "Invalid BGP edge: " ++ edge.text
        device := some edge.router
        details := [("interface", edge.near)] }
  | missingBandwidth device interface =>
      { message := "Expected non-null interface bandwidth to derive OSPF cost"
        device := some device
        details := [("interface", interface)] }
  | unboundRoute device route =>
      { message := "Static route has no resolvable next-hop interface"
        device := some device
        details :=
          [("network", route.destination.text), ("next_hop", route.nextHop.shown)] }

/-- The text of a fault of settings, if it does not come from the kind of a
value. -/
def OptionsFault.message? : OptionsFault → Option String
  | unknown names => some (ConfigurationFault.unknownOptions names).description.text
  | value fault => fault.message?

def causeDetails (message? : Option String) : List (String × String) :=
  match message? with
  | some message => [("error", message)]
  | none => []

def DeviceFault.description : DeviceFault → Description
  | unknownMember area interface =>
      { message := "OSPF area references unknown interface"
        details := [("area", area), ("interface", interface)] }
  | unknownStatement shown =>
      { message := "Unrecognized policy statement"
        details := [("statement", shown)] }
  | unknownCondition shown =>
      { message := "Unrecognized policy expression"
        details := [("expression", shown)] }
  | value fault =>
      { message := "Invalid device configuration"
        details := causeDetails fault.message? }

def SnapshotFault.description : SnapshotFault → Description
  | missingFile path => { message := "Snapshot file not found: " ++ path }
  | malformedFile path => { message := "Malformed snapshot file: " ++ path }
  | notMapping path =>
      { message := "Snapshot must be a mapping", details := [("path", path)] }
  | settings fault =>
      { message := "Invalid settings section", details := causeDetails fault.message? }
  | device name fault => { fault.description with device := some name }
  | malformedEndpoint shown =>
      { message := "Link endpoint must be 'device:interface'"
        details := [("endpoint", shown)] }
  | unknownEndpoint ref =>
      { message := "Link references unknown interface", details := [("endpoint", ref.text)] }

def ReportFault.description : ReportFault → Description
  | missingTemplate name => { message := "Cannot render template '" ++ name ++ "'" }
  | unwritable path => { message := "Cannot write report to " ++ path }
  | impossiblePath => { message := "embedded null byte" }
  | halfText => { message := "surrogates not allowed" }

def SnapshotFault.isWrongKind : SnapshotFault → Bool
  | settings (.value (.wrongKind _)) => true
  | device _ (.value (.wrongKind _)) => true
  | _ => false

/-- Reading a part of a device fails as reading its value does. -/
instance : MonadLift (Except ValueFault) (Except DeviceFault) where
  monadLift outcome := outcome.mapError .value

/-- Any computation may fail as reading a value does. -/
instance : MonadLift (Except ValueFault) (Except Fault) where
  monadLift outcome := outcome.mapError .value

/-- Any computation may fail as reading a part of a device does. -/
instance : MonadLift (Except DeviceFault) (Except Fault) where
  monadLift outcome := outcome.mapError .devicePart

instance : MonadLift (Except ConfigurationFault) (Except Fault) where
  monadLift outcome := outcome.mapError .configuration

end RoutingPlane
