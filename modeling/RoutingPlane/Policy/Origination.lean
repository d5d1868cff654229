import RoutingPlane.Fault
import RoutingPlane.Policy.Walk
import RoutingPlane.Protocol
import RoutingPlane.RouteBinding
import RoutingPlane.Text.Split

/-!
The policy of a device for all sessions of a protocol, and the networks that a
device injects into a protocol.
-/

namespace RoutingPlane

/-- The policy that a configured name refers to, if the name can be one. -/
def Device.policyNamed? (device : Device) (name : Value) :
    Except ValueFault (Option RoutingPolicy) :=
  match name with
  | .null => .ok none
  | .text s => .ok (device.policies.get? s)
  | _ => if name.isKey then .ok none else .error (.wrongKind .key)

def Device.policyWith? (device : Device) (part : String) : Option RoutingPolicy :=
  (device.policies.entries.find? fun entry => Text.occurs part entry.1).map Prod.snd

/-- The policy for all BGP sessions of a device: the first one whose name holds
the part given by the settings. -/
def Device.commonBgpPolicy? (device : Device) (options : Options) :
    Except ValueFault (Option RoutingPolicy) :=
  match options.commonPolicyName with
  | .text part => .ok (device.policyWith? part)
  | _ => if device.policies.entries.isEmpty then .ok none else .error (.wrongKind .membership)

def Device.commonPolicy? (device : Device) (protocol : Protocol) (options : Options) :
    Except ValueFault (Option RoutingPolicy) :=
  match protocol with
  | .ospf =>
      match device.ospf with
      | some process => device.policyNamed? process.exportPolicy
      | none => .ok none
  | .bgp => device.commonBgpPolicy? options
  | .static => .ok none
  | .connected => .ok none

/-- The networks that a condition redistributes: those of an explicit set that
stands first in a conjunction, if the second part excludes BGP as the source. -/
def Condition.redistributed : Condition → List Network
  | .all (.within (.ranges ranges) :: .not (.learnedFrom .bgp) :: _) =>
      ranges.map NetworkRange.network
  | _ => []

/-- The networks that the conditions among policy nodes redistribute. -/
def redistributedBy (nodes : List PolicyNode) : List Network :=
  nodes.flatMap fun node =>
    match node with
    | .condition condition => condition.redistributed
    | .statement _ => []

/-- What a device injects into a protocol, and the notes on the way. -/
structure Origination where
  networks : List Network
  notes : List Note := []

def OspfProcess.networks (process : OspfProcess) : List Network :=
  (process.areas.values.flatMap OspfArea.interfaces).filterMap fun interface =>
    if interface.runsOspf then interface.network? else none

/-- The networks that a device injects into a protocol, each once and in the
order of the configuration. -/
def Device.originated (device : Device) (protocol : Protocol) (options : Options) :
    Except ValueFault Origination :=
  match protocol with
  | .ospf =>
      match device.ospf with
      | some process => .ok { networks := process.networks.eraseDups }
      | none => .ok { networks := [] }
  | .bgp => do
      match ← device.commonBgpPolicy? options with
      | none => return { networks := [] }
      | some policy =>
          let walk := device.walk [] policy.statements
          return {
            networks := (redistributedBy walk.nodes).eraseDups
            notes := walk.notes device }
  | .static =>
      .ok {
        networks := ((device.staticRoutes.filter fun route => !route.isDiscard options).map
          StaticRoute.destination).eraseDups }
  | .connected =>
      .ok { networks := (device.interfaces.values.filterMap Interface.network?).eraseDups }

end RoutingPlane
