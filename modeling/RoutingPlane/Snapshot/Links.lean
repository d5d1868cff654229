import RoutingPlane.Fault
import RoutingPlane.Text.Split

/-!
The links of a snapshot. A link lists endpoints that are all connected to each
other; the adjacency relation tells for every endpoint which others it meets on
its links.
-/

namespace RoutingPlane

abbrev Link := List InterfaceRef

namespace Link

/-- Reads an endpoint: a device and an interface with a colon between them. -/
def readEndpoint (value : Value) : Except Fault InterfaceRef := do
  let shown ← value.toText
  match Text.cut? ':' shown.toList with
  | some (device, interface) =>
      if device.isEmpty || interface.isEmpty then
        .error (.snapshot (.malformedEndpoint shown))
      else return { device := String.ofList device, interface := String.ofList interface }
  | none => .error (.snapshot (.malformedEndpoint shown))

def isKnown (devices : Table String Device) (ref : InterfaceRef) : Bool :=
  match devices.get? ref.device with
  | some device => device.interfaces.contains ref.interface
  | none => false

/-- Reads a link: all its endpoints first, then whether they exist. -/
def read (devices : Table String Device) (value : Value) : Except Fault Link := do
  let endpoints ← (← value.elements).mapM readEndpoint
  match endpoints.find? fun ref => !isKnown devices ref with
  | some ref => .error (.snapshot (.unknownEndpoint ref))
  | none => return endpoints

/-- Adds to a list the endpoints of a link that differ from a given one and are
not yet in the list. -/
def meet (ref : InterfaceRef) (link : Link) (others : List InterfaceRef) : List InterfaceRef :=
  link.foldl (fun met other =>
    if other ≠ ref ∧ other ∉ met then met ++ [other] else met) others

def enter (adjacency : Adjacency) (link : Link) : Adjacency :=
  link.foldl (fun entered ref =>
    entered.put ref (meet ref link ((entered.get? ref).getD []))) adjacency

def adjacency (links : List Link) : Adjacency :=
  links.foldl enter Table.empty

end Link

end RoutingPlane
