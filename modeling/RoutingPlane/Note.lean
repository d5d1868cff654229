import RoutingPlane.Edge
import RoutingPlane.Value.Conversion

/-!
What is noted while a snapshot is read, a graph is built and policies are
walked: each kind of note with its weight and its text.
-/

namespace RoutingPlane

inductive NoteLevel where
  | debug
  | info
  | warning
  deriving DecidableEq, Repr

inductive NoteTopic where
  | settings
  | topology
  | ospfCosts
  | staticRoutes
  | bgpSessions
  | domains
  | graph
  | policyWalk
  deriving DecidableEq, Repr

inductive Note where
  | settingsOverridden (names : List Value)
  | devicesMissing (names : List String)
  /-- An interface has too many neighbors to tell which one is its peer. -/
  | crowdedSegment (device interface : String) (ends : Nat)
  | topologyInferred (devices edges pairs : Nat)
  | costDefaulted (device interface : String) (cost : Value)
  | costsResolved (defaulted : Nat)
  /-- A route that discards traffic has no interface. -/
  | discardUnbound (device : String) (destination : Network)
  | routesBound (interfaces : Nat)
  | externalSession (edge : EdgeKey) (peer : Option Address)
  | externalResolved (sessions : Nat)
  /-- A session is configured at one end only. -/
  | oneSidedSession (opener remote : String)
  /-- A device is claimed as a client by a second reflector. -/
  | disputedClient (client holder claimant : String)
  | internalResolved (sessions clients : Nat)
  | domainFormed (id : Nat) (members : List String)
  | domainsPartitioned (devices domains : Nat)
  | graphBuilt (devices edges external internal domains : Nat)
  | undefinedPolicy (device policy : String)
  deriving Repr

def addressText (address : Option Address) : String :=
  match address with
  | some address => address.text
  | none => "None"

/-- The text of a number inside a note: a fraction is cut off. -/
def wholeText (value : Value) : Except ValueFault String :=
  match value with
  | .int _ => value.toText
  | .bool b => .ok (if b then "1" else "0")
  | .float x =>
      match Decimal.Binary64.ofFloat x with
      | .finite number => .ok (toString number.truncate)
      | .infinite _ => .error .infiniteInteger
      | .undefined => .error .undefinedInteger
  | .undefined _ => .error .undefinedInteger
  | _ => .error (.wrongKind .number)

namespace Note

def level : Note → NoteLevel
  | settingsOverridden _ => .debug
  | devicesMissing _ => .warning
  | crowdedSegment _ _ _ => .debug
  | topologyInferred _ _ _ => .info
  | costDefaulted _ _ _ => .debug
  | costsResolved _ => .info
  | discardUnbound _ _ => .debug
  | routesBound _ => .info
  | externalSession _ _ => .debug
  | externalResolved _ => .info
  | oneSidedSession _ _ => .warning
  | disputedClient _ _ _ => .warning
  | internalResolved _ _ => .info
  | domainFormed _ _ => .debug
  | domainsPartitioned _ _ => .info
  | graphBuilt _ _ _ _ _ => .info
  | undefinedPolicy _ _ => .warning

def topic : Note → NoteTopic
  | settingsOverridden _ => .settings
  | devicesMissing _ => .graph
  | crowdedSegment _ _ _ => .topology
  | topologyInferred _ _ _ => .topology
  | costDefaulted _ _ _ => .ospfCosts
  | costsResolved _ => .ospfCosts
  | discardUnbound _ _ => .staticRoutes
  | routesBound _ => .staticRoutes
  | externalSession _ _ => .bgpSessions
  | externalResolved _ => .bgpSessions
  | oneSidedSession _ _ => .bgpSessions
  | disputedClient _ _ _ => .bgpSessions
  | internalResolved _ _ => .bgpSessions
  | domainFormed _ _ => .domains
  | domainsPartitioned _ _ => .domains
  | graphBuilt _ _ _ _ _ => .graph
  | undefinedPolicy _ _ => .policyWalk

/-- Why a note has no text: it tells of a cost that is no number. -/
def fault? : Note → Option ValueFault
  | costDefaulted _ _ cost =>
      match wholeText cost with
      | .ok _ => none
      | .error fault => some fault
  | _ => none

/-- The text of a note. A cost that is no number is left out. -/
def text : Note → String
  | settingsOverridden names => "Graph options overridden: " ++ (Value.list names).shown
  | devicesMissing names =>
      "Requested routers not configured: " ++ String.intercalate ", " names
  | crowdedSegment device interface ends =>
      device ++ ":" ++ interface ++ " is on a segment with " ++ toString ends ++
        " other ends; leaving it dangling"
  | topologyInferred devices edges pairs =>
      "Topology inferred: " ++ toString devices ++ " devices, " ++ toString edges ++
        " edges, " ++ toString pairs ++ " reverse pairs"
  | costDefaulted device interface cost =>
      device ++ ":" ++ interface ++ " OSPF cost defaulted to " ++
        (wholeText cost).toOption.getD ""
  | costsResolved defaulted => "Resolved " ++ toString defaulted ++ " default OSPF cost(s)"
  | discardUnbound device destination =>
      device ++ ": discard route " ++ destination.text ++ " left unbound"
  | routesBound interfaces =>
      "Bound static routes on " ++ toString interfaces ++ " interface(s)"
  | externalSession edge peer =>
      "eBGP session " ++ edge.text ++ " (" ++ addressText peer ++ ")"
  | externalResolved sessions => "Resolved " ++ toString sessions ++ " eBGP session edge(s)"
  | oneSidedSession opener remote =>
      "iBGP session " ++ opener ++ " -> " ++ remote ++ " is not configured on " ++ remote
  | disputedClient client holder claimant =>
      client ++ " is a route-reflector client of both " ++ holder ++ " and " ++ claimant ++
        "; keeping " ++ holder
  | internalResolved sessions clients =>
      "Resolved " ++ toString sessions ++ " iBGP session(s), " ++ toString clients ++
        " reflector client(s)"
  | domainFormed id members =>
      "Domain " ++ toString id ++ ": " ++ String.intercalate ", " members
  | domainsPartitioned devices domains =>
      "Partitioned " ++ toString devices ++ " device(s) into " ++ toString domains ++ " domain(s)"
  | graphBuilt devices edges external internal domains =>
      "Graph built: " ++ toString devices ++ " devices, " ++ toString edges ++ " edges, " ++
        toString external ++ " eBGP, " ++ toString internal ++ " iBGP, " ++
        toString domains ++ " domains"
  | undefinedPolicy device policy =>
      device ++ ": called policy '" ++ policy ++ "' is not defined"

end Note

end RoutingPlane
