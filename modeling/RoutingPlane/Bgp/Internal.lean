import RoutingPlane.Address.Reader
import RoutingPlane.EdgeMap
import RoutingPlane.Note
import RoutingPlane.Options

/-!
Sessions inside autonomous systems and the hierarchy of route reflectors. A
device opens a session with another one if the network of one of its internal
neighbor statements holds the local address that the other one uses for its own
internal sessions. Each session becomes an abstract edge between made up
interfaces; it has an opposite direction if both devices open it.
-/

namespace RoutingPlane

/-- Two devices, the one that opens a session first. -/
abbrev DevicePair := String × String

/-- The made up interface that carries a session: its name tells the peer, and
its address is read from the text of the network of the neighbor statement. -/
def sessionInterface (neighbor : BgpNeighbor) (peer : String) (options : Options) :
    Except ValueFault Interface := do
  let address ← InterfaceAddress.read (.text neighbor.peers.text)
  return {
    name := options.sessionNameStart.shown ++ peer
    address := some address
    kind := .abstract }

structure InternalSessions where
  /-- The abstract edges of every device that opens a session. -/
  edges : Table String (List Edge)
  sessions : EdgeMap BgpNeighbor
  /-- The opposite direction of the sessions that both devices open. -/
  reverse : EdgeMap Edge
  /-- The reflector of every client. -/
  reflectorOf : Table String String
  /-- The clients of every device that opens a session. -/
  clients : Table String (List String)
  /-- The number of every device at an end of a session, counted from one. -/
  originatorIds : Table String Nat

namespace InternalSessions

def internalNeighbors (device : Device) : List BgpNeighbor :=
  match device.bgp with
  | some process => process.neighbors.values.filter BgpNeighbor.isInternal
  | none => []

/-- The local address that a device uses for its internal sessions. -/
def localAddress? (device : Device) : Option Address :=
  (internalNeighbors device).findSome? BgpNeighbor.localAddress

def localAddresses (devices : Table String Device) : List (String × Address) :=
  devices.entries.filterMap fun entry =>
    (localAddress? entry.2).map fun address => (entry.1, address)

/-- Keeps the first value of every key. -/
def putFirst {κ β : Type} [DecidableEq κ] (table : Table κ β) (key : κ) (value : β) :
    Table κ β :=
  if table.contains key then table else table.put key value

/-- The sessions that a neighbor statement of a device opens. -/
def openedBy (addresses : List (String × Address)) (opener : String)
    (neighbor : BgpNeighbor) : List (DevicePair × BgpNeighbor) :=
  (addresses.filter fun entry =>
      decide (opener ≠ entry.1) && neighbor.peers.contains entry.2).map fun entry =>
    ((opener, entry.1), neighbor)

/-- Every session with the first statement that opens it. -/
def discover (devices : Table String Device) : Table DevicePair BgpNeighbor :=
  let addresses := localAddresses devices
  let opened := devices.entries.flatMap fun entry =>
    (internalNeighbors entry.2).flatMap (openedBy addresses entry.1)
  opened.foldl (fun table session => putFirst table session.1 session.2) Table.empty

/-- The edge of a discovered session. It dangles if the remote device does not
open the session too. -/
def edgeOf (sessions : Table DevicePair BgpNeighbor) (options : Options)
    (pair : DevicePair) (neighbor : BgpNeighbor) : Except ValueFault Edge := do
  let near ← sessionInterface neighbor pair.2 options
  match sessions.get? (pair.2, pair.1) with
  | some opposite =>
      let far ← sessionInterface opposite pair.1 options
      return { router := pair.1, near, peer := some pair.2, far := some far, abstract := true }
  | none =>
      return { router := pair.1, near, peer := none, far := none, abstract := true }

/-- The devices that open a session, in the order of their first one. -/
def openers (sessions : Table DevicePair BgpNeighbor) : List String :=
  (sessions.keys.map Prod.fst).eraseDups

/-- The devices at an end of a session: those that open one come first. -/
def originators (sessions : Table DevicePair BgpNeighbor) : List String :=
  (openers sessions ++ sessions.keys.map Prod.snd).eraseDups

def claimedPairs (sessions : Table DevicePair BgpNeighbor) : List DevicePair :=
  (sessions.entries.filter fun entry => entry.2.reflectorClient).map Prod.fst

/-- The reflector of every claimed client: the first one that claims it. -/
def reflectors (claimed : List DevicePair) : Table String String :=
  claimed.foldl (fun table pair => putFirst table pair.2 pair.1) Table.empty

/-- The clients that a device holds. -/
def clientsOf (claimed : List DevicePair) (reflector : String) : List String :=
  (claimed.filter fun pair =>
    decide (pair.1 = reflector) &&
      decide ((reflectors claimed).get? pair.2 = some reflector)).map Prod.snd

def resolve (devices : Table String Device) (options : Options) :
    Except ValueFault InternalSessions := do
  let sessions := discover devices
  let edges ← sessions.entries.mapM fun entry => do
    let edge ← edgeOf sessions options entry.1 entry.2
    return (entry.1, edge)
  let byPair := Table.ofList edges
  let claimed := claimedPairs sessions
  return {
    edges := Table.ofList ((openers sessions).map fun opener =>
      (opener, (edges.filter fun entry => decide (entry.1.1 = opener)).map Prod.snd))
    sessions := EdgeMap.ofList ((edges.map Prod.snd).zip sessions.values)
    reverse := EdgeMap.ofList (edges.filterMap fun entry =>
      (byPair.get? (entry.1.2, entry.1.1)).map fun other => (entry.2, other))
    reflectorOf := reflectors claimed
    clients := Table.ofList ((openers sessions).map fun opener =>
      (opener, clientsOf claimed opener))
    originatorIds := Table.ofList ((originators sessions).zipIdx 1) }

def oneSidedNotes (sessions : Table DevicePair BgpNeighbor) : List Note :=
  (sessions.keys.filter fun pair => !sessions.contains (pair.2, pair.1)).map fun pair =>
    .oneSidedSession pair.1 pair.2

def disputeNotes (claimed : List DevicePair) : List Note :=
  claimed.filterMap fun pair =>
    match (reflectors claimed).get? pair.2 with
    | some holder =>
        if holder = pair.1 then none else some (.disputedClient pair.2 holder pair.1)
    | none => none

def notes (devices : Table String Device) : List Note :=
  let sessions := discover devices
  let claimed := claimedPairs sessions
  oneSidedNotes sessions ++ disputeNotes claimed ++
    [.internalResolved sessions.size (reflectors claimed).size]

end InternalSessions

end RoutingPlane
