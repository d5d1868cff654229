import RoutingPlane.EdgeMap
import RoutingPlane.Exhaustion
import RoutingPlane.Note

/-!
Domains: the groups of devices that are connected without crossing a session
between autonomous systems. A domain grows from the first device that is in no
earlier one, and its number is its place among the domains.
-/

namespace RoutingPlane

/-- The edges of devices as the growth of domains sees them. -/
structure DomainLinks where
  /-- The devices that domains may hold. -/
  devices : List String
  /-- The names of the devices that can be entered from a device. -/
  onward : String → List String

namespace DomainLinks

/-- The devices next to a device that belong to no domain yet, each once. -/
def newcomers (links : DomainLinks) (assigned : List String) (device : String) : List String :=
  ((links.onward device).filter fun next =>
    decide (next ∈ links.devices) && decide (next ∉ assigned)).eraseDups

theorem mem_newcomers {links : DomainLinks} {assigned : List String} {device next : String} :
    next ∈ links.newcomers assigned device ↔
      next ∈ links.onward device ∧ next ∈ links.devices ∧ next ∉ assigned := by
  simp [newcomers, List.mem_eraseDups]

/-- Grows a domain from its waiting devices, which are assigned already; the
devices that were reached, in the order in which they were reached. -/
def grow (links : DomainLinks) (assigned waiting : List String) : List String :=
  match waiting with
  | [] => []
  | device :: rest =>
      let entered := links.newcomers assigned device
      device :: links.grow (assigned ++ entered) (rest ++ entered)
termination_by ((leftOver links.devices assigned).length, waiting.length)
decreasing_by
  cases found : links.newcomers assigned device with
  | nil =>
      rw [List.append_nil, List.append_nil]
      exact Prod.Lex.right _ (by simp)
  | cons next others =>
      have isNew : next ∈ links.newcomers assigned device := by simp [found]
      refine Prod.Lex.left _ _ (length_leftOver_lt next
        (fun other member => List.mem_append_left _ member)
        (mem_leftOver.2 (mem_newcomers.1 isNew).2) ?_)
      simp

/-- The domains that grow from a list of devices when some are assigned already. -/
def domainsFrom (links : DomainLinks) (assigned : List String) :
    List String → List (List String)
  | [] => []
  | device :: rest =>
      if device ∈ assigned then links.domainsFrom assigned rest
      else
        let domain := links.grow (assigned ++ [device]) [device]
        domain :: links.domainsFrom (assigned ++ domain) rest

def domains (links : DomainLinks) : List (List String) :=
  links.domainsFrom [] links.devices

end DomainLinks

/-- Whether an edge or its opposite direction is a session between autonomous
systems. -/
def crossesBoundary {α : Type} (reverse : EdgeMap Edge) (external : EdgeMap α) (edge : EdgeKey) :
    Bool :=
  external.contains edge ||
    match reverse.get? edge with
    | some opposite => external.contains opposite.key
    | none => false

/-- The peers of the edges of a device that cross no boundary. -/
def innerPeers {α : Type} (edges : Table String (List Edge)) (reverse : EdgeMap Edge)
    (external : EdgeMap α) (device : String) : List String :=
  (((edges.get? device).getD []).filter fun edge =>
    !crossesBoundary reverse external edge.key).filterMap Edge.peer

/-- Partitions devices into domains. -/
def partitionDomains {α : Type} (devices : List String) (edges : Table String (List Edge))
    (reverse : EdgeMap Edge) (external : EdgeMap α) : List (List String) :=
  DomainLinks.domains { devices, onward := innerPeers edges reverse external }

/-- The number of the domain of every device, in the order in which the devices
were reached. -/
def domainNumbers (domains : List (List String)) : Table String Nat :=
  Table.ofList (domains.zipIdx.flatMap fun numbered =>
    numbered.1.map fun device => (device, numbered.2))

def domainNotes (devices : List String) (domains : List (List String)) : List Note :=
  (domains.zipIdx.map fun numbered => .domainFormed numbered.2 numbered.1) ++
    [.domainsPartitioned devices.length domains.length]

end RoutingPlane
