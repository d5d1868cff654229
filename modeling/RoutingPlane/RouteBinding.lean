import RoutingPlane.Fault
import RoutingPlane.Note

/-!
Binding of static routes to local interfaces. A route uses the local interface
of an edge if its next hop is that interface, or if its next hop is the address
of the interface at the other end.
-/

namespace RoutingPlane

/-- Whether a route discards traffic. -/
def StaticRoute.isDiscard (route : StaticRoute) (options : Options) : Bool :=
  route.nextHopInterface.equals options.discardInterface

def StaticRoute.leavesBy (route : StaticRoute) (interface : Interface) : Bool :=
  !route.nextHopInterface.isNull && route.nextHopInterface.equals interface.nameValue

/-- Whether the next hop of a route is the address of an interface. -/
def StaticRoute.leadsTo (route : StaticRoute) (interface : Interface) : Bool :=
  match route.nextHopAddress, interface.host? with
  | some nextHop, some host => decide (nextHop = host)
  | _, _ => false

/-- Whether an edge takes a route to its next hop. -/
def Edge.realizes (edge : Edge) (route : StaticRoute) : Bool :=
  route.leavesBy edge.near ||
    match edge.far with
    | some far => route.leadsTo far
    | none => false

abbrev RouteTable := Table String (List StaticRoute)

namespace RouteBinding

/-- Adds a route to those of an interface, unless an equal one is there. -/
def bindTo (route : StaticRoute) (bound : RouteTable) (interface : String) : RouteTable :=
  let routes := (bound.get? interface).getD []
  bound.put interface (if routes.any fun other => other.same route then routes
    else routes ++ [route])

def bindRoute (router : String) (edges : List Edge) (options : Options) (bound : RouteTable)
    (route : StaticRoute) : Except ConfigurationFault RouteTable :=
  let realizing := edges.filter fun edge => edge.realizes route
  if realizing.isEmpty then
    if route.isDiscard options then .ok bound else .error (.unboundRoute router route)
  else .ok (realizing.foldl (fun bound edge => bindTo route bound edge.near.name) bound)

def bindRoutes (router : String) (edges : List Edge) (options : Options)
    (routes : List StaticRoute) : Except ConfigurationFault RouteTable :=
  routes.foldlM (bindRoute router edges options) Table.empty

def resolve (devices : Table String Device) (edges : Table String (List Edge))
    (options : Options) : Except ConfigurationFault (Table String RouteTable) := do
  let bindings ← devices.entries.mapM fun entry => do
    let bound ← bindRoutes entry.1 ((edges.get? entry.1).getD []) options entry.2.staticRoutes
    return (entry.1, bound)
  return Table.ofList bindings

/-- The notes on unbound routes that discard traffic, up to the first route
that should be bound and is not. -/
def discardNotes (options : Options) : List (String × List Edge × StaticRoute) → List Note
  | [] => []
  | (router, edges, route) :: rest =>
      if edges.any fun edge => edge.realizes route then discardNotes options rest
      else if route.isDiscard options then
        .discardUnbound router route.destination :: discardNotes options rest
      else []

def notes (devices : Table String Device) (edges : Table String (List Edge))
    (options : Options) : List Note :=
  let routes := devices.entries.flatMap fun entry =>
    entry.2.staticRoutes.map fun route => (entry.1, (edges.get? entry.1).getD [], route)
  discardNotes options routes ++
    match resolve devices edges options with
    | .ok bindings => [.routesBound (bindings.values.flatMap Table.keys).length]
    | .error _ => []

end RouteBinding

end RoutingPlane
