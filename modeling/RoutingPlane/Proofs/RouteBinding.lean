import Mathlib.Data.List.TakeWhile
import RoutingPlane.Proofs.Failure
import RoutingPlane.Proofs.Table.Lookup
import RoutingPlane.RouteBinding

/-!
Routes that cannot be bound. A route needs an edge that takes it to its next hop unless it
discards traffic; the first one without such an edge keeps all routes from being bound.
-/

namespace RoutingPlane.RouteBinding

variable {devices : Table String Device} {edges : Table String (List Edge)} {options : Options}
  {router : String} {listed : List Edge} {route : StaticRoute}

/-- Whether a route should be bound to one of the edges of its device and cannot be. -/
def isUnbound (options : Options) (listed : List Edge) (route : StaticRoute) : Bool :=
  !route.isDiscard options && !listed.any fun edge => edge.realizes route

theorem isUnbound_iff :
    isUnbound options listed route = true ↔
      route.isDiscard options = false ∧ ∀ edge ∈ listed, edge.realizes route = false := by
  simp [isUnbound]

/-- The static routes of all devices, in order, each with the edges that it may use. -/
def routesOf (devices : Table String Device) (edges : Table String (List Edge)) :
    List (String × List Edge × StaticRoute) :=
  devices.entries.flatMap fun entry =>
    entry.2.staticRoutes.map fun route => (entry.1, (edges.get? entry.1).getD [], route)

theorem mem_routesOf_iff :
    (router, listed, route) ∈ routesOf devices edges ↔
      ∃ device, devices.get? router = some device ∧ listed = (edges.get? router).getD [] ∧
        route ∈ device.staticRoutes := by
  simp only [routesOf, List.mem_flatMap, List.mem_map, Prod.exists, Prod.mk.injEq,
    Table.get?_eq_some_iff]
  constructor
  · rintro ⟨_, device, isDevice, _, isRoute, rfl, rfl, rfl⟩
    exact ⟨device, isDevice, rfl, isRoute⟩
  · rintro ⟨device, isDevice, rfl, isRoute⟩
    exact ⟨router, device, isDevice, route, isRoute, rfl, rfl, rfl⟩

/-- Whether a route can be bound does not depend on the routes that are bound already. -/
theorem faultOf?_bindRoute (router : String) (listed : List Edge) (options : Options)
    (bound : RouteTable) (route : StaticRoute) :
    faultOf? (bindRoute router listed options bound route) =
      if isUnbound options listed route then some (.unboundRoute router route) else none := by
  have noneRealizes : (listed.filter fun edge => edge.realizes route).isEmpty =
      !listed.any fun edge => edge.realizes route := by
    rw [Bool.eq_iff_iff]
    simp
  rw [bindRoute, isUnbound, noneRealizes]
  cases listed.any fun edge => edge.realizes route with
  | true => simp [faultOf?]
  | false => cases route.isDiscard options <;> rfl

theorem faultOf?_bindRoutes (router : String) (listed : List Edge) (options : Options)
    (routes : List StaticRoute) :
    faultOf? (bindRoutes router listed options routes) =
      routes.findSome? fun route =>
        if isUnbound options listed route then some (.unboundRoute router route) else none :=
  faultOf?_foldlM (faultOf?_bindRoute router listed options) routes Table.empty

/-- The first route that should be bound and cannot be decides. -/
theorem faultOf?_resolve (devices : Table String Device) (edges : Table String (List Edge))
    (options : Options) :
    faultOf? (resolve devices edges options) =
      ((routesOf devices edges).find? fun item => isUnbound options item.2.1 item.2.2).map
        fun item => .unboundRoute item.1 item.2.2 := by
  have firstOf : faultOf? (resolve devices edges options) =
      (routesOf devices edges).findSome? fun item =>
        if isUnbound options item.2.1 item.2.2 then some (.unboundRoute item.1 item.2.2)
        else none := by
    rw [resolve, faultOf?_bind_pure, faultOf?_mapM, routesOf, findSome?_flatMap]
    apply findSome?_congr
    intro entry _
    rw [faultOf?_bind_pure, faultOf?_bindRoutes, List.findSome?_map]
    rfl
  rw [firstOf]
  apply findSome?_eq_map_find?
  · intro item _ unbound
    rw [if_pos unbound]
  · intro item isBefore
    have bound := List.mem_takeWhile_imp isBefore
    rw [Bool.not_eq_true'] at bound
    rw [bound, if_neg Bool.false_ne_true]

end RoutingPlane.RouteBinding
