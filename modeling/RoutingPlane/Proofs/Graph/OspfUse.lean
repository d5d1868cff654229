import RoutingPlane.Policy.EdgeUse
import RoutingPlane.Proofs.Graph.EdgeLists
import RoutingPlane.Proofs.OspfCost

/-!
The costs of the edges that OSPF runs over. Whether it runs over an edge is decided by the flags
of the local interface, and whether the interface has a cost by the process of its device, so
OSPF runs over edges without a cost where a device has no process.
-/

namespace RoutingPlane

namespace OspfCost

variable {devices : Table String Device} {options : Options} {router name : String}
  {device : Device} {process : OspfProcess} {interface : Interface} {cost : Value}
  {costs : Table String Value}

/-! ## The cost of one interface -/

/-- Whether the cost of an interface is that of the settings for virtual networks, and they
give none. -/
def lacksCost (options : Options) (interface : Interface) : Bool :=
  interface.ospfCost.isNull && isNamedVlan options interface && options.vlanCost.isNull

theorem eq_isNamedVlan_of_isVlan (givesName : interface.nameGiven = none) {isNamed : Bool}
    (succeeded : isVlan options interface.nameValue = .ok isNamed) :
    isNamed = isNamedVlan options interface := by
  have isText : interface.nameValue = .text interface.name := by
    rw [Interface.nameValue, givesName, Option.getD_none]
  rw [isText] at succeeded
  rw [isNamedVlan]
  obtain ⟨letters, isLowered, succeeded⟩ := bind_eq_ok_iff.1 succeeded
  obtain ⟨start, isStart, succeeded⟩ := bind_eq_ok_iff.1 succeeded
  cases isLowered
  rw [← pure_eq_ok_iff.1 succeeded]
  cases given : options.vlanNameStart with
  | text letters =>
      rw [given] at isStart
      cases isStart
      rfl
  | _ =>
      rw [given] at isStart
      cases isStart

/-- Only a cost that the settings give can be null, since one that is derived from bandwidths is a
number. -/
theorem isNull_of_standardCost (givesName : interface.nameGiven = none) {reference : Float}
    (succeeded : standardCost router interface reference options = .ok cost) :
    cost.isNull = (isNamedVlan options interface && options.vlanCost.isNull) := by
  obtain ⟨isNamed, named, succeeded⟩ := bind_eq_ok_iff.1 succeeded
  rw [← eq_isNamedVlan_of_isVlan givesName (mapError_eq_ok_iff.1 named)]
  cases isNamed with
  | true =>
      rw [← pure_eq_ok_iff.1 succeeded]
      rfl
  | false =>
      rw [if_neg Bool.false_ne_true] at succeeded
      split at succeeded
      · cases succeeded
      · obtain ⟨floor, _, succeeded⟩ := bind_eq_ok_iff.1 succeeded
        rw [← pure_eq_ok_iff.1 succeeded]
        rfl

/-- A cost is null exactly if the settings decide it and give none. -/
theorem isNull_of_costOf (givesName : interface.nameGiven = none)
    (succeeded : costOf router process options interface = .ok cost) :
    cost.isNull = lacksCost options interface := by
  rw [lacksCost]
  cases configured : interface.ospfCost with
  | null =>
      rw [costOf, configured] at succeeded
      rw [isNull_of_standardCost givesName succeeded]
      rfl
  | _ =>
      rw [costOf, configured] at succeeded
      cases succeeded
      rfl

/-! ## The costs of a device -/

/-- The costs of a device come from its active interfaces, if a process runs on it. -/
theorem of_get?_deviceCosts (named : NamesItsInterfaces device)
    (resolved : deviceCosts options router device = .ok costs)
    (found : costs.get? name = some cost) :
    ∃ process interface, device.ospf = some process ∧
      device.interfaces.get? name = some interface ∧ interface.isActive = true ∧
      costOf router process options interface = .ok cost := by
  obtain ⟨entries, traversed, resolved⟩ := bind_eq_ok_iff.1 resolved
  rw [← pure_eq_ok_iff.1 resolved] at found
  obtain ⟨⟨process, interface⟩, isCosted, stepped⟩ :=
    exists_of_mem_mapM traversed (Table.mem_of_get?_ofList found)
  obtain ⟨given, isCost, stepped⟩ := bind_eq_ok_iff.1 stepped
  obtain ⟨runs, ⟨place, isInterface⟩, isActive⟩ := mem_costed_iff.1 isCosted
  have isPlace : interface.name = place := named place interface isInterface
  split at stepped
  · cases stepped
  · obtain ⟨rfl, rfl⟩ := Prod.mk.inj (pure_eq_ok_iff.1 stepped)
    exact ⟨process, interface, runs, isPlace ▸ isInterface, isActive, isCost⟩

theorem exists_get?_deviceCosts (resolved : deviceCosts options router device = .ok costs)
    (isCosted : (process, interface) ∈ costed device) :
    ∃ cost, costs.get? interface.name = some cost := by
  obtain ⟨entries, traversed, resolved⟩ := bind_eq_ok_iff.1 resolved
  rw [← pure_eq_ok_iff.1 resolved, ← Table.mem_keys_iff_exists, Table.mem_keys_ofList_iff]
  obtain ⟨entry, stepped⟩ := exists_mapM_iff.1 ⟨entries, traversed⟩ _ isCosted
  have isEntry : entry ∈ entries := (mem_mapM_iff traversed).2 ⟨_, isCosted, stepped⟩
  obtain ⟨given, _, stepped⟩ := bind_eq_ok_iff.1 stepped
  split at stepped
  · cases stepped
  · rw [← pure_eq_ok_iff.1 stepped] at isEntry
    exact List.mem_map.2 ⟨_, isEntry, rfl⟩

theorem get?_resolve {table : Table String (Table String Value)}
    (resolved : resolve devices options = .ok table)
    (isDevice : devices.get? router = some device) :
    ∃ costs, table.get? router = some costs ∧ deviceCosts options router device = .ok costs := by
  obtain ⟨rows, traversed, resolved⟩ := bind_eq_ok_iff.1 resolved
  have succeeded : devices.rows (deviceCosts options) = .ok rows := traversed
  obtain ⟨costs, isCosts⟩ := Table.exists_rows_iff.1 ⟨rows, succeeded⟩ router device isDevice
  rw [← pure_eq_ok_iff.1 resolved]
  exact ⟨costs, (Table.get?_ofList_rows_iff succeeded).2 ⟨device, isDevice, isCosts⟩, isCosts⟩

end OspfCost

/-! ## Edges and their costs -/

namespace Graph

variable {devices : Table String Device} {adjacency : Adjacency} {selection : Selection}
  {options : Options} {graph : Graph} {internal : InternalSessions} {router name : String}
  {device : Device} {interface : Interface} {edge : Edge}

def hasCost (graph : Graph) (router interface : String) : Bool :=
  (graph.costOf? router interface).any fun cost => !cost.isNull

/-- OSPF runs over the edges to other devices from interfaces that run it, unless they are
loopbacks. -/
theorem isUsed_ospf_iff : graph.isUsed router .ospf edge = true ↔
    edge.near.runsOspf = true ∧ edge.abstract = false ∧ edge.near.isAbstract = false ∧
      edge.near.isLoopback = false ∧ edge.peer.isSome = true := by
  have carries : edge.near.carries .ospf = edge.near.runsOspf := by
    rw [Interface.carries, Interface.setting, Interface.runsOspf]
    cases isActive : edge.near.isActive with
    | true => rfl
    | false => exact isActive
  rw [isUsed, Edge.use, carries]
  cases edge.near.runsOspf <;> cases edge.abstract <;> cases edge.near.isAbstract <;>
    cases edge.near.isLoopback <;> simp

/-- A graph tells a cost of an active interface exactly if OSPF has a process on the device, and
it is not left to settings that give none. -/
theorem BuiltWith.hasCost_iff
    (parts : BuiltWith devices adjacency selection options graph internal)
    (isDevice : graph.devices.get? router = some device) (named : NamesItsInterfaces device)
    (isInterface : device.interfaces.get? name = some interface)
    (givesName : interface.nameGiven = none) (isActive : interface.isActive = true) :
    graph.hasCost router name = true ↔
      device.ospf.isSome = true ∧ OspfCost.lacksCost graph.options interface = false := by
  obtain ⟨costs, isCosts, resolved⟩ := OspfCost.get?_resolve parts.costs isDevice
  have costOfIs : graph.costOf? router name = costs.get? name := by
    rw [costOf?, isCosts]
  rw [hasCost, costOfIs]
  constructor
  · intro hasCost
    obtain ⟨cost, found, isGiven⟩ := (Option.any_eq_true _ _).1 hasCost
    obtain ⟨process, other, runs, isOther, _, isCost⟩ :=
      OspfCost.of_get?_deviceCosts named resolved found
    obtain rfl : other = interface := Option.some.inj (isOther.symm.trans isInterface)
    rw [OspfCost.isNull_of_costOf givesName isCost, Bool.not_eq_true'] at isGiven
    exact ⟨runs ▸ rfl, isGiven⟩
  · intro ⟨hasProcess, isGiven⟩
    obtain ⟨process, runs⟩ := Option.isSome_iff_exists.1 hasProcess
    have isCosted : (process, interface) ∈ OspfCost.costed device :=
      OspfCost.mem_costed_iff.2 ⟨runs, ⟨name, isInterface⟩, isActive⟩
    obtain ⟨cost, found⟩ := OspfCost.exists_get?_deviceCosts resolved isCosted
    rw [named name interface isInterface] at found
    obtain ⟨_, other, _, isOther, _, isCost⟩ :=
      OspfCost.of_get?_deviceCosts named resolved found
    obtain rfl : other = interface := Option.some.inj (isOther.symm.trans isInterface)
    rw [found, Option.any_some, OspfCost.isNull_of_costOf givesName isCost, isGiven]
    rfl

end Graph

namespace Snapshot

/-- Where OSPF runs over an edge of the graph of a snapshot, the graph tells the cost of the
edge exactly if OSPF has a process on the device, and the cost is not left to settings that
give none. -/
theorem hasCost_of_ospfUse_iff {path : String} {value : Value} {snapshot : Snapshot}
    {selection : Selection} {graph : Graph} (isRead : Snapshot.read path value = .ok snapshot)
    (isBuilt : snapshot.build selection = .ok graph) {router : String} {device : Device}
    (isDevice : graph.devices.get? router = some device) {edge : Edge}
    (isListed : edge ∈ graph.edgesOf router) (isUsed : graph.isUsed router .ospf edge = true) :
    graph.hasCost router edge.near.name = true ↔
      device.ospf.isSome = true ∧ OspfCost.lacksCost graph.options edge.near = false := by
  obtain ⟨internal, parts⟩ := Graph.build_eq_ok_iff.1 isBuilt
  have named := wellNamed_of_read isRead
  obtain ⟨runs, isConcrete, _⟩ := Graph.isUsed_ospf_iff.1 isUsed
  obtain ⟨isActive, _⟩ := Bool.and_eq_true_iff.1 runs
  obtain ⟨other, isOther, isInterface, _⟩ :=
    (parts.isEdgeOf named isDevice isListed).near isConcrete
  obtain rfl : other = device := Option.some.inj (isOther.symm.trans isDevice)
  have isGiven := Graph.get?_of_selected parts.isSelected isDevice
  have isConfigured := isConfigured_interface isRead isGiven isInterface
  exact parts.hasCost_iff isDevice (named router other isGiven) isInterface
    isConfigured.nameGiven isActive

/-- A link one end of which runs OSPF at a configured cost, with what its device says of the
process. -/
def ospfLink (process : Value) : Value :=
  .map [
    (.text "devices", .map [
      (.text "a", .map [
        (.text "ospf", process),
        (.text "interfaces", .map [(.text "eth0", .map [
          (.text "prefix", .text "10.0.0.1/30"), (.text "ospf_enabled", .bool true),
          (.text "ospf_cost", .int 10)])])]),
      (.text "b", .map [
        (.text "interfaces", .map [(.text "eth0", .map [
          (.text "prefix", .text "10.0.0.2/30")])])])]),
    (.text "links", .list [.list [.text "a:eth0", .text "b:eth0"]])]

theorem hasCost_of_ospfUse_iff_ospfLink :
    ∃ snapshot graph device edge,
      Snapshot.read standardPath
        (ospfLink (.map [(.text "reference_bandwidth", .int 100000000)])) = .ok snapshot ∧
      snapshot.build .all = .ok graph ∧ graph.devices.get? "a" = some device ∧
      edge ∈ graph.edgesOf "a" ∧ graph.isUsed "a" .ospf edge = true ∧
      graph.hasCost "a" edge.near.name = true := by
  have evaluated : ((Snapshot.read standardPath
      (ospfLink (.map [(.text "reference_bandwidth", .int 100000000)]))).toOption.any fun snapshot =>
        (snapshot.build .all).toOption.any fun graph =>
          (graph.devices.get? "a").any fun device =>
            (graph.edgesOf "a").any fun edge =>
              graph.isUsed "a" .ospf edge && device.ospf.isSome &&
                !OspfCost.lacksCost graph.options edge.near) = true := by
    decide +kernel
  obtain ⟨snapshot, isRead, evaluated⟩ := (Option.any_eq_true _ _).1 evaluated
  obtain ⟨graph, isBuilt, evaluated⟩ := (Option.any_eq_true _ _).1 evaluated
  obtain ⟨device, isDevice, evaluated⟩ := (Option.any_eq_true _ _).1 evaluated
  obtain ⟨edge, isListed, evaluated⟩ := List.any_eq_true.1 evaluated
  rw [toOption_eq_some_iff] at isRead isBuilt
  simp only [Bool.and_eq_true, Bool.not_eq_true'] at evaluated
  obtain ⟨⟨isUsed, hasProcess⟩, isGiven⟩ := evaluated
  exact ⟨snapshot, graph, device, edge, isRead, isBuilt, isDevice, isListed, isUsed,
    (hasCost_of_ospfUse_iff isRead isBuilt isDevice isListed isUsed).2 ⟨hasProcess, isGiven⟩⟩

/-- Without a process OSPF runs over an edge without a cost, even if one is configured. -/
theorem exists_ospfUse_without_cost :
    ∃ snapshot graph edge, Snapshot.read standardPath (ospfLink .null) = .ok snapshot ∧
      snapshot.build .all = .ok graph ∧ edge ∈ graph.edgesOf "a" ∧
      graph.isUsed "a" .ospf edge = true ∧ graph.hasCost "a" edge.near.name = false := by
  have evaluated : ((Snapshot.read standardPath (ospfLink .null)).toOption.any fun snapshot =>
      (snapshot.build .all).toOption.any fun graph =>
        (graph.edgesOf "a").any fun edge =>
          graph.isUsed "a" .ospf edge && !graph.hasCost "a" edge.near.name) = true := by
    decide +kernel
  obtain ⟨snapshot, isRead, evaluated⟩ := (Option.any_eq_true _ _).1 evaluated
  obtain ⟨graph, isBuilt, evaluated⟩ := (Option.any_eq_true _ _).1 evaluated
  obtain ⟨edge, isListed, evaluated⟩ := List.any_eq_true.1 evaluated
  rw [toOption_eq_some_iff] at isRead isBuilt
  rw [Bool.and_eq_true, Bool.not_eq_true'] at evaluated
  exact ⟨snapshot, graph, edge, isRead, isBuilt, isListed, evaluated.1, evaluated.2⟩

end Snapshot

end RoutingPlane
