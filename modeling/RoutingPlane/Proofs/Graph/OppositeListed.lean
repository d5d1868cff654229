import RoutingPlane.Proofs.Graph.Reverse

/-!
Which opposites of listed edges are listed themselves. The opposite of an edge is
entered by the device at its start, but it is listed by the device at its end, which
goes through what its own interface meets. So it is listed exactly if that interface
has an address, meets few enough interfaces and meets the one at the start.
-/

namespace RoutingPlane

variable {devices : Table String Device} {adjacency : Adjacency} {options : Options}
  {selection : Selection}

namespace Topology

theorem length_ends (devices : Table String Device) (adjacency : Adjacency)
    (ref : InterfaceRef) :
    (ends devices adjacency ref).length = (met devices adjacency ref).length := by
  have sameCount : (found devices adjacency ref).length = (met devices adjacency ref).length := by
    rw [met, List.length_filterMap_eq_countP, ← List.countP_eq_length_filter]
    simp
  rw [ends, List.length_mergeSort, sameCount]

/-- An interface has an address, meets at most two interfaces, and meets a given one. -/
def LinksTo (devices : Table String Device) (adjacency : Adjacency)
    (here there : InterfaceRef) : Prop :=
  ((interfaceAt? devices here).bind Interface.address).isSome = true ∧
    (met devices adjacency here).length ≤ 2 ∧ there ∈ met devices adjacency here

instance {here there : InterfaceRef} : Decidable (LinksTo devices adjacency here there) :=
  inferInstanceAs (Decidable (_ ∧ _))

theorem mem_met_iff {here there : InterfaceRef} :
    there ∈ met devices adjacency here ↔
      ∃ interface, (there, interface) ∈ ends devices adjacency here := by
  simp only [met, List.mem_filter, mem_ends_iff, Option.isSome_iff_exists, exists_and_left]

/-- A link is listed from an interface to one of another device exactly if the first interface has
an address and few enough ends, and the second one is among these. The key that opposes has a peer,
so it is that of a link, and interfaces bear their own names, so it is the link between the two. -/
theorem exists_listed_iff (named : WellNamed devices) (here there : InterfaceRef)
    (apart : there.device ≠ here.device) :
    (∃ edge ∈ ((infer devices adjacency).edges.get? here.device).getD [],
        edge.key = ⟨here.device, here.interface, some there.device, some there.interface, false⟩) ↔
      LinksTo devices adjacency here there := by
  rw [LinksTo, ← length_ends, mem_met_iff]
  constructor
  · rintro ⟨edge, isListed, isKey⟩
    obtain ⟨device, isDevice, isListed⟩ := mem_getD_edges_iff.1 isListed
    obtain ⟨name, interface, isInterface, isFrom⟩ := mem_edgesOf_iff.1 isListed
    have ownName : interface.name = name :=
      named here.device device isDevice name interface isInterface
    obtain ⟨hasAddress, dangles | links⟩ := mem_edgesFrom_iff.1 isFrom
    · have noPeer := congrArg EdgeKey.peer isKey
      rw [dangles.1] at noPeer
      cases noPeer
    · obtain ⟨few, other, far, isEnd, _, rfl⟩ := links
      have farName := name_of_interfaceAt? named (mem_ends_iff.1 isEnd).2
      simp only [Edge.key, linkEdge, Option.map_some, EdgeKey.mk.injEq, Option.some.injEq,
        true_and, and_true] at isKey
      obtain ⟨nearName, isPeer, isFar⟩ := isKey
      have isHere : here = ⟨here.device, name⟩ := by rw [← ownName, nearName]
      have isThere : there = other := by
        rw [farName] at isFar
        obtain ⟨device, name⟩ := there
        cases isPeer
        cases isFar
        rfl
      have nearFound : interfaceAt? devices ⟨here.device, name⟩ = some interface :=
        interfaceAt?_eq_some_iff.2 ⟨device, isDevice, isInterface⟩
      rw [isHere, isThere]
      exact ⟨by rw [nearFound]; exact hasAddress, few, far, isEnd⟩
  · rintro ⟨hasAddress, few, far, isEnd⟩
    obtain ⟨address, isAddress⟩ := Option.isSome_iff_exists.1 hasAddress
    obtain ⟨interface, nearFound, isAddress⟩ := Option.bind_eq_some_iff.1 isAddress
    obtain ⟨device, isDevice, isInterface⟩ := interfaceAt?_eq_some_iff.1 nearFound
    have nearName := name_of_interfaceAt? named nearFound
    have farName := name_of_interfaceAt? named (mem_ends_iff.1 isEnd).2
    have isFrom : linkEdge here.device interface there.device far ∈
        edgesFrom devices adjacency here.device here.interface interface :=
      mem_edgesFrom_iff.2 ⟨isAddress ▸ rfl, .inr ⟨few, there, far, isEnd, apart, rfl⟩⟩
    refine ⟨linkEdge here.device interface there.device far, ?_, ?_⟩
    · have isListed := mem_edgesOf_iff.2 ⟨here.interface, interface, isInterface, isFrom⟩
      exact mem_getD_edges_iff.2 ⟨device, isDevice, isListed⟩
    · simp [Edge.key, linkEdge, nearName, farName]

/-- What is known of the key of a listed link. -/
theorem key_of_mem_edges {router peer : String} {edge : Edge} {far : Interface}
    (isListed : edge ∈ ((infer devices adjacency).edges.get? router).getD [])
    (isPeer : edge.peer = some peer) (isFar : edge.far = some far) :
    edge.key = ⟨router, edge.near.name, some peer, some far.name, false⟩ ∧ router ≠ peer ∧
      PairedIn (oppositePairs devices adjacency) edge := by
  obtain ⟨device, isDevice, isListed⟩ := mem_getD_edges_iff.1 isListed
  have isRouter := router_of_mem_edgesOf isListed
  have isConcrete := concrete_of_mem_edgesOf isListed
  have hasOpposite := Edge.opposite?_eq_some_iff.2 ⟨peer, far, isPeer, isFar, rfl⟩
  have apart := apart_of_mem_edgesOf isListed hasOpposite
  rw [isRouter] at apart
  refine ⟨?_, apart, pairedIn_of_mem_edgesOf isDevice isListed⟩
  rw [Edge.key, isRouter, isPeer, isFar, isConcrete]
  rfl

end Topology

/-- The opposite of an edge is among the edges that a device lists. -/
def OppositeListed (edges : Table String (List Edge)) (reverse : EdgeMap Edge) (edge : Edge)
    (device : String) : Prop :=
  ∃ opposite, reverse.get? edge.key = some opposite ∧
    ∃ listed ∈ (edges.get? device).getD [], listed.key = opposite.key

/-- The opposite of an edge is listed exactly if some edge with the opposite key is. -/
theorem oppositeListed_iff {edges : Table String (List Edge)} {reverse : EdgeMap Edge}
    (isInvolution : IsInvolution reverse) {edge : Edge}
    (isContained : reverse.contains edge.key = true) {router near peer far : String}
    {abstract : Bool} (isKey : edge.key = ⟨router, near, some peer, some far, abstract⟩) :
    OppositeListed edges reverse edge peer ↔
      ∃ listed ∈ (edges.get? peer).getD [],
        listed.key = ⟨peer, far, some router, some near, abstract⟩ := by
  obtain ⟨opposite, isOpposite⟩ := Option.isSome_iff_exists.1 isContained
  have opposes := (isInvolution edge.key opposite isOpposite).1
  rw [isKey, EdgeKey.opposes_iff] at opposes
  constructor
  · rintro ⟨other, isOther, listed, isListed, sameKey⟩
    rw [isOpposite, Option.some.injEq] at isOther
    exact ⟨listed, isListed, by rw [sameKey, ← isOther, opposes]⟩
  · rintro ⟨listed, isListed, sameKey⟩
    exact ⟨opposite, isOpposite, listed, isListed, by rw [sameKey, opposes]⟩

/-- In a topology the other end decides whether the opposite of a link is listed. -/
theorem Topology.oppositeListed_infer_iff (named : WellNamed devices) {router peer : String}
    {edge : Edge} {far : Interface}
    (isListed : edge ∈ ((infer devices adjacency).edges.get? router).getD [])
    (isPeer : edge.peer = some peer) (isFar : edge.far = some far) :
    OppositeListed (infer devices adjacency).edges (infer devices adjacency).reverse edge peer ↔
      LinksTo devices adjacency ⟨peer, far.name⟩ ⟨router, edge.near.name⟩ := by
  obtain ⟨isKey, apart, paired⟩ := key_of_mem_edges isListed isPeer isFar
  have isInvolution : IsInvolution (infer devices adjacency).reverse :=
    (pairsUp_oppositePairs devices adjacency).isInvolution
  have isContained : (infer devices adjacency).reverse.contains edge.key = true :=
    EdgeMap.contains_ofList_iff.2 (paired.entered (isPeer ▸ rfl))
  rw [oppositeListed_iff isInvolution isContained isKey]
  exact exists_listed_iff named ⟨peer, far.name⟩ ⟨router, edge.near.name⟩ apart

/-! ## Parsed devices and their graphs -/

variable {path : String} {value : Value} {snapshot : Snapshot} {graph : Graph}
  {router peer : String} {edge : Edge} {far : Interface}

/-- The opposite of a listed link between parsed devices is listed exactly if the remote
interface has an address, meets at most two existing interfaces and meets the local one. -/
theorem Snapshot.reverse_listed_iff (isRead : Snapshot.read path value = .ok snapshot)
    (isSelected : Graph.selected snapshot.devices selection = .ok devices)
    (isListed : edge ∈ ((Topology.infer devices adjacency).edges.get? router).getD [])
    (isPeer : edge.peer = some peer) (isFar : edge.far = some far) :
    OppositeListed (Topology.infer devices adjacency).edges
        (Topology.infer devices adjacency).reverse edge peer ↔
      Topology.LinksTo devices adjacency ⟨peer, far.name⟩ ⟨router, edge.near.name⟩ := by
  have named := Graph.wellNamed_selected (Snapshot.wellNamed_of_read isRead) isSelected
  exact Topology.oppositeListed_infer_iff named isListed isPeer isFar

theorem Snapshot.reverse_listed_iff_oneSidedLink :
    ∃ snapshot edge far, Snapshot.read Snapshot.standardPath oneSidedLink = .ok snapshot ∧
      Graph.selected snapshot.devices .all = .ok snapshot.devices ∧
      edge ∈ ((Topology.infer snapshot.devices snapshot.adjacency).edges.get? "a").getD [] ∧
      edge.peer = some "b" ∧ edge.far = some far ∧
      (OppositeListed (Topology.infer snapshot.devices snapshot.adjacency).edges
          (Topology.infer snapshot.devices snapshot.adjacency).reverse edge "b" ↔
        Topology.LinksTo snapshot.devices snapshot.adjacency ⟨"b", far.name⟩
          ⟨"a", edge.near.name⟩) := by
  have evaluated : (Snapshot.read Snapshot.standardPath oneSidedLink).toOption.any (fun snapshot =>
      decide (Topology.LinksTo snapshot.devices snapshot.adjacency ⟨"a", "eth0"⟩
        ⟨"b", "eth0"⟩)) = true := by
    decide +kernel
  obtain ⟨snapshot, isRead, linked⟩ := (Option.any_eq_true _ _).1 evaluated
  rw [toOption_eq_some_iff] at isRead
  have named := Snapshot.wellNamed_of_read isRead
  obtain ⟨edge, isListed, isKey⟩ :=
    (Topology.exists_listed_iff named ⟨"a", "eth0"⟩ ⟨"b", "eth0"⟩ (by decide)).2
      (of_decide_eq_true linked)
  have isPeer : edge.peer = some "b" := congrArg EdgeKey.peer isKey
  have farName : edge.far.map Interface.name = some "eth0" := congrArg EdgeKey.far isKey
  obtain ⟨far, isFar, _⟩ := Option.map_eq_some_iff.1 farName
  have isSelected : Graph.selected snapshot.devices .all = .ok snapshot.devices := rfl
  exact ⟨snapshot, edge, far, isRead, isSelected, isListed, isPeer, isFar,
    Snapshot.reverse_listed_iff isRead isSelected isListed isPeer isFar⟩

end RoutingPlane
