import RoutingPlane.Proofs.Domains.Partition
import RoutingPlane.Proofs.Graph.DeviceOrder

/-!
Domains and the order of devices. A domain grows along listed edges in their own
direction, and an edge to an interface without an address is not listed in the
other direction. So the domains are the connected groups of devices, and do not
depend on the order of the devices, exactly if there is a way back from where an
edge leads.
-/

namespace RoutingPlane

namespace Graph

/-- A listed edge leads from a device to another one, and neither the edge nor its
registered opposite is a session between autonomous systems. -/
abbrev InnerStep (graph : Graph) : String → String → Prop :=
  RoutingPlane.InnerStep graph.devices.keys graph.edges graph.reverse graph.external

/-- Two devices have the same domain number. -/
def SameDomain (graph : Graph) (left right : String) : Prop :=
  ∃ number, graph.domainOf left = .ok number ∧ graph.domainOf right = .ok number

variable {devices : Table String Device} {adjacency : Adjacency} {selection : Selection}
  {options : Options} {graph other : Graph} {left right here there head : String}

/-! ## The parts of a built graph -/

structure IsBuiltFrom (devices : Table String Device) (selection : Selection)
    (graph : Graph) : Prop where
  isSelected : selected devices selection = .ok graph.devices
  listed : graph.edges.keys = graph.devices.keys
  domains : graph.domains =
    partitionDomains graph.devices.keys graph.edges graph.reverse graph.external

theorem isBuiltFrom_of_build
    (succeeded : build devices adjacency selection options = .ok graph) :
    IsBuiltFrom devices selection graph := by
  obtain ⟨internal, parts⟩ := build_eq_ok_iff.1 succeeded
  have listed : graph.edges.keys = graph.devices.keys := by
    rw [parts.edges, allEdges, Table.keys_mapValues]
  exact ⟨parts.isSelected, listed, parts.domains⟩

theorem IsBuiltFrom.sameDomain_iff (isBuilt : IsBuiltFrom devices selection graph) :
    graph.SameDomain left right ↔
      ShareSource graph.InnerStep graph.devices.keys left right := by
  have once := nodup_flatten_partitionDomains graph.devices.keys graph.edges graph.reverse
    graph.external
  have domainOf_iff : ∀ device number, graph.domainOf device = .ok number ↔
      (domainNumbers graph.domains).get? device = some number := by
    intro device number
    rw [← findIdx?_contains_eq_some_iff (isBuilt.domains ▸ once), domainOf]
    cases graph.domains.findIdx? fun domain => domain.contains device <;> simp
  simp only [SameDomain, domainOf_iff, isBuilt.domains]
  exact exists_number_iff_shareSource _ _ _ _

theorem IsBuiltFrom.mem_of_innerStep (isBuilt : IsBuiltFrom devices selection graph)
    (isStep : graph.InnerStep here there) :
    here ∈ graph.devices.keys ∧ there ∈ graph.devices.keys := by
  obtain ⟨isModelled, edge, isEdge, _⟩ := isStep
  refine ⟨?_, isModelled⟩
  rw [← isBuilt.listed, Table.mem_keys_iff_exists]
  cases listed : graph.edges.get? here with
  | none => simp [listed] at isEdge
  | some edges => exact ⟨edges, rfl⟩

theorem innerStep_iff_mem_innerPeers : graph.InnerStep here there ↔
    there ∈ innerPeers graph.edges graph.reverse graph.external here ∧
      there ∈ graph.devices.keys := by
  rw [InnerStep, ← leadsTo_domainLinks]
  rfl

/-! ## Graphs that differ in the order of their devices -/

theorem SameUpToOrder.mem_edgesOf_iff (same : SameUpToOrder graph other) {router : String}
    {edge : Edge} : edge ∈ graph.edgesOf router ↔ edge ∈ other.edgesOf router := by
  cases isAbstract : edge.abstract with
  | true => exact same.abstract router edge isAbstract
  | false =>
      have isConcrete : ∀ edges : List Edge,
          edge ∈ edges ↔ edge ∈ edges.filter fun edge => !edge.abstract := by
        intro edges
        simp [isAbstract]
      rw [isConcrete, same.concrete router, ← isConcrete]

theorem SameUpToOrder.innerStep_eq (same : SameUpToOrder graph other) :
    graph.InnerStep = other.InnerStep := by
  funext here there
  apply propext
  refine and_congr same.devices.mem_keys (exists_congr fun edge => ?_)
  refine and_congr same.mem_edgesOf_iff ?_
  simp only [same.external.contains, same.reverse.get?]

end Graph

namespace Snapshot

variable {path : String} {value : Value} {snapshot : Snapshot} {selection : Selection}
  {graph other : Graph}

def BuildsInSomeOrder (snapshot : Snapshot) (selection : Selection) (graph : Graph) : Prop :=
  ∃ shuffled : Table String Device, shuffled.entries.Perm snapshot.devices.entries ∧
    { snapshot with devices := shuffled }.build selection = .ok graph

/-- In whatever order the devices are listed, two modelled devices have the same
domain exactly if they are joined by edges inside autonomous systems. -/
def DomainsAreComponents (snapshot : Snapshot) (selection : Selection) : Prop :=
  ∀ graph, snapshot.BuildsInSomeOrder selection graph →
    ∀ left ∈ graph.devices.keys, ∀ right ∈ graph.devices.keys,
      (graph.SameDomain left right ↔ Joined graph.InnerStep left right)

/-- The order in which the devices are listed does not decide which of them have the
same domain. -/
def DomainsIgnoreOrder (snapshot : Snapshot) (selection : Selection) : Prop :=
  ∀ graph other, snapshot.BuildsInSomeOrder selection graph →
    snapshot.BuildsInSomeOrder selection other →
    ∀ left ∈ graph.devices.keys, ∀ right ∈ graph.devices.keys,
      (graph.SameDomain left right ↔ other.SameDomain left right)

theorem BuildsInSomeOrder.isBuiltFrom (inSomeOrder : snapshot.BuildsInSomeOrder selection graph) :
    ∃ devices, Graph.IsBuiltFrom devices selection graph := by
  obtain ⟨shuffled, _, isBuilt⟩ := inSomeOrder
  exact ⟨shuffled, Graph.isBuiltFrom_of_build isBuilt⟩

theorem BuildsInSomeOrder.sameUpToOrder (isRead : Snapshot.read path value = .ok snapshot)
    (isBuilt : snapshot.build selection = .ok graph)
    (inSomeOrder : snapshot.BuildsInSomeOrder selection other) :
    graph.SameUpToOrder other := by
  obtain ⟨shuffled, permuted, otherBuilt⟩ := inSomeOrder
  exact (Graph.alike_build (wellNamed_of_read isRead) (Table.SameMap.of_perm permuted.symm)
    snapshot.adjacency selection snapshot.options).of_ok isBuilt otherBuilt

/-- Any modelled device can be listed first. -/
theorem exists_build_with_head (isRead : Snapshot.read path value = .ok snapshot)
    (isBuilt : snapshot.build selection = .ok graph) {head : String}
    (isModelled : head ∈ graph.devices.keys) :
    ∃ other, snapshot.BuildsInSomeOrder selection other ∧
      graph.SameUpToOrder other ∧ other.devices.keys.head? = some head := by
  have isSelected := (Graph.isBuiltFrom_of_build isBuilt).isSelected
  have isDevice : head ∈ snapshot.devices.keys := Graph.mem_keys_of_selected isSelected isModelled
  have permuted : (snapshot.devices.movedFirst head).entries.Perm snapshot.devices.entries :=
    List.filter_append_perm _ _
  obtain ⟨other, otherBuilt, same⟩ := (Graph.alike_build (wellNamed_of_read isRead)
    (Table.SameMap.of_perm permuted.symm) snapshot.adjacency selection
    snapshot.options).exists_right isBuilt
  exact ⟨other, ⟨_, permuted, otherBuilt⟩, same,
    Graph.head?_keys_selected (Graph.isBuiltFrom_of_build otherBuilt).isSelected
      (Table.head?_keys_movedFirst isDevice) (same.devices.mem_keys.1 isModelled)⟩

/-! ## When the domains are the connected groups -/

/-- If domains are connected components in every order, there is a way back from the end of a step.
A device that is listed first shares its domain only with what it reaches. -/
theorem returns_of_domainsAreComponents (isRead : Snapshot.read path value = .ok snapshot)
    (isBuilt : snapshot.build selection = .ok graph)
    (components : snapshot.DomainsAreComponents selection) : Returns graph.InnerStep := by
  intro here there isStep
  obtain ⟨hereModelled, thereModelled⟩ :=
    (Graph.isBuiltFrom_of_build isBuilt).mem_of_innerStep isStep
  obtain ⟨other, inSomeOrder, same, thereFirst⟩ :=
    exists_build_with_head isRead isBuilt thereModelled
  obtain ⟨devices, otherFrom⟩ := inSomeOrder.isBuiltFrom
  have joined : Joined other.InnerStep here there :=
    same.innerStep_eq ▸ Relation.EqvGen.rel here there isStep
  have sameDomain : other.SameDomain here there :=
    (components other inSomeOrder here (same.devices.mem_keys.1 hereModelled) there
      (same.devices.mem_keys.1 thereModelled)).2 joined
  rw [same.innerStep_eq]
  exact (otherFrom.sameDomain_iff.1 sameDomain).reaches_of_head thereFirst

/-- If the order does not matter, there is a way back from the end of a step. With the start listed
first both ends are in one domain; with the end first they are only if there is a way back. -/
theorem returns_of_domainsIgnoreOrder (isRead : Snapshot.read path value = .ok snapshot)
    (isBuilt : snapshot.build selection = .ok graph)
    (ignoreOrder : snapshot.DomainsIgnoreOrder selection) : Returns graph.InnerStep := by
  intro here there isStep
  obtain ⟨hereModelled, thereModelled⟩ :=
    (Graph.isBuiltFrom_of_build isBuilt).mem_of_innerStep isStep
  obtain ⟨onward, onwardInOrder, sameOnward, hereFirst⟩ :=
    exists_build_with_head isRead isBuilt hereModelled
  obtain ⟨back, backInOrder, sameBack, thereFirst⟩ :=
    exists_build_with_head isRead isBuilt thereModelled
  obtain ⟨_, onwardFrom⟩ := onwardInOrder.isBuiltFrom
  obtain ⟨_, backFrom⟩ := backInOrder.isBuiltFrom
  have sameDomain : onward.SameDomain here there := by
    rw [onwardFrom.sameDomain_iff]
    exact shareSource_of_head hereFirst (sameOnward.innerStep_eq ▸ isStep)
  have sameDomainBack : back.SameDomain here there :=
    (ignoreOrder onward back onwardInOrder backInOrder here
      (sameOnward.devices.mem_keys.1 hereModelled) there
      (sameOnward.devices.mem_keys.1 thereModelled)).1 sameDomain
  rw [sameBack.innerStep_eq]
  exact (backFrom.sameDomain_iff.1 sameDomainBack).reaches_of_head thereFirst

theorem sameDomain_iff_joined (isRead : Snapshot.read path value = .ok snapshot)
    (isBuilt : snapshot.build selection = .ok graph) (returns : Returns graph.InnerStep)
    (inSomeOrder : snapshot.BuildsInSomeOrder selection other) {left right : String}
    (isModelled : left ∈ graph.devices.keys) :
    other.SameDomain left right ↔ Joined graph.InnerStep left right := by
  have same := inSomeOrder.sameUpToOrder isRead isBuilt
  obtain ⟨_, otherFrom⟩ := inSomeOrder.isBuiltFrom
  rw [otherFrom.sameDomain_iff, ← same.innerStep_eq]
  exact returns.shareSource_iff_joined (same.devices.mem_keys.1 isModelled)

/-- The domains of a snapshot are its connected groups in whatever order the devices
are listed, and do not depend on this order, exactly if there is a way back from
where an edge inside an autonomous system leads. -/
theorem domains_iff_returns (isRead : Snapshot.read path value = .ok snapshot)
    (isBuilt : snapshot.build selection = .ok graph) :
    (snapshot.DomainsAreComponents selection ↔ Returns graph.InnerStep) ∧
      (snapshot.DomainsIgnoreOrder selection ↔ Returns graph.InnerStep) := by
  refine ⟨⟨returns_of_domainsAreComponents isRead isBuilt, ?_⟩,
    ⟨returns_of_domainsIgnoreOrder isRead isBuilt, ?_⟩⟩
  · intro returns other inSomeOrder left isLeft right _
    have same := inSomeOrder.sameUpToOrder isRead isBuilt
    rw [← same.innerStep_eq]
    exact sameDomain_iff_joined isRead isBuilt returns inSomeOrder
      (same.devices.mem_keys.2 isLeft)
  · intro returns first second firstInOrder secondInOrder left isLeft right _
    have isModelled := (firstInOrder.sameUpToOrder isRead isBuilt).devices.mem_keys.2 isLeft
    rw [sameDomain_iff_joined isRead isBuilt returns firstInOrder isModelled,
      sameDomain_iff_joined isRead isBuilt returns secondInOrder isModelled]

/-- The devices of the graph of a value, and where the edges of two of them lead. -/
def stepsOf (value : Value) (left right : String) :
    Except Fault (List String × List String × List String) := do
  let snapshot ← Snapshot.read standardPath value
  let graph ← snapshot.build .all
  return (graph.devices.keys, innerPeers graph.edges graph.reverse graph.external left,
    innerPeers graph.edges graph.reverse graph.external right)

theorem domains_iff_returns_twoSidedLink :
    ∃ snapshot graph, Snapshot.read standardPath twoSidedLink = .ok snapshot ∧
      snapshot.build .all = .ok graph ∧ Returns graph.InnerStep ∧
      snapshot.DomainsAreComponents .all ∧ snapshot.DomainsIgnoreOrder .all := by
  have evaluated : (stepsOf twoSidedLink "a" "b").toOption =
      some (["b", "a"], ["b"], ["a"]) := by
    decide +kernel
  obtain ⟨snapshot, isRead, succeeded⟩ :=
    bind_eq_ok_iff.1 (toOption_eq_some_iff.1 evaluated)
  obtain ⟨graph, isBuilt, succeeded⟩ := bind_eq_ok_iff.1 succeeded
  obtain ⟨keysAre, fromA, fromB⟩ := by simpa using pure_eq_ok_iff.1 succeeded
  have returns : Returns graph.InnerStep := by
    intro here there isStep
    obtain ⟨hereModelled, _⟩ := (Graph.isBuiltFrom_of_build isBuilt).mem_of_innerStep isStep
    refine .single ?_
    rw [Graph.innerStep_iff_mem_innerPeers, keysAre] at isStep ⊢
    rw [keysAre, List.mem_pair] at hereModelled
    rcases hereModelled with rfl | rfl
    · rw [fromB, List.mem_singleton] at isStep
      obtain ⟨rfl, _⟩ := isStep
      rw [fromA]
      simp
    · rw [fromA, List.mem_singleton] at isStep
      obtain ⟨rfl, _⟩ := isStep
      rw [fromB]
      simp
  obtain ⟨components, ignoreOrder⟩ := domains_iff_returns isRead isBuilt
  exact ⟨snapshot, graph, isRead, isBuilt, returns, components.2 returns, ignoreOrder.2 returns⟩

theorem not_domainsAreComponents_oneSidedLink :
    ∃ snapshot, Snapshot.read standardPath oneSidedLink = .ok snapshot ∧
      ¬ snapshot.DomainsAreComponents .all ∧ ¬ snapshot.DomainsIgnoreOrder .all := by
  have evaluated : (stepsOf oneSidedLink "a" "b").toOption =
      some (["b", "a"], ["b"], []) := by
    decide +kernel
  obtain ⟨snapshot, isRead, succeeded⟩ :=
    bind_eq_ok_iff.1 (toOption_eq_some_iff.1 evaluated)
  obtain ⟨graph, isBuilt, succeeded⟩ := bind_eq_ok_iff.1 succeeded
  obtain ⟨keysAre, fromA, fromB⟩ := by simpa using pure_eq_ok_iff.1 succeeded
  have noWayBack : ¬ Returns graph.InnerStep := by
    intro returns
    have isStep : graph.InnerStep "a" "b" := by
      rw [Graph.innerStep_iff_mem_innerPeers, fromA, keysAre]
      simp
    rcases (returns "a" "b" isStep).cases_head with same | ⟨next, isNext, _⟩
    · simp at same
    · rw [Graph.innerStep_iff_mem_innerPeers, fromB] at isNext
      simp at isNext
  exact ⟨snapshot, isRead,
    fun components => noWayBack (returns_of_domainsAreComponents isRead isBuilt components),
    fun ignoreOrder => noWayBack (returns_of_domainsIgnoreOrder isRead isBuilt ignoreOrder)⟩

end Snapshot

end RoutingPlane
