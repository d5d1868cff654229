import RoutingPlane.Graph
import RoutingPlane.Proofs.Table.Lookup
import RoutingPlane.Proofs.Text.Order
import RoutingPlane.Proofs.Topology.Edges

/-!
The graph of selected devices. It is built from their configuration and from the
adjacency of their own interfaces, whatever the other devices are and whatever
they are linked to.
-/

namespace RoutingPlane

namespace Topology

variable {devices : Table String Device} {left right : Adjacency}

/-- What an interface meets among the interfaces of some devices. -/
def met (devices : Table String Device) (adjacency : Adjacency) (ref : InterfaceRef) :
    List InterfaceRef :=
  ((adjacency.get? ref).getD []).filter fun other => (interfaceAt? devices other).isSome

/-- Every interface of some devices meets the same ones of them, in any order. -/
def MeetAlike (devices : Table String Device) (left right : Adjacency) : Prop :=
  ∀ ref, (interfaceAt? devices ref).isSome →
    (met devices left ref).Perm (met devices right ref)

/-- It is enough to go through the interfaces that the devices have. -/
theorem meetAlike_iff : MeetAlike devices left right ↔
    ∀ entry ∈ devices.entries, ∀ named ∈ entry.2.interfaces.entries,
      (met devices left ⟨entry.1, named.1⟩).Perm (met devices right ⟨entry.1, named.1⟩) := by
  constructor
  · intro alike entry isEntry named isNamed
    apply alike
    rw [Option.isSome_iff_exists]
    exact ⟨named.2, interfaceAt?_eq_some_iff.2
      ⟨entry.2, Table.get?_eq_some_iff.2 isEntry, Table.get?_eq_some_iff.2 isNamed⟩⟩
  · intro listed ref isInterface
    obtain ⟨interface, isInterface⟩ := Option.isSome_iff_exists.1 isInterface
    obtain ⟨device, isDevice, isNamed⟩ := interfaceAt?_eq_some_iff.1 isInterface
    exact listed (ref.device, device) (Table.get?_eq_some_iff.1 isDevice)
      (ref.interface, interface) (Table.get?_eq_some_iff.1 isNamed)

instance : Decidable (MeetAlike devices left right) :=
  decidable_of_iff _ meetAlike_iff.symm

/-- The interfaces next to an interface, before they are put in order. -/
abbrev found (devices : Table String Device) (adjacency : Adjacency) (ref : InterfaceRef) :
    List (InterfaceRef × Interface) :=
  ((adjacency.get? ref).getD []).filterMap fun other =>
    (interfaceAt? devices other).map fun interface => (other, interface)

theorem found_eq_filterMap_met (devices : Table String Device) (adjacency : Adjacency)
    (ref : InterfaceRef) :
    found devices adjacency ref = (met devices adjacency ref).filterMap fun other =>
      (interfaceAt? devices other).map fun interface => (other, interface) := by
  rw [met, List.filterMap_filter]
  apply List.filterMap_congr
  intro other _
  cases interfaceAt? devices other <;> simp

theorem interfaceAt?_of_mem_found {adjacency : Adjacency} {ref : InterfaceRef}
    {item : InterfaceRef × Interface} (isFound : item ∈ found devices adjacency ref) :
    interfaceAt? devices item.1 = some item.2 := by
  obtain ⟨other, _, isItem⟩ := List.mem_filterMap.1 isFound
  obtain ⟨interface, isInterface, rfl⟩ := Option.map_eq_some_iff.1 isItem
  exact isInterface

theorem pairwise_ends (devices : Table String Device) (adjacency : Adjacency)
    (ref : InterfaceRef) :
    (ends devices adjacency ref).Pairwise fun first second =>
      first.1.notAfter second.1 = true := by
  apply List.pairwise_mergeSort
  · intro first second third
    simp only [InterfaceRef.notAfter_iff]
    exact le_trans
  · intro first second
    simp only [Bool.or_eq_true, InterfaceRef.notAfter_iff]
    exact le_total _ _

/-- The order in which adjacent interfaces are listed does not matter, because they are put in
order: two in the same place have one reference, and it names one interface. -/
theorem ends_eq_of_meetAlike (alike : MeetAlike devices left right) {ref : InterfaceRef}
    (isInterface : (interfaceAt? devices ref).isSome) :
    ends devices left ref = ends devices right ref := by
  have permuted : (found devices left ref).Perm (found devices right ref) := by
    rw [found_eq_filterMap_met, found_eq_filterMap_met]
    exact (alike ref isInterface).filterMap _
  have endsPermuted : (ends devices left ref).Perm (ends devices right ref) :=
    (List.mergeSort_perm _ _).trans (permuted.trans (List.mergeSort_perm _ _).symm)
  apply endsPermuted.eq_of_pairwise _ (pairwise_ends devices left ref)
    (pairwise_ends devices right ref)
  intro first second isFirst isSecond notAfter notBefore
  have firstFound := interfaceAt?_of_mem_found (List.mem_mergeSort.1 isFirst)
  have secondFound := interfaceAt?_of_mem_found (List.mem_mergeSort.1 isSecond)
  rw [InterfaceRef.notAfter_iff] at notAfter notBefore
  have sameRef := InterfaceRef.place_injective (le_antisymm notAfter notBefore)
  rw [sameRef, secondFound, Option.some.injEq] at firstFound
  exact Prod.ext sameRef firstFound.symm

theorem edgesFrom_eq_of_meetAlike (alike : MeetAlike devices left right)
    {router name : String} (isInterface : (interfaceAt? devices ⟨router, name⟩).isSome)
    (interface : Interface) :
    edgesFrom devices left router name interface =
      edgesFrom devices right router name interface := by
  rw [edgesFrom, edgesFrom, ends_eq_of_meetAlike alike isInterface]

theorem edgesOf_eq_of_meetAlike (alike : MeetAlike devices left right) {router : String}
    {device : Device} (isDevice : devices.get? router = some device) :
    edgesOf devices left router device = edgesOf devices right router device := by
  apply List.flatMap_congr
  intro entry isEntry
  have isInterface : interfaceAt? devices ⟨router, entry.1⟩ = some entry.2 :=
    interfaceAt?_eq_some_iff.2 ⟨device, isDevice, Table.get?_eq_some_iff.2 isEntry⟩
  exact edgesFrom_eq_of_meetAlike alike (isInterface ▸ rfl) entry.2

theorem infer_eq_of_meetAlike (alike : MeetAlike devices left right) :
    infer devices left = infer devices right := by
  have sameEdges : devices.mapValues (edgesOf devices left) =
      devices.mapValues (edgesOf devices right) := by
    apply Table.mapValues_congr
    intro router device isDevice
    exact edgesOf_eq_of_meetAlike alike isDevice
  rw [infer, infer, sameEdges]

end Topology

namespace Graph

abbrev selectedBy (names : List String) (devices : Table String Device) :
    Table String Device :=
  devices.filterKeys fun name => names.contains name

/-- Nothing that is configured on a device that is not selected, or linked to it,
has an influence on a graph or on a fault. -/
theorem build_confined {left right : Table String Device} {names : List String}
    {leftAdjacency rightAdjacency : Adjacency}
    (sameDevices : selectedBy names left = selectedBy names right)
    (meetAlike : Topology.MeetAlike (selectedBy names left) leftAdjacency rightAdjacency)
    (options : Options) :
    build left leftAdjacency (.only names) options =
      build right rightAdjacency (.only names) options := by
  have sameTopology := Topology.infer_eq_of_meetAlike meetAlike
  have sameGraph : ofDevices (selectedBy names left) leftAdjacency options =
      ofDevices (selectedBy names left) rightAdjacency options := by
    unfold ofDevices
    rw [sameTopology]
  calc build left leftAdjacency (.only names) options
      = ofDevices (selectedBy names left) leftAdjacency options := rfl
    _ = ofDevices (selectedBy names left) rightAdjacency options := sameGraph
    _ = ofDevices (selectedBy names right) rightAdjacency options := by rw [sameDevices]
    _ = build right rightAdjacency (.only names) options := rfl

def singleHomed (name : String) (bits : BitVec 32) : Device where
  name := name
  interfaces := Table.ofList [("eth0",
    { name := "eth0", address := InterfaceAddress.ofParts? (.v4 bits) 24 })]

def segment : Table String Device :=
  Table.ofList [("a", singleHomed "a" 0x0A000001), ("c", singleHomed "c" 0x0A000003),
    ("b", singleHomed "b" 0x0A000002)]

def segmentAdjacency (names : List String) : Adjacency :=
  Link.adjacency [names.map fun name => ⟨name, "eth0"⟩]

theorem build_confined_segment :
    Topology.MeetAlike (selectedBy ["a", "b"] segment)
        (segmentAdjacency ["a", "b", "c"]) (segmentAdjacency ["b", "a"]) ∧
      build segment (segmentAdjacency ["a", "b", "c"]) (.only ["a", "b"]) {} =
        build (selectedBy ["a", "b"] segment) (segmentAdjacency ["b", "a"])
          (.only ["a", "b"]) {} := by
  have meetAlike : Topology.MeetAlike (selectedBy ["a", "b"] segment)
      (segmentAdjacency ["a", "b", "c"]) (segmentAdjacency ["b", "a"]) := by
    decide +kernel
  exact ⟨meetAlike, build_confined rfl meetAlike {}⟩

end Graph

end RoutingPlane
