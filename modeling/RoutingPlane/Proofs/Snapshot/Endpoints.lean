import RoutingPlane.Proofs.Graph.LinkSections
import RoutingPlane.Proofs.Text.Split

/-!
The endpoints of links. An endpoint is the name of a device and the name of an interface with a
colon between them. The device is what stands before the first colon, so a device whose name
holds one cannot be linked, and the text of an endpoint tells both names. The adjacency of a
snapshot has a list for exactly the interfaces that are endpoints, and lists for each of them the
other endpoints of its links.
-/

namespace RoutingPlane

/-- A reference that an endpoint of a link can be: both names are given, and there is no colon in
the name of the device. -/
structure InterfaceRef.IsLinkable (ref : InterfaceRef) : Prop where
  device : ref.device ≠ ""
  interface : ref.interface ≠ ""
  noColon : ':' ∉ ref.device.toList

theorem InterfaceRef.toList_text (ref : InterfaceRef) :
    ref.text.toList = ref.device.toList ++ ':' :: ref.interface.toList := by
  rw [text, String.toList_append, String.toList_append, List.append_assoc]
  rfl

theorem InterfaceRef.cut?_text {ref : InterfaceRef} (noColon : ':' ∉ ref.device.toList) :
    Text.cut? ':' ref.text.toList = some (ref.device.toList, ref.interface.toList) := by
  rw [toList_text, Text.cut?_append_cons _ noColon]

/-- The text of a reference tells the device and the interface. -/
theorem InterfaceRef.IsLinkable.eq_of_text_eq {left right : InterfaceRef}
    (leftLinkable : left.IsLinkable) (rightLinkable : right.IsLinkable)
    (sameText : left.text = right.text) : left = right := by
  have sameCut := cut?_text leftLinkable.noColon
  rw [sameText, cut?_text rightLinkable.noColon, Option.some.injEq, Prod.mk.injEq,
    String.toList_inj, String.toList_inj] at sameCut
  obtain ⟨leftDevice, leftInterface⟩ := left
  obtain ⟨sameDevice, sameInterface⟩ := sameCut
  rw [InterfaceRef.mk.injEq]
  exact ⟨sameDevice.symm, sameInterface.symm⟩

namespace Link

variable {devices : Table String Device} {ref : InterfaceRef} {value endpoint : Value}

theorem toList_ne_nil_iff {text : String} : text.toList ≠ [] ↔ text ≠ "" := by
  rw [ne_eq, String.toList_eq_nil_iff]

/-- An endpoint is read as the reference whose text it is, if that reference can be linked. -/
theorem readEndpoint_eq_ok_iff :
    readEndpoint endpoint = .ok ref ↔ endpoint.toText = .ok ref.text ∧ ref.IsLinkable := by
  constructor
  · intro succeeded
    obtain ⟨shown, isShown, succeeded⟩ := bind_eq_ok_iff.1 succeeded
    split at succeeded
    next device interface isCut =>
      split at succeeded
      · cases succeeded
      next bothGiven =>
        obtain ⟨isText, noColon⟩ := Text.cut?_eq_some_iff.1 isCut
        rw [← pure_eq_ok_iff.1 succeeded]
        simp only [Bool.or_eq_true, List.isEmpty_iff, not_or] at bothGiven
        have sameText : shown = InterfaceRef.text ⟨String.ofList device, String.ofList interface⟩ := by
          rw [← String.toList_inj, InterfaceRef.toList_text, isText, String.toList_ofList,
            String.toList_ofList]
        refine ⟨sameText ▸ mapError_eq_ok_iff.1 isShown, ?_⟩
        constructor
        case device =>
          rw [← toList_ne_nil_iff, String.toList_ofList]
          exact bothGiven.1
        case interface =>
          rw [← toList_ne_nil_iff, String.toList_ofList]
          exact bothGiven.2
        case noColon =>
          rw [String.toList_ofList]
          exact noColon
    · cases succeeded
  · rintro ⟨isShown, isLinkable⟩
    refine bind_eq_ok_iff.2 ⟨ref.text, mapError_eq_ok_iff.2 isShown, ?_⟩
    have deviceGiven := toList_ne_nil_iff.2 isLinkable.device
    have interfaceGiven := toList_ne_nil_iff.2 isLinkable.interface
    simp [InterfaceRef.cut?_text isLinkable.noColon, deviceGiven, interfaceGiven,
      String.ofList_toList, pure, Except.pure]

theorem exists_elements_of_read {link : Link} (succeeded : Link.read devices value = .ok link) :
    ∃ ends, value.elements = .ok ends := by
  obtain ⟨ends, hasEnds, _⟩ := bind_eq_ok_iff.1 succeeded
  exact ⟨ends, mapError_eq_ok_iff.1 hasEnds⟩

theorem isLinkable_of_mem {link : Link} (isRead : Link.read devices value = .ok link)
    (isEndpoint : ref ∈ link) : ref.IsLinkable := by
  obtain ⟨ends, hasEnds⟩ := exists_elements_of_read isRead
  obtain ⟨endpoint, _, endpointRead⟩ := (mem_iff_names isRead hasEnds).1 isEndpoint
  exact (readEndpoint_eq_ok_iff.1 endpointRead).2

/-! ## The adjacency of links -/

variable {values : List Value} {links : List (List Value)} {read : List Link}

/-- Links have the same endpoints before and after they are read. -/
theorem exists_names_iff_of_read (haveEnds : values.mapM Value.elements = .ok links)
    (areRead : values.mapM (Link.read devices) = .ok read) :
    (∃ link ∈ links, Names link ref) ↔ ∃ link ∈ read, ref ∈ link := by
  constructor
  · rintro ⟨ends, isLink, names⟩
    obtain ⟨value, isValue, hasEnds⟩ := (mem_mapM_iff haveEnds).1 isLink
    obtain ⟨link, isRead⟩ := exists_mapM_iff.1 ⟨read, areRead⟩ value isValue
    exact ⟨link, (mem_mapM_iff areRead).2 ⟨value, isValue, isRead⟩,
      (mem_iff_names isRead hasEnds).2 names⟩
  · rintro ⟨link, isLink, isEndpoint⟩
    obtain ⟨value, isValue, isRead⟩ := (mem_mapM_iff areRead).1 isLink
    obtain ⟨ends, hasEnds⟩ := exists_mapM_iff.1 ⟨links, haveEnds⟩ value isValue
    exact ⟨ends, (mem_mapM_iff haveEnds).2 ⟨value, isValue, hasEnds⟩,
      (mem_iff_names isRead hasEnds).1 isEndpoint⟩

/-- An adjacency has a list for each endpoint of some links, and in it the other endpoints of the
links of that one, each once. -/
structure ListsMet (links : List (List Value)) (adjacency : Adjacency) : Prop where
  keys : ∀ ref, ref ∈ adjacency.keys ↔ ∃ link ∈ links, Names link ref
  met : ∀ ref others, adjacency.get? ref = some others →
    ∀ other, other ∈ others ↔ ref ≠ other ∧ ∃ link ∈ links, Names link ref ∧ Names link other
  once : ∀ ref others, adjacency.get? ref = some others → others.Nodup
  symmetric : ∀ ref other, other ∈ listed adjacency ref → ref ∈ listed adjacency other
  irreflexive : ∀ ref, ref ∉ listed adjacency ref

/-- Links that are read give the adjacency of their endpoints. -/
theorem listsMet_of_read (haveEnds : values.mapM Value.elements = .ok links)
    (areRead : values.mapM (Link.read devices) = .ok read) : ListsMet links (adjacency read) := by
  have listedOf : ∀ ref others, (adjacency read).get? ref = some others →
      listed (adjacency read) ref = others := by
    intro ref others found
    rw [listed, found, Option.getD_some]
  constructor
  case keys =>
    intro ref
    rw [mem_keys_adjacency_iff, exists_names_iff_of_read haveEnds areRead]
  case met =>
    intro ref others found other
    have joined : ref ≠ other ∧ (∃ link ∈ links, Names link ref ∧ Names link other) ↔
        ref ≠ other ∧ ∃ link ∈ read, ref ∈ link ∧ other ∈ link :=
      joins_iff_of_read haveEnds areRead
    rw [← listedOf ref others found, mem_listed_adjacency_iff, ne_comm, joined]
  case once =>
    intro ref others found
    rw [← listedOf ref others found]
    exact listsOnce_adjacency read ref
  case symmetric =>
    intro ref other isListed
    rw [mem_listed_adjacency_iff] at isListed ⊢
    obtain ⟨differs, link, isLink, isRef, isOther⟩ := isListed
    exact ⟨Ne.symm differs, link, isLink, isOther, isRef⟩
  case irreflexive =>
    intro ref isListed
    exact (mem_listed_adjacency_iff.1 isListed).1 rfl

end Link

namespace Snapshot

variable {path : String} {value : Value} {snapshot : Snapshot}

/-- Interfaces that are adjacent in a snapshot can be linked. -/
theorem isLinkable_of_mem_listed (isRead : Snapshot.read path value = .ok snapshot)
    {ref other : InterfaceRef} (isMet : other ∈ Link.listed snapshot.adjacency ref) :
    ref.IsLinkable ∧ other.IsLinkable := by
  obtain ⟨_, _, parts⟩ := read_eq_ok_iff.1 isRead
  obtain ⟨values, read, _, areRead, isAdjacency⟩ := parts.adjacency
  rw [isAdjacency, Link.mem_listed_adjacency_iff] at isMet
  obtain ⟨_, link, isLink, isRef, isOther⟩ := isMet
  obtain ⟨given, _, linkRead⟩ := (mem_mapM_iff areRead).1 isLink
  exact ⟨Link.isLinkable_of_mem linkRead isRef, Link.isLinkable_of_mem linkRead isOther⟩

/-- In a snapshot that is read, the interfaces that have a list in the adjacency are the endpoints
of the links, and two of them are adjacent exactly if they differ and a link names both, however
often endpoints are repeated within a link and on other links. -/
theorem adjacency_listsMet (isRead : Snapshot.read path value = .ok snapshot) :
    ∃ entries links, value.opened = .map entries ∧
      Link.endsIn (fieldOrNull "links" entries) = .ok links ∧
        Link.ListsMet links snapshot.adjacency := by
  obtain ⟨entries, isMapping, parts⟩ := read_eq_ok_iff.1 isRead
  obtain ⟨values, read, areValues, areRead, isAdjacency⟩ := parts.adjacency
  have haveEnds : ∃ links, values.mapM Value.elements = .ok links := by
    rw [exists_mapM_iff]
    intro given isValue
    obtain ⟨link, linkRead⟩ := exists_mapM_iff.1 ⟨read, areRead⟩ given isValue
    exact Link.exists_elements_of_read linkRead
  obtain ⟨links, haveEnds⟩ := haveEnds
  refine ⟨entries, links, isMapping, ?_, ?_⟩
  · rw [Link.endsIn, areValues]
    exact haveEnds
  · rw [isAdjacency]
    exact Link.listsMet_of_read haveEnds areRead

/-- Links that repeat endpoints, a pair in both directions, and one with a single endpoint. -/
def repeatedEnds : List (List String) :=
  [["a:eth0", "b:eth0", "a:eth0"], ["b:eth0", "c:eth0", "b:eth0"], ["b:eth0", "a:eth0"],
    ["c:eth0"]]

theorem adjacency_listsMet_repeatedEnds :
    ∃ snapshot, Snapshot.read standardPath (segmentWith repeatedEnds) = .ok snapshot ∧
      snapshot.adjacency.entries = [(⟨"a", "eth0"⟩, [⟨"b", "eth0"⟩]),
        (⟨"b", "eth0"⟩, [⟨"a", "eth0"⟩, ⟨"c", "eth0"⟩]), (⟨"c", "eth0"⟩, [⟨"b", "eth0"⟩])] ∧
      ∃ entries links, (segmentWith repeatedEnds).opened = .map entries ∧
        Link.endsIn (fieldOrNull "links" entries) = .ok links ∧
          Link.ListsMet links snapshot.adjacency := by
  have evaluated : (Snapshot.read standardPath (segmentWith repeatedEnds)).toOption.any
      (fun snapshot => decide (snapshot.adjacency.entries = [(⟨"a", "eth0"⟩, [⟨"b", "eth0"⟩]),
        (⟨"b", "eth0"⟩, [⟨"a", "eth0"⟩, ⟨"c", "eth0"⟩]),
        (⟨"c", "eth0"⟩, [⟨"b", "eth0"⟩])])) = true := by
    decide +kernel
  obtain ⟨snapshot, isRead, evaluated⟩ := exists_ok_of_any evaluated
  exact ⟨snapshot, isRead, of_decide_eq_true evaluated, adjacency_listsMet isRead⟩

end Snapshot

end RoutingPlane
