import RoutingPlane.Proofs.Graph.Selection
import RoutingPlane.Proofs.Snapshot.Adjacency

/-!
The links of a snapshot tell which interfaces are joined, and a graph depends on nothing
else of them. So it does not matter in what order links and their endpoints are written, how
often, and whether three interfaces on one segment are written as one link or as three.
-/

namespace RoutingPlane

namespace Link

variable {links others : List (List Value)} {link other : List Value} {left right : InterfaceRef}

/-- The endpoints on each link of a section, before they are read. -/
def endsIn (given : Value) : Except ValueFault (List (List Value)) := do
  (← given.elementsOrNone).mapM Value.elements

def Names (link : List Value) (ref : InterfaceRef) : Prop :=
  ∃ endpoint ∈ link, readEndpoint endpoint = .ok ref

/-- Two interfaces are different endpoints of a link. -/
def Joins (links : List (List Value)) (left right : InterfaceRef) : Prop :=
  left ≠ right ∧ ∃ link ∈ links, Names link left ∧ Names link right

def SameJoins (links others : List (List Value)) : Prop :=
  ∀ left right, Joins links left right ↔ Joins others left right

/-! ## Links written in another way -/

inductive Rewritten : List (List Value) → List (List Value) → Prop
  | symm {first second : List (List Value)} : Rewritten first second → Rewritten second first
  | trans {first second third : List (List Value)} :
      Rewritten first second → Rewritten second third → Rewritten first third
  | reorderLinks {first second : List (List Value)} : first.Perm second → Rewritten first second
  | reorderEnds {before after : List Value} (rest : List (List Value)) :
      before.Perm after → Rewritten (before :: rest) (after :: rest)
  | repeatLink {link : List Value} {links : List (List Value)} :
      link ∈ links → Rewritten links (link :: links)
  | repeatEnd {endpoint : Value} {link : List Value} (rest : List (List Value)) :
      endpoint ∈ link → Rewritten (link :: rest) ((endpoint :: link) :: rest)
  | addSingle (endpoint : Value) (rest : List (List Value)) : Rewritten rest ([endpoint] :: rest)
  | splitThree (first second third : Value) (rest : List (List Value)) :
      Rewritten ([first, second, third] :: rest)
        ([first, second] :: [second, third] :: [first, third] :: rest)

theorem joins_cons_iff :
    Joins (link :: links) left right ↔
      (left ≠ right ∧ Names link left ∧ Names link right) ∨ Joins links left right := by
  rw [Joins, Joins, List.exists_mem_cons_iff, and_or_left]

theorem sameJoins_cons (sameNames : ∀ ref, Names link ref ↔ Names other ref)
    (rest : List (List Value)) : SameJoins (link :: rest) (other :: rest) := by
  intro left right
  rw [joins_cons_iff, joins_cons_iff, sameNames, sameNames]

theorem names_cons_iff {endpoint : Value} {ref : InterfaceRef} :
    Names (endpoint :: link) ref ↔ readEndpoint endpoint = .ok ref ∨ Names link ref :=
  List.exists_mem_cons_iff _ _ _

/-- Links that are rewritten by the laws join the same interfaces. Where a link of three endpoints
is split, two different interfaces are named by two of the three. -/
theorem Rewritten.sameJoins (rewritten : Rewritten links others) : SameJoins links others := by
  induction rewritten with
  | symm _ inductionHypothesis => exact fun left right => (inductionHypothesis left right).symm
  | trans _ _ toMiddle fromMiddle =>
      exact fun left right => (toMiddle left right).trans (fromMiddle left right)
  | reorderLinks permuted =>
      intro left right
      simp only [Joins, permuted.mem_iff]
  | reorderEnds rest permuted =>
      apply sameJoins_cons
      intro ref
      simp only [Names, permuted.mem_iff]
  | repeatLink isLink =>
      intro left right
      rw [joins_cons_iff]
      exact (or_iff_right_of_imp fun joined => ⟨joined.1, _, isLink, joined.2⟩).symm
  | repeatEnd rest isEnd =>
      apply sameJoins_cons
      intro ref
      rw [names_cons_iff]
      exact (or_iff_right_of_imp fun isRead => ⟨_, isEnd, isRead⟩).symm
  | addSingle endpoint rest =>
      intro left right
      have alone : ¬(left ≠ right ∧ Names [endpoint] left ∧ Names [endpoint] right) := by
        rintro ⟨differ, isLeft, isRight⟩
        have notEmpty : ∀ ref, ¬Names [] ref := fun _ named => List.not_mem_nil named.choose_spec.1
        rw [names_cons_iff, or_iff_left (notEmpty _)] at isLeft isRight
        exact differ (Except.ok.inj (isLeft.symm.trans isRight))
      rw [joins_cons_iff, or_iff_right alone]
  | splitThree first second third rest =>
      intro left right
      have notEmpty : ∀ ref, ¬Names [] ref := fun _ named => List.not_mem_nil named.choose_spec.1
      have apart : left ≠ right → ∀ endpoint, readEndpoint endpoint = .ok left →
          readEndpoint endpoint ≠ .ok right := by
        intro differ endpoint isLeft isRight
        exact differ (Except.ok.inj (isLeft.symm.trans isRight))
      simp only [joins_cons_iff, names_cons_iff, notEmpty, or_false]
      grind

/-! ## The links of a snapshot -/

theorem mem_iff_names {devices : Table String Device} {value : Value} {link : Link}
    {ends : List Value} (isRead : Link.read devices value = .ok link)
    (hasEnds : value.elements = .ok ends) {ref : InterfaceRef} : ref ∈ link ↔ Names ends ref := by
  obtain ⟨given, isGiven, isRead⟩ := bind_eq_ok_iff.1 isRead
  obtain rfl := Except.ok.inj ((mapError_eq_ok_iff.1 isGiven).symm.trans hasEnds)
  obtain ⟨endpoints, endpointsRead, isKnown⟩ := bind_eq_ok_iff.1 isRead
  split at isKnown
  · cases isKnown
  · obtain rfl := pure_eq_ok_iff.1 isKnown
    exact mem_mapM_iff endpointsRead

/-- Links join the same interfaces before and after they are read. -/
theorem joins_iff_of_read {devices : Table String Device} {values : List Value}
    {ends : List (List Value)} {read : List Link} (haveEnds : values.mapM Value.elements = .ok ends)
    (areRead : values.mapM (Link.read devices) = .ok read) :
    Joins ends left right ↔ left ≠ right ∧ ∃ link ∈ read, left ∈ link ∧ right ∈ link := by
  refine and_congr_right fun _ => ⟨?_, ?_⟩
  · rintro ⟨_, isLink, namesLeft, namesRight⟩
    obtain ⟨value, isValue, hasEnds⟩ := (mem_mapM_iff haveEnds).1 isLink
    obtain ⟨link, isRead⟩ := exists_mapM_iff.1 ⟨read, areRead⟩ value isValue
    exact ⟨link, (mem_mapM_iff areRead).2 ⟨value, isValue, isRead⟩,
      (mem_iff_names isRead hasEnds).2 namesLeft, (mem_iff_names isRead hasEnds).2 namesRight⟩
  · rintro ⟨link, isLink, isLeft, isRight⟩
    obtain ⟨value, isValue, isRead⟩ := (mem_mapM_iff areRead).1 isLink
    obtain ⟨given, hasEnds⟩ := exists_mapM_iff.1 ⟨ends, haveEnds⟩ value isValue
    exact ⟨given, (mem_mapM_iff haveEnds).2 ⟨value, isValue, hasEnds⟩,
      (mem_iff_names isRead hasEnds).1 isLeft, (mem_iff_names isRead hasEnds).1 isRight⟩

end Link

namespace Snapshot

variable {path : String} {value left right settings devices : Value}
  {links leftLinks rightLinks : List (List Value)}
  {snapshot leftSnapshot rightSnapshot : Snapshot}

/-- The sections of a snapshot that is not yet read, with the endpoints on each link. -/
def HasSections (value settings devices : Value) (links : List (List Value)) : Prop :=
  ∃ entries, value.opened = .map entries ∧ fieldOrNull "settings" entries = settings ∧
    fieldOrNull "devices" entries = devices ∧
      Link.endsIn (fieldOrNull "links" entries) = .ok links

/-- The adjacency of a snapshot lists every interface that is joined to another one, once. -/
structure ListsJoined (snapshot : Snapshot) (links : List (List Value)) : Prop where
  nodup : ∀ ref, (Link.listed snapshot.adjacency ref).Nodup
  mem_iff : ∀ ref other, other ∈ Link.listed snapshot.adjacency ref ↔ Link.Joins links other ref

/-- The settings and the devices of a snapshot come from their own sections, and its adjacency
depends on what its links join. -/
theorem of_read (sections : HasSections value settings devices links)
    (isRead : Snapshot.read path value = .ok snapshot) :
    readOptions settings = .ok snapshot.options ∧
      (∃ entries, devices.fieldsOrNone = .ok entries ∧ readDevices entries = .ok snapshot.devices) ∧
        ListsJoined snapshot links := by
  obtain ⟨entries, isMapping, rfl, rfl, haveEnds⟩ := sections
  obtain ⟨_, sameMapping, parts⟩ := read_eq_ok_iff.1 isRead
  cases isMapping.symm.trans sameMapping
  refine ⟨parts.options, parts.devices, ?_⟩
  obtain ⟨values, read, areValues, areRead, isAdjacency⟩ := parts.adjacency
  rw [Link.endsIn, areValues] at haveEnds
  constructor
  · rw [isAdjacency]
    exact Link.listsOnce_adjacency read
  · intro ref other
    rw [isAdjacency, Link.mem_listed_adjacency_iff, Link.joins_iff_of_read haveEnds areRead]
    simp only [and_comm]

theorem ListsJoined.meetAlike (leftLists : ListsJoined leftSnapshot leftLinks)
    (rightLists : ListsJoined rightSnapshot rightLinks)
    (sameJoins : Link.SameJoins leftLinks rightLinks) (modelled : Table String Device) :
    Topology.MeetAlike modelled leftSnapshot.adjacency rightSnapshot.adjacency := by
  intro ref _
  have permuted : (Link.listed leftSnapshot.adjacency ref).Perm
      (Link.listed rightSnapshot.adjacency ref) := by
    rw [List.perm_ext_iff_of_nodup (leftLists.nodup ref) (rightLists.nodup ref)]
    intro other
    rw [leftLists.mem_iff, rightLists.mem_iff, sameJoins]
  exact permuted.filter _

/-- The graphs of two snapshots with the same settings and devices are equal if their links
join the same interfaces, however they are written. -/
theorem build_eq_of_sameJoins (leftSections : HasSections left settings devices leftLinks)
    (rightSections : HasSections right settings devices rightLinks)
    (leftRead : Snapshot.read path left = .ok leftSnapshot)
    (rightRead : Snapshot.read path right = .ok rightSnapshot)
    (sameLinks : Link.SameJoins leftLinks rightLinks ∨ Link.Rewritten leftLinks rightLinks)
    (selection : Selection) : leftSnapshot.build selection = rightSnapshot.build selection := by
  have sameJoins := sameLinks.elim id Link.Rewritten.sameJoins
  obtain ⟨leftOptions, ⟨leftEntries, leftMapping, leftDevices⟩, leftLists⟩ :=
    of_read leftSections leftRead
  obtain ⟨rightOptions, ⟨rightEntries, rightMapping, rightDevices⟩, rightLists⟩ :=
    of_read rightSections rightRead
  obtain rfl := Except.ok.inj (leftMapping.symm.trans rightMapping)
  have sameOptions := Except.ok.inj (leftOptions.symm.trans rightOptions)
  have sameDevices := Except.ok.inj (leftDevices.symm.trans rightDevices)
  have sameGraph : ∀ modelled,
      Graph.ofDevices modelled leftSnapshot.adjacency rightSnapshot.options =
        Graph.ofDevices modelled rightSnapshot.adjacency rightSnapshot.options := by
    intro modelled
    have meetAlike := leftLists.meetAlike rightLists sameJoins modelled
    rw [Graph.ofDevices, Graph.ofDevices, Topology.infer_eq_of_meetAlike meetAlike]
  simp only [build, Graph.build, sameOptions, sameDevices, sameGraph]

def segmentDevices : Value :=
  .map [
    (.text "a", .map [(.text "interfaces", .map [
      (.text "eth0", .map [(.text "prefix", .text "10.0.0.1/24")])])]),
    (.text "b", .map [(.text "interfaces", .map [
      (.text "eth0", .map [(.text "prefix", .text "10.0.0.2/24")])])]),
    (.text "c", .map [(.text "interfaces", .map [
      (.text "eth0", .map [(.text "prefix", .text "10.0.0.3/24")])])])]

abbrev written (links : List (List String)) : List (List Value) :=
  links.map fun link => link.map .text

def segmentWith (links : List (List String)) : Value :=
  .map [(.text "devices", segmentDevices), (.text "links", .list ((written links).map .list))]

def wholeLink : List (List String) :=
  [["a:eth0", "b:eth0", "c:eth0"]]

def pairLinks : List (List String) :=
  [["a:eth0", "c:eth0"], ["b:eth0", "c:eth0"], ["a:eth0", "b:eth0"], ["c:eth0", "c:eth0"]]

theorem build_eq_of_sameJoins_segment :
    ∃ leftSnapshot rightSnapshot,
      HasSections (segmentWith wholeLink) .null segmentDevices (written wholeLink) ∧
      HasSections (segmentWith pairLinks) .null segmentDevices (written pairLinks) ∧
      Snapshot.read standardPath (segmentWith wholeLink) = .ok leftSnapshot ∧
      Snapshot.read standardPath (segmentWith pairLinks) = .ok rightSnapshot ∧
      Link.Rewritten (written wholeLink) (written pairLinks) ∧
      leftSnapshot.build .all = rightSnapshot.build .all := by
  have leftSections : HasSections (segmentWith wholeLink) .null segmentDevices
      (written wholeLink) := ⟨_, rfl, rfl, rfl, rfl⟩
  have rightSections : HasSections (segmentWith pairLinks) .null segmentDevices
      (written pairLinks) := ⟨_, rfl, rfl, rfl, rfl⟩
  have leftEvaluated : (Snapshot.read standardPath (segmentWith wholeLink)).isOk = true := by
    decide +kernel
  have rightEvaluated : (Snapshot.read standardPath (segmentWith pairLinks)).isOk = true := by
    decide +kernel
  obtain ⟨leftSnapshot, leftRead⟩ := isOk_iff_exists.1 leftEvaluated
  obtain ⟨rightSnapshot, rightRead⟩ := isOk_iff_exists.1 rightEvaluated
  have rewritten : Link.Rewritten (written wholeLink) (written pairLinks) := by
    apply (Link.Rewritten.splitThree _ _ _ []).trans
    apply (Link.Rewritten.addSingle (.text "c:eth0") _).trans
    apply (Link.Rewritten.repeatEnd _ (List.mem_singleton.2 rfl)).trans
    exact .reorderLinks (List.reverse_perm _).symm
  exact ⟨leftSnapshot, rightSnapshot, leftSections, rightSections, leftRead, rightRead, rewritten,
    build_eq_of_sameJoins leftSections rightSections leftRead rightRead (.inr rewritten) .all⟩

end Snapshot

end RoutingPlane
