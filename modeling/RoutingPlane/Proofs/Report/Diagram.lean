import Mathlib.Data.Sym.Sym2
import RoutingPlane.Proofs.Graph.EdgeLists
import RoutingPlane.Proofs.Snapshot.Endpoints
import RoutingPlane.Proofs.Text.Order
import RoutingPlane.Report.Mermaid

/-!
The lines between the nodes of a diagram. What a line shows is told before it is written: its two
ends in order, and its kind. Of lines whose ends have the same texts only the first one is drawn,
and the text of an interface on a link tells the interface, so there is one line for every two
interfaces that an edge joins, in one direction or in both. An edge crosses a boundary exactly if
its opposite does, so the label of a line does not depend on the direction that is met first.
-/

namespace RoutingPlane

def InterfaceRef.linkTo (here there : InterfaceRef) : EdgeKey :=
  ⟨here.device, here.interface, some there.device, some there.interface, false⟩

namespace Mermaid

/-! ## Items that differ in a key -/

section FirstsBy

universe u v

variable {α : Type u} {κ : Type v} [DecidableEq κ] {keyOf : α → κ} {seen : List κ}
  {items : List α} {key : κ}

/-- Of the items with the same key the first one, unless the key is seen already. -/
def firstsBy (keyOf : α → κ) (seen : List κ) : List α → List α
  | [] => []
  | item :: rest =>
      if keyOf item ∈ seen then firstsBy keyOf seen rest
      else item :: firstsBy keyOf (keyOf item :: seen) rest

theorem firstsBy_sublist (keyOf : α → κ) (seen : List κ) (items : List α) :
    (firstsBy keyOf seen items).Sublist items := by
  induction items generalizing seen with
  | nil => exact .slnil
  | cons item rest inductionHypothesis =>
      rw [firstsBy]
      split
      · exact (inductionHypothesis seen).cons item
      · exact (inductionHypothesis _).cons_cons item

/-- Every key that was not seen keeps an item if the list has one for it. -/
theorem exists_mem_firstsBy_iff :
    (∃ item ∈ firstsBy keyOf seen items, keyOf item = key) ↔
      key ∉ seen ∧ ∃ item ∈ items, keyOf item = key := by
  induction items generalizing seen with
  | nil => simp [firstsBy]
  | cons item rest inductionHypothesis =>
      rw [firstsBy, List.exists_mem_cons_iff]
      by_cases isSeen : keyOf item ∈ seen
      · rw [if_pos isSeen, inductionHypothesis]
        have notSame : key ∉ seen → keyOf item ≠ key := by
          rintro isNew rfl
          exact isNew isSeen
        exact and_congr_right fun isNew => (or_iff_right (notSame isNew)).symm
      · rw [if_neg isSeen, List.exists_mem_cons_iff, inductionHypothesis, List.mem_cons]
        by_cases same : keyOf item = key
        · simp [same, same ▸ isSeen]
        · simp [same, Ne.symm same]

theorem nodup_map_firstsBy (keyOf : α → κ) (seen : List κ) (items : List α) :
    ((firstsBy keyOf seen items).map keyOf).Nodup := by
  induction items generalizing seen with
  | nil => exact List.nodup_nil
  | cons item rest inductionHypothesis =>
      rw [firstsBy]
      split
      · exact inductionHypothesis seen
      · rw [List.map_cons, List.nodup_cons, List.mem_map, exists_mem_firstsBy_iff]
        exact ⟨fun isLater => isLater.1 List.mem_cons_self, inductionHypothesis _⟩

end FirstsBy

/-! ## What is drawn -/

inductive LineKind where
  | link
  /-- A link between autonomous systems. -/
  | boundary
  | session
  deriving DecidableEq

structure Line where
  first : InterfaceRef
  second : InterfaceRef
  kind : LineKind

namespace Line

def text (line : Line) : String :=
  let left := "    " ++ nodeId line.first.device
  let right := nodeId line.second.device
  let interfaces := line.first.interface ++ "-" ++ line.second.interface
  match line.kind with
  | .session => left ++ " -.-|iBGP| " ++ right
  | .boundary => left ++ " ---|eBGP " ++ interfaces ++ "| " ++ right
  | .link => left ++ " ---|" ++ interfaces ++ "| " ++ right

def key (line : Line) : LineKey :=
  (line.first.text, line.second.text, decide (line.kind = .session))

def ends (line : Line) : Sym2 InterfaceRef :=
  s(line.first, line.second)

/-- The line stands for a link and not for a session inside an autonomous system. -/
def isConcrete (line : Line) : Bool :=
  decide (line.kind ≠ .session)

theorem isConcrete_iff {line : Line} : line.isConcrete = true ↔ line.kind ≠ .session :=
  decide_eq_true_iff

end Line

def lineKind (graph : Graph) (edge : EdgeKey) : LineKind :=
  if edge.abstract then .session else if isBoundary graph edge then .boundary else .link

def lineOf? (graph : Graph) (edge : EdgeKey) : Option Line :=
  (orderedEnds? edge).map fun ends => ⟨ends.1, ends.2, lineKind graph edge⟩

theorem lineKind_eq_session_iff {graph : Graph} {edge : EdgeKey} :
    lineKind graph edge = .session ↔ edge.abstract = true := by
  rw [lineKind]
  split
  · simp_all
  · split <;> simp_all

theorem text_eq_linkLine (graph : Graph) (edge : EdgeKey) (first second : InterfaceRef) :
    Line.text ⟨first, second, lineKind graph edge⟩ = linkLine graph edge first second := by
  rw [linkLine, lineKind]
  split
  · rfl
  · split <;> rfl

/-- The lines that are written are the texts of the first line for each key. -/
theorem linkLines_eq (graph : Graph) (drawn : List LineKey) (edges : List EdgeKey) :
    linkLines graph drawn edges =
      (firstsBy Line.key drawn (edges.filterMap (lineOf? graph))).map Line.text := by
  induction edges generalizing drawn with
  | nil => rfl
  | cons edge rest inductionHypothesis =>
      cases known : orderedEnds? edge with
      | none =>
          have notDrawn : lineOf? graph edge = none := by rw [lineOf?, known, Option.map_none]
          rw [List.filterMap_cons_none notDrawn, ← inductionHypothesis, linkLines, known]
      | some ends =>
          obtain ⟨first, second⟩ := ends
          have isDrawn : lineOf? graph edge = some ⟨first, second, lineKind graph edge⟩ := by
            rw [lineOf?, known, Option.map_some]
          have sameKey : Line.key ⟨first, second, lineKind graph edge⟩ =
              (first.text, second.text, edge.abstract) := by
            simp [Line.key, lineKind_eq_session_iff]
          rw [List.filterMap_cons_some isDrawn, firstsBy, sameKey, linkLines, known]
          simp only
          split
          · exact inductionHypothesis drawn
          · rw [List.map_cons, text_eq_linkLine, inductionHypothesis]

/-! ## The lines of links -/

section OrderedEnds

variable {here there first second : InterfaceRef}

/-- The ends of a link are put in order. -/
theorem orderedEnds?_linkTo_iff :
    orderedEnds? (here.linkTo there) = some (first, second) ↔
      first.notAfter second = true ∧ s(first, second) = s(here, there) := by
  have linear := le_total here.place there.place
  rw [← InterfaceRef.notAfter_iff, ← InterfaceRef.notAfter_iff] at linear
  have antisymmetric : here.notAfter there = true → there.notAfter here = true → here = there := by
    rw [InterfaceRef.notAfter_iff, InterfaceRef.notAfter_iff]
    exact fun forward backward => InterfaceRef.place_injective (le_antisymm forward backward)
  rw [orderedEnds?, InterfaceRef.linkTo, Sym2.eq_iff]
  simp only [Option.some.injEq]
  constructor
  · intro inOrder
    split at inOrder
    next isOrdered =>
      cases inOrder
      exact ⟨isOrdered, .inl ⟨rfl, rfl⟩⟩
    next isReversed =>
      cases inOrder
      exact ⟨linear.resolve_left isReversed, .inr ⟨rfl, rfl⟩⟩
  · rintro ⟨inOrder, ⟨rfl, rfl⟩ | ⟨rfl, rfl⟩⟩
    · rw [if_pos inOrder]
    · split
      next isOrdered => rw [antisymmetric isOrdered inOrder]
      · rfl

end OrderedEnds

/-- The edges of all devices by what identifies them, in the order in which they are drawn. -/
abbrev listed (graph : Graph) : List EdgeKey :=
  graph.edges.values.flatten.map Edge.key

abbrev edgeLines (graph : Graph) : List Line :=
  (listed graph).filterMap (lineOf? graph)

/-- In a graph, links join interfaces that can be linked, and a link crosses a boundary exactly
if one of its directions is a session between autonomous systems. -/
structure JoinsLinkable (graph : Graph) : Prop where
  linked : ∀ edge ∈ listed graph, edge.abstract = false → orderedEnds? edge = none ∨
    ∃ here there : InterfaceRef, here.IsLinkable ∧ there.IsLinkable ∧ edge = here.linkTo there
  boundary : ∀ here there : InterfaceRef, here.linkTo there ∈ listed graph →
    (isBoundary graph (here.linkTo there) = true ↔
      graph.external.contains (here.linkTo there) = true ∨
        graph.external.contains (there.linkTo here) = true)

/-- Lines draw the links of a graph once: there is one concrete line for every two interfaces that
a listed edge joins in one direction or in both, and it is labelled exactly if one of the two
directions is a session between autonomous systems. -/
structure DrawsLinksOnce (graph : Graph) (lines : List Line) : Prop where
  once : ((lines.filter Line.isConcrete).map Line.ends).Nodup
  drawn : ∀ here there : InterfaceRef,
    (∃ line ∈ lines, line.isConcrete = true ∧ line.ends = s(here, there)) ↔
      here.linkTo there ∈ listed graph ∨ there.linkTo here ∈ listed graph
  labelled : ∀ line ∈ lines, line.isConcrete = true → (line.kind = .boundary ↔
    graph.external.contains (line.first.linkTo line.second) = true ∨
      graph.external.contains (line.second.linkTo line.first) = true)

/-- What is drawn for a link, whichever of its directions is met. -/
structure Line.StandsForLink (graph : Graph) (line : Line) : Prop where
  first : line.first.IsLinkable
  second : line.second.IsLinkable
  ordered : line.first.notAfter line.second = true
  listed : line.first.linkTo line.second ∈ listed graph ∨
    line.second.linkTo line.first ∈ listed graph
  labelled : line.kind = .boundary ↔
    graph.external.contains (line.first.linkTo line.second) = true ∨
      graph.external.contains (line.second.linkTo line.first) = true

variable {graph : Graph} {line other : Line} {here there : InterfaceRef}

theorem lineKind_eq_boundary_iff :
    lineKind graph (here.linkTo there) = .boundary ↔
      isBoundary graph (here.linkTo there) = true := by
  rw [lineKind, if_neg (by simp [InterfaceRef.linkTo])]
  split <;> simp_all

theorem JoinsLinkable.standsForLink (joins : JoinsLinkable graph)
    (isDrawn : line ∈ edgeLines graph)
    (isConcrete : line.isConcrete = true) : line.StandsForLink graph := by
  obtain ⟨edge, isListed, isLine⟩ := List.mem_filterMap.1 isDrawn
  obtain ⟨⟨first, second⟩, inOrder, rfl⟩ := Option.map_eq_some_iff.1 isLine
  rw [Line.isConcrete_iff, ne_eq, lineKind_eq_session_iff, Bool.not_eq_true] at isConcrete
  rcases joins.linked edge isListed isConcrete with unknown | ⟨here, there, hereLinkable,
    thereLinkable, rfl⟩
  · rw [unknown] at inOrder
    cases inOrder
  · obtain ⟨isOrdered, sameEnds⟩ := orderedEnds?_linkTo_iff.1 inOrder
    have isLabelled := lineKind_eq_boundary_iff.trans (joins.boundary here there isListed)
    rcases Sym2.eq_iff.1 sameEnds with ⟨rfl, rfl⟩ | ⟨rfl, rfl⟩
    · exact ⟨hereLinkable, thereLinkable, isOrdered, .inl isListed, isLabelled⟩
    · exact ⟨thereLinkable, hereLinkable, isOrdered, .inr isListed, isLabelled.trans or_comm⟩

theorem exists_line_of_listed (isListed : here.linkTo there ∈ listed graph) :
    ∃ line ∈ edgeLines graph, line.isConcrete = true ∧ line.ends = s(here, there) := by
  obtain ⟨⟨first, second⟩, inOrder⟩ : ∃ ends, orderedEnds? (here.linkTo there) = some ends :=
    ⟨_, rfl⟩
  refine ⟨⟨first, second, lineKind graph (here.linkTo there)⟩, ?_, ?_, ?_⟩
  · apply List.mem_filterMap.2
    exact ⟨_, isListed, by rw [lineOf?, inOrder, Option.map_some]⟩
  · rw [Line.isConcrete_iff, ne_eq, lineKind_eq_session_iff]
    exact Bool.false_ne_true
  · exact (orderedEnds?_linkTo_iff.1 inOrder).2

namespace Line.StandsForLink

/-- The texts of the ends of a line tell the ends. -/
theorem ends_eq_of_key_eq (stands : line.StandsForLink graph) (others : other.StandsForLink graph)
    (sameKey : line.key = other.key) : line.ends = other.ends := by
  simp only [key, Prod.mk.injEq] at sameKey
  have sameFirst := stands.first.eq_of_text_eq others.first sameKey.1
  have sameSecond := stands.second.eq_of_text_eq others.second sameKey.2.1
  rw [ends, ends, sameFirst, sameSecond]

/-- Two lines with the same ends are one, as both have their ends in order. -/
theorem eq_of_ends_eq (stands : line.StandsForLink graph) (others : other.StandsForLink graph)
    (isConcrete : line.isConcrete = true) (otherConcrete : other.isConcrete = true)
    (sameEnds : line.ends = other.ends) : line = other := by
  obtain ⟨first, second, kind⟩ := line
  obtain ⟨otherFirst, otherSecond, otherKind⟩ := other
  have inOrder : orderedEnds? (otherFirst.linkTo otherSecond) = some (first, second) :=
    orderedEnds?_linkTo_iff.2 ⟨stands.ordered, sameEnds⟩
  rw [orderedEnds?_linkTo_iff.2 ⟨others.ordered, rfl⟩] at inOrder
  cases inOrder
  have sameLabel : kind = .boundary ↔ otherKind = .boundary :=
    stands.labelled.trans others.labelled.symm
  rw [Line.isConcrete_iff] at isConcrete otherConcrete
  cases kind <;> cases otherKind <;> simp_all

end Line.StandsForLink

/-- Lines and joined pairs correspond one to one, whatever order the edges are in. -/
theorem JoinsLinkable.drawsLinksOnce (joins : JoinsLinkable graph) :
    DrawsLinksOnce graph (firstsBy Line.key [] (edgeLines graph)) := by
  have stands : ∀ line ∈ firstsBy Line.key [] (edgeLines graph),
      line.isConcrete = true → line.StandsForLink graph :=
    fun line isKept => joins.standsForLink ((firstsBy_sublist _ _ _).mem isKept)
  constructor
  case once =>
    have keysDiffer := nodup_map_firstsBy Line.key [] (edgeLines graph)
    apply ((List.Nodup.of_map _ keysDiffer).filter _).map_on
    intro line isLine other isOther
    obtain ⟨isKept, isConcrete⟩ := List.mem_filter.1 isLine
    obtain ⟨otherKept, otherConcrete⟩ := List.mem_filter.1 isOther
    exact (stands line isKept isConcrete).eq_of_ends_eq (stands other otherKept otherConcrete)
      isConcrete otherConcrete
  case drawn =>
    intro here there
    constructor
    · rintro ⟨line, isKept, isConcrete, sameEnds⟩
      have isListed := (stands line isKept isConcrete).listed
      rcases Sym2.eq_iff.1 sameEnds with ⟨rfl, rfl⟩ | ⟨rfl, rfl⟩
      · exact isListed
      · exact isListed.symm
    · intro isListed
      obtain ⟨line, isDrawn, isConcrete, sameEnds⟩ :
          ∃ line ∈ edgeLines graph, line.isConcrete = true ∧ line.ends = s(here, there) := by
        rcases isListed with forward | backward
        · exact exists_line_of_listed forward
        · rw [Sym2.eq_swap]
          exact exists_line_of_listed backward
      obtain ⟨kept, isKept, sameKey⟩ :
          ∃ kept ∈ firstsBy Line.key [] (edgeLines graph), kept.key = line.key :=
        exists_mem_firstsBy_iff.2 ⟨List.not_mem_nil, line, isDrawn, rfl⟩
      have sameKind : kept.isConcrete = line.isConcrete := by
        simp only [Line.key, Prod.mk.injEq, decide_eq_decide] at sameKey
        simp [Line.isConcrete, sameKey.2.2]
      have keptConcrete := sameKind.trans isConcrete
      have keptEnds := (stands kept isKept keptConcrete).ends_eq_of_key_eq
        (joins.standsForLink isDrawn isConcrete) sameKey
      exact ⟨kept, isKept, keptConcrete, keptEnds.trans sameEnds⟩
  case labelled =>
    intro line isKept isConcrete
    exact (stands line isKept isConcrete).labelled

end Mermaid

/-! ## Graphs -/

namespace Graph

variable {devices : Table String Device} {adjacency : Adjacency} {selection : Selection}
  {options : Options} {graph : Graph} {internal : InternalSessions} {router : String}
  {here there : InterfaceRef} {edge : Edge}

theorem BuiltWith.mem_allListed_iff
    (parts : BuiltWith devices adjacency selection options graph internal) :
    edge ∈ graph.edges.values.flatten ↔ ∃ router, edge ∈ graph.edgesOf router := by
  rw [parts.allListed_eq, List.mem_flatMap]
  constructor
  · rintro ⟨entry, _, isListed⟩
    exact ⟨entry.1, isListed⟩
  · rintro ⟨router, isListed⟩
    obtain ⟨device, isDevice⟩ := parts.exists_device_of_mem_edgesOf isListed
    exact ⟨(router, device), Table.get?_eq_some_iff.1 isDevice, isListed⟩

/-- A concrete edge dangles or is that of a link. -/
theorem BuiltWith.linked_of_mem_edgesOf
    (parts : BuiltWith devices adjacency selection options graph internal)
    (named : WellNamed devices) (isListed : edge ∈ graph.edgesOf router)
    (isConcrete : edge.abstract = false) :
    edge.peer = none ∨ ∃ here there : InterfaceRef, there ∈ Link.listed adjacency here ∧
      edge.key = here.linkTo there := by
  have modelledNamed := wellNamed_selected named parts.isSelected
  rcases parts.of_mem_edgesOf isListed with ⟨device, isDevice, isLink⟩ | ⟨pair, _, rfl⟩
  · obtain ⟨name, interface, isInterface, isFrom⟩ := Topology.mem_edgesOf_iff.1 isLink
    rcases Topology.of_mem_edgesFrom isFrom with rfl | ⟨other, far, isEnd, _, rfl⟩
    · exact .inl rfl
    · obtain ⟨isMet, isFound⟩ := Topology.mem_ends_iff.1 isEnd
      have nearName := modelledNamed router device isDevice name interface isInterface
      have farName := Topology.name_of_interfaceAt? modelledNamed isFound
      refine .inr ⟨⟨router, name⟩, other, isMet, ?_⟩
      simp [Edge.key, Topology.linkEdge, InterfaceRef.linkTo, nearName, farName]
  · cases isConcrete

/-- A line shows a session between systems exactly if one runs over it in either direction. -/
theorem BuiltWith.isBoundary_linkTo_iff
    (parts : BuiltWith devices adjacency selection options graph internal)
    (isListed : here.linkTo there ∈ Mermaid.listed graph) :
    Mermaid.isBoundary graph (here.linkTo there) = true ↔
      graph.external.contains (here.linkTo there) = true ∨
        graph.external.contains (there.linkTo here) = true := by
  obtain ⟨involution, paired⟩ := reverse_isInvolution (build_eq_ok_iff.2 ⟨internal, parts⟩)
  obtain ⟨edge, isEdge, isLink⟩ := List.mem_map.1 isListed
  obtain ⟨router, isEdge⟩ := parts.mem_allListed_iff.1 isEdge
  have hasPeer : edge.peer = some there.device := congrArg EdgeKey.peer isLink
  have hasOpposite := (paired router edge isEdge).1.2 (Option.isSome_of_eq_some hasPeer)
  rw [isLink] at hasOpposite
  obtain ⟨opposite, isOpposite⟩ := Option.isSome_iff_exists.1 hasOpposite
  have isBack : opposite.key = there.linkTo here :=
    EdgeKey.opposes_iff.1 (involution _ opposite isOpposite).1
  rw [Mermaid.isBoundary, crossesBoundary, isOpposite, Bool.or_eq_true, ← isBack]

theorem BuiltWith.joinsLinkable
    (parts : BuiltWith devices adjacency selection options graph internal)
    (named : WellNamed devices)
    (linkable : ∀ ref other : InterfaceRef, other ∈ Link.listed adjacency ref →
      ref.IsLinkable ∧ other.IsLinkable) : Mermaid.JoinsLinkable graph where
  linked key isListed isConcrete := by
    obtain ⟨edge, isEdge, rfl⟩ := List.mem_map.1 isListed
    obtain ⟨router, isEdge⟩ := parts.mem_allListed_iff.1 isEdge
    rcases parts.linked_of_mem_edgesOf named isEdge isConcrete with dangles |
      ⟨here, there, isMet, isLink⟩
    · have noPeer : edge.key.peer = none := dangles
      rw [Mermaid.orderedEnds?, noPeer]
      exact .inl rfl
    · obtain ⟨hereLinkable, thereLinkable⟩ := linkable here there isMet
      exact .inr ⟨here, there, hereLinkable, thereLinkable, isLink⟩
  boundary _ _ isListed := parts.isBoundary_linkTo_iff isListed

end Graph

/-- The diagram of the graph of a snapshot has one line for every two interfaces that a concrete
edge joins in one direction or in both, whatever their names are, and the line is labelled exactly
if the edge in one of the two directions is a session between autonomous systems. -/
theorem Snapshot.diagram_drawsLinksOnce {path : String} {value : Value} {snapshot : Snapshot}
    {selection : Selection} {graph : Graph} (isRead : Snapshot.read path value = .ok snapshot)
    (isBuilt : snapshot.build selection = .ok graph) :
    ∃ lines : List Mermaid.Line,
      Mermaid.diagram graph = String.intercalate "\n"
        ("graph LR" :: graph.devices.keys.map Mermaid.nodeLine ++ lines.map Mermaid.Line.text) ∧
      Mermaid.DrawsLinksOnce graph lines := by
  obtain ⟨internal, parts⟩ := Graph.build_eq_ok_iff.1 isBuilt
  have named := Snapshot.wellNamed_of_read isRead
  have joins := parts.joinsLinkable named fun _ _ isMet => isLinkable_of_mem_listed isRead isMet
  refine ⟨_, ?_, joins.drawsLinksOnce⟩
  rw [Mermaid.diagram, Mermaid.lines, Mermaid.linkLines_eq]

/-- A border device with a session that is configured on its side only, a link between interfaces
with colons in their names, and a device that has the name of such an interface. -/
def colonLinks : Value :=
  .map [
    (.text "devices", .map [
      (.text "z", borderDevice), (.text "b", innerDevice),
      (.text "c", .map [(.text "interfaces", .map [
        (.text "eth0", .map [(.text "prefix", .text "10.0.0.2/30")]),
        (.text "b:1", .map [(.text "prefix", .text "10.0.1.1/30")])])]),
      (.text "c:b", .map [(.text "interfaces", .map [
        (.text "1", .map [(.text "prefix", .text "10.0.1.3/30")])])]),
      (.text "d.e", .map [(.text "interfaces", .map [
        (.text ":1", .map [(.text "prefix", .text "10.0.1.2/30")])])])]),
    (.text "links", .list [
      .list [.text "z:eth0", .text "c:eth0"], .list [.text "c:b:1", .text "d.e::1"]])]

theorem Snapshot.diagram_drawsLinksOnce_colonLinks :
    ∃ snapshot graph, Snapshot.read Snapshot.standardPath colonLinks = .ok snapshot ∧
      snapshot.build .all = .ok graph ∧
      Mermaid.lines graph = ["graph LR", "    z[z]", "    b[b]", "    c[c]", "    c_b[c:b]",
        "    d_e[d.e]", "    c ---|eBGP eth0-eth0| z", "    b -.-|iBGP| z",
        "    c ---|b:1-:1| d_e"] ∧
      ∃ lines : List Mermaid.Line,
        Mermaid.diagram graph = String.intercalate "\n"
          ("graph LR" :: graph.devices.keys.map Mermaid.nodeLine ++ lines.map Mermaid.Line.text) ∧
        Mermaid.DrawsLinksOnce graph lines := by
  have evaluated : ((Snapshot.read Snapshot.standardPath colonLinks).toOption.any fun snapshot =>
      (snapshot.build .all).toOption.any fun graph =>
        decide (Mermaid.lines graph = ["graph LR", "    z[z]", "    b[b]", "    c[c]",
          "    c_b[c:b]", "    d_e[d.e]", "    c ---|eBGP eth0-eth0| z", "    b -.-|iBGP| z",
          "    c ---|b:1-:1| d_e"])) = true := by
    decide +kernel
  obtain ⟨snapshot, isRead, evaluated⟩ := exists_ok_of_any evaluated
  obtain ⟨graph, isBuilt, evaluated⟩ := exists_ok_of_any evaluated
  exact ⟨snapshot, graph, isRead, isBuilt, of_decide_eq_true evaluated,
    Snapshot.diagram_drawsLinksOnce isRead isBuilt⟩

end RoutingPlane
