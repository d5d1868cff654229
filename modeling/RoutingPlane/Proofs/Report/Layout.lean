import RoutingPlane.Proofs.Domains.Partition
import RoutingPlane.Proofs.Graph.SessionQueries
import RoutingPlane.Proofs.Report.Hypertext

/-!
The layout of the page of a report. Which pieces of a page are markup, and which one is a text, is
decided by the numbers of rows in its tables alone, and every text stands where text may stand.
So the configuration of a network decides the tags of its page only through these numbers.
-/

namespace RoutingPlane

open Hypertext

/-! ## Pieces and slots -/

namespace PagePiece

/-- The place of a piece in the layout of its page. -/
def slot : PagePiece → Slot
  | markup written => .markup written
  | text _ => .gap

def text? : PagePiece → Option String
  | markup _ => none
  | text shown => some shown

/-- A page is its layout with its texts in the gaps. -/
theorem filled_slots (pieces : List PagePiece) :
    filled (pieces.map slot) (pieces.filterMap text?) = pieces.flatMap written := by
  induction pieces with
  | nil => rfl
  | cons piece rest inductionHypothesis =>
      rw [List.map_cons, List.flatMap_cons, ← inductionHypothesis]
      cases piece <;> rfl

end PagePiece

namespace Report

open PagePiece

/-! ## Tables -/

def rowSlots (width : Nat) : List Slot :=
  .markup "\n    <tr>" ::
    (List.replicate width [.markup "<td>", .gap, .markup "</td>"]).flatten ++
      [.markup "</tr>\n    "]

theorem slots_tableRow (cells : List String) :
    (tableRow cells).map slot = rowSlots cells.length := by
  have slotsOfCells : (cells.flatMap cell).map slot =
      (List.replicate cells.length [.markup "<td>", .gap, .markup "</td>"]).flatten := by
    induction cells with
    | nil => rfl
    | cons shown rest inductionHypothesis =>
        rw [List.flatMap_cons, List.map_append, inductionHypothesis, List.length_cons,
          List.replicate_succ, List.flatten_cons]
        rfl
  rw [tableRow, List.map_append, List.map_cons, slotsOfCells]
  rfl

theorem texts_tableRow (cells : List String) : (tableRow cells).filterMap text? = cells := by
  have textsOfCells : (cells.flatMap cell).filterMap text? = cells := by
    induction cells with
    | nil => rfl
    | cons shown rest inductionHypothesis =>
        rw [List.flatMap_cons, List.filterMap_append, inductionHypothesis]
        rfl
  rw [tableRow, List.filterMap_append, List.filterMap_cons_none rfl, textsOfCells]
  exact List.append_nil cells

def sectionSlots (heading : String) (columns : List String) (widths : List Nat) : List Slot :=
  .markup ("<h2>" ++ heading ++ "</h2>\n  " ++ tableHead columns) :: widths.flatMap rowSlots ++
    [.markup "\n  </table>"]

variable {heading : String} {columns : List String} {rows : List (List String)}

theorem slots_tableSection : (tableSection heading columns rows).map slot =
    sectionSlots heading columns (rows.map List.length) := by
  have slotsOfRows : (rows.flatMap tableRow).map slot = (rows.map List.length).flatMap rowSlots := by
    rw [List.map_flatMap, List.flatMap_map]
    exact List.flatMap_congr fun row _ => slots_tableRow row
  rw [tableSection, List.map_append, List.map_cons, slotsOfRows]
  rfl

theorem texts_tableSection : (tableSection heading columns rows).filterMap text? = rows.flatten := by
  have textsOfRows : (rows.flatMap tableRow).filterMap text? = rows.flatten := by
    rw [List.filterMap_flatMap, List.flatMap_congr fun row _ => texts_tableRow row]
    exact List.flatMap_id'
  rw [tableSection, List.filterMap_append, List.filterMap_cons_none rfl, textsOfRows]
  exact List.append_nil _

/-- The layout of a section that is left out if it has no rows. -/
def optionalSlots (heading : String) (columns : List String) (widths : List Nat) : List Slot :=
  if widths.isEmpty then []
  else .markup "\n  " :: sectionSlots heading columns widths ++ [.markup "\n  "]

theorem slots_optionalSection : (optionalSection heading columns rows).map slot =
    optionalSlots heading columns (rows.map List.length) := by
  rw [optionalSection, optionalSlots, List.isEmpty_map]
  split
  · rfl
  · rw [List.map_append, List.map_cons, slots_tableSection]
    rfl

theorem texts_optionalSection :
    (optionalSection heading columns rows).filterMap text? = rows.flatten := by
  rw [optionalSection]
  split
  next isEmpty =>
    rw [List.isEmpty_iff.1 isEmpty]
    rfl
  · rw [List.filterMap_append, List.filterMap_cons_none rfl, texts_tableSection]
    exact List.append_nil _

theorem isBlock_rowSlots (width : Nat) : IsBlock (rowSlots width) := by
  have isBlock : IsBlock (List.replicate width
      [Slot.markup "<td>", .gap, .markup "</td>"]).flatten := by
    rw [← List.flatMap_id]
    apply IsBlock.flatMap
    intro cellSlots isCell
    rw [List.eq_of_mem_replicate isCell]
    decide +kernel
  have opened : IsBlock [.markup "\n    <tr>"] := by decide +kernel
  have closed : IsBlock [.markup "</tr>\n    "] := by decide +kernel
  exact (opened.append isBlock).append closed

/-- The markup above a table without marks in its heading and in the names of its columns. -/
theorem isBlock_opening (headingIsPlain : '<' ∉ heading.toList)
    (columnsArePlain : ∀ column ∈ columns, '<' ∉ column.toList) :
    IsBlock [.markup ("<h2>" ++ heading ++ "</h2>\n  " ++ tableHead columns)] := by
  have atHeading : placeAfter .content "<h2>".toList = .content := by decide +kernel
  have belowHeading : placeAfter .content "</h2>\n  ".toList = .content := by decide +kernel
  have atTable : placeAfter .content "<table>\n    <tr>".toList = .content := by decide +kernel
  have atColumn : placeAfter .content "<th>".toList = .content := by decide +kernel
  have afterColumn : placeAfter .content "</th>".toList = .content := by decide +kernel
  have belowHead : placeAfter .content "</tr>\n    ".toList = .content := by decide +kernel
  have overColumns : placeAfter .content ((columns.map fun column =>
      "<th>" ++ column ++ "</th>").flatMap String.toList) = .content := by
    rw [List.flatMap_map]
    apply placeAfter_flatMap
    intro column isColumn
    have overColumn : placeAfter .content column.toList = .content :=
      (read_of_holdsText rfl (columnsArePlain column isColumn)).1
    rw [String.toList_append, String.toList_append, placeAfter_append, placeAfter_append, atColumn,
      overColumn, afterColumn]
  have overHeading : placeAfter .content heading.toList = .content :=
    (read_of_holdsText rfl headingIsPlain).1
  rw [IsBlock, walk?, walk?]
  unfold tableHead
  simp only [String.toList_append, String.toList_join, placeAfter_append, atHeading, overHeading,
    belowHeading, atTable, overColumns, belowHead]

theorem isBlock_sectionSlots (widths : List Nat) (headingIsPlain : '<' ∉ heading.toList)
    (columnsArePlain : ∀ column ∈ columns, '<' ∉ column.toList) :
    IsBlock (sectionSlots heading columns widths) := by
  have opened := isBlock_opening headingIsPlain columnsArePlain
  have areRows : IsBlock (widths.flatMap rowSlots) :=
    IsBlock.flatMap fun width _ => isBlock_rowSlots width
  have closed : IsBlock [.markup "\n  </table>"] := by decide +kernel
  exact (opened.append areRows).append closed

theorem isBlock_optionalSlots (widths : List Nat) (headingIsPlain : '<' ∉ heading.toList)
    (columnsArePlain : ∀ column ∈ columns, '<' ∉ column.toList) :
    IsBlock (optionalSlots heading columns widths) := by
  have space : IsBlock [.markup "\n  "] := by decide +kernel
  rw [optionalSlots]
  split
  · rfl
  · exact (space.append (isBlock_sectionSlots widths headingIsPlain columnsArePlain)).append space

/-! ## Pages -/

structure RowCounts where
  devices : Nat
  edges : Nat
  sessions : Nat
  reflectors : Nat
  domains : Nat
  routes : Nat
  deriving DecidableEq, Repr

def rowCounts (report : Report) : RowCounts where
  devices := report.devices.length
  edges := report.edges.length
  sessions := report.sessions.length
  reflectors := report.reflectors.length
  domains := report.domains.length
  routes := report.routes.length

def texts (report : Report) (timestamp : String) : List String :=
  [report.title, report.title, timestamp, toString report.devices.length,
    toString report.edgeCount, toString report.danglingCount, toString report.sessions.length,
    toString report.domains.length, report.diagram] ++
  report.devices.flatMap deviceCells ++ report.edges.flatMap edgeCells ++
  report.sessions.flatMap sessionCells ++
  (report.reflectors.flatMap fun row => [row.reflector, row.clients]) ++
  (report.domains.flatMap fun row => [toString row.id, row.members]) ++
  report.routes.flatMap routeCells ++ [report.dump]

theorem widths_map {α : Type} (cellsOf : α → List String) (width : Nat)
    (isWidth : ∀ row, (cellsOf row).length = width) (rows : List α) :
    (rows.map cellsOf).map List.length = List.replicate rows.length width := by
  have sameWidth : List.length ∘ cellsOf = fun _ => width := funext isWidth
  rw [List.map_map, sameWidth, List.map_const']

/-- The layout of a page depends on the numbers of its rows alone. -/
theorem slots_pieces_eq {left right : Report} (leftTime rightTime : String)
    (sameRows : left.rowCounts = right.rowCounts) (leftDrawn : left.diagram ≠ "")
    (rightDrawn : right.diagram ≠ "") :
    (left.pieces leftTime).map slot = (right.pieces rightTime).map slot := by
  obtain ⟨devices, edges, sessions, reflectors, domains, routes⟩ := RowCounts.mk.inj sameRows
  simp only [pieces, List.map_append, slots_tableSection, slots_optionalSection,
    widths_map deviceCells 8 fun _ => rfl, widths_map edgeCells 7 fun _ => rfl,
    widths_map sessionCells 6 fun _ => rfl, widths_map routeCells 4 fun _ => rfl,
    widths_map (fun row : ReflectorRow => [row.reflector, row.clients]) 2 fun _ => rfl,
    widths_map (fun row : DomainRow => [toString row.id, row.members]) 2 fun _ => rfl,
    devices, edges, sessions, reflectors, domains, routes, diagramPieces, if_neg leftDrawn,
    if_neg rightDrawn]
  rfl

theorem texts_pieces {report : Report} (timestamp : String) (drawn : report.diagram ≠ "") :
    (report.pieces timestamp).filterMap text? = report.texts timestamp := by
  have noText : [markup "\n\n  "].filterMap text? = [] := rfl
  simp only [pieces, List.filterMap_append, texts_tableSection, texts_optionalSection, noText,
    List.append_nil, ← List.flatMap_def, diagramPieces, if_neg drawn]
  rfl

/-- A page is its layout with the texts of the report in the gaps. -/
theorem page_eq_filled {report : Report} (timestamp : String) (drawn : report.diagram ≠ "") :
    (report.page timestamp).toList =
      filled ((report.pieces timestamp).map slot) (report.texts timestamp) := by
  rw [← texts_pieces timestamp drawn, filled_slots, page, String.toList_ofList]

/-- The head of a page ends outside of all tags. Its lines are taken apart, because the characters
of a long text are slow to evaluate. -/
theorem placeAfter_pageHead :
    placeAfter (.inside ['t', 'i', 't', 'l', 'e']) pageHead.toList = .content := by
  rw [pageHead, String.toList_intercalate]
  repeat rw [List.map_cons, String.toList_ofList]
  rw [List.map_nil, String.toList_ofList]
  decide +kernel

theorem isBlock_head : IsBlock [
    .markup "<!DOCTYPE html>\n<html lang=\"en\">\n<head>\n  <meta charset=\"utf-8\">\n  <title>",
    .gap, .markup pageHead, .gap] := by
  have beforeTitle : placeAfter .content
      "<!DOCTYPE html>\n<html lang=\"en\">\n<head>\n  <meta charset=\"utf-8\">\n  <title>".toList =
        .inside ['t', 'i', 't', 'l', 'e'] := by
    rw [String.toList_ofList]
    decide +kernel
  have holdsTitle : (Place.inside ['t', 'i', 't', 'l', 'e']).holdsText = true := by decide +kernel
  rw [IsBlock, walk?, beforeTitle, walk?, if_pos holdsTitle, walk?, placeAfter_pageHead]
  rfl

/-- Every text of a page stands where text may stand. -/
theorem isBlock_slots_pieces (report : Report) (timestamp : String) :
    IsBlock ((report.pieces timestamp).map slot) := by
  have space : IsBlock [.markup "\n\n  "] := by decide +kernel
  have summary : IsBlock ((summaryPieces report timestamp).map slot) := by
    simp only [summaryPieces, List.map_cons, slot, List.map_nil]
    decide +kernel
  have diagram : IsBlock ((diagramPieces report).map slot) := by
    rw [diagramPieces]
    split
    · rfl
    · simp only [List.map_cons, slot, List.map_nil]
      decide +kernel
  have dump : IsBlock [.markup "\n\n  <h2>Graph dump</h2>\n  <pre>", .gap,
      .markup "</pre>\n</body>\n</html>"] := by
    decide +kernel
  simp only [pieces, List.map_append, slots_tableSection, slots_optionalSection]
  exact isBlock_head.append summary
    |>.append diagram
    |>.append space
    |>.append (isBlock_sectionSlots _ (by decide +kernel) (by decide +kernel))
    |>.append space
    |>.append (isBlock_sectionSlots _ (by decide +kernel) (by decide +kernel))
    |>.append space
    |>.append (isBlock_sectionSlots _ (by decide +kernel) (by decide +kernel))
    |>.append space
    |>.append (isBlock_optionalSlots _ (by decide +kernel) (by decide +kernel))
    |>.append space
    |>.append (isBlock_sectionSlots _ (by decide +kernel) (by decide +kernel))
    |>.append space
    |>.append (isBlock_optionalSlots _ (by decide +kernel) (by decide +kernel))
    |>.append dump

/-! ## The report on a graph -/

end Report

def Graph.rowCounts (graph : Graph) : Report.RowCounts where
  devices := graph.devices.size
  edges := (graph.devices.keys.flatMap graph.edgesOf).length
  sessions := graph.external.size + graph.internal.size
  reflectors := (Report.reflectorRows graph).length
  domains := graph.domains.length
  routes := (Report.routeRows graph).length

namespace Report

section Collection

variable {devices : Table String Device} {adjacency : Adjacency} {selection : Selection}
  {options : Options} {graph : Graph} {internal : InternalSessions} {title : String}

theorem exists_deviceRow (parts : graph.BuiltWith devices adjacency selection options internal)
    {name : String} {device : Device} (isDevice : graph.devices.get? name = some device) :
    ∃ row, deviceRow graph name device = .ok row := by
  have isModelled : name ∈ graph.devices.keys := Table.mem_keys_iff_exists.2 ⟨device, isDevice⟩
  have once := nodup_flatten_partitionDomains graph.devices.keys graph.edges graph.reverse
    graph.external
  obtain ⟨number, isNumber⟩ :=
    exists_number_of_mem graph.devices.keys graph.edges graph.reverse graph.external isModelled
  have isDomain : graph.domainOf name = .ok number := by
    rw [Graph.domainOf, parts.domains, (findIdx?_contains_eq_some_iff once).2 isNumber]
  rw [deviceRow, isDomain]
  exact ⟨_, rfl⟩

/-- There are rows for sessions whose edges are known to have one. -/
theorem exists_sessionRows (fits : graph.SessionsFitEdges) (kind : String)
    {sessions : EdgeMap BgpNeighbor}
    (areSessions : ∀ entry ∈ sessions.entries, graph.hasSession entry.1.key = true) :
    ∃ rows, sessionRows graph kind sessions = .ok rows := by
  apply exists_mapM_iff.2
  intro entry isEntry
  obtain ⟨neighbor, isNeighbor⟩ := fits.hasSession_iff.1 (areSessions entry isEntry)
  cases told : graph.peerType entry.1.key with
  | error fault =>
      have notFound := ((fits.tellsSession entry.1.key).refused fault).1 told
      rw [isNeighbor] at notFound
      cases notFound.1
  | ok relation =>
      rw [sessionRow, told]
      exact ⟨_, rfl⟩

/-- There is a report on every graph that is built. -/
theorem exists_collect (isBuilt : Graph.build devices adjacency selection options = .ok graph)
    (title : String) : ∃ report, collect title graph = .ok report := by
  obtain ⟨internal, parts⟩ := Graph.build_eq_ok_iff.1 isBuilt
  have externalSessions : ∀ entry ∈ graph.external.entries,
      graph.hasSession entry.1.key = true := by
    intro entry isEntry
    rw [Graph.hasSession, parts.keyed_external.contains_of_mem isEntry, Bool.true_or]
  have internalSessions : ∀ entry ∈ graph.internal.entries,
      graph.hasSession entry.1.key = true := by
    intro entry isEntry
    rw [Graph.hasSession, parts.keyed_internal.contains_of_mem isEntry, Bool.or_true]
  have fits := parts.sessionsFitEdges
  have everyDevice : ∀ entry ∈ graph.devices.entries,
      ∃ row, deviceRow graph entry.1 entry.2 = .ok row :=
    fun entry isEntry => exists_deviceRow parts (Table.get?_eq_some_iff.2 isEntry)
  obtain ⟨deviceRows, devicesTold⟩ := exists_mapM_iff.2 everyDevice
  obtain ⟨externalRows, externalTold⟩ := exists_sessionRows fits "eBGP" externalSessions
  obtain ⟨internalRows, internalTold⟩ := exists_sessionRows fits "iBGP" internalSessions
  rw [collect, devicesTold, externalTold, internalTold]
  exact ⟨_, rfl⟩

theorem length_sessionRows {kind : String} {sessions : EdgeMap BgpNeighbor}
    {rows : List SessionRow} (told : sessionRows graph kind sessions = .ok rows) :
    rows.length = sessions.size := by
  rw [← (mapM_eq_ok_iff.1 told).length_eq]
  exact List.length_map Prod.snd

/-- The parts of a report on a graph, with the rows of its sessions of each kind. -/
structure CollectedFrom (graph : Graph) (externalRows internalRows : List SessionRow)
    (report : Report) : Prop where
  devices : graph.devices.entries.mapM (fun entry => deviceRow graph entry.1 entry.2) =
    .ok report.devices
  edges : report.edges = graph.devices.keys.flatMap fun name =>
    (graph.edgesOf name).map fun edge => edgeRow graph name edge.key
  external : sessionRows graph "eBGP" graph.external = .ok externalRows
  internal : sessionRows graph "iBGP" graph.internal = .ok internalRows
  sessions : report.sessions = externalRows ++ internalRows
  reflectors : report.reflectors = reflectorRows graph
  domains : report.domains = domainRows graph
  routes : report.routes = routeRows graph
  diagram : report.diagram = Mermaid.diagram graph

theorem exists_collectedFrom {report : Report} (collected : collect title graph = .ok report) :
    ∃ externalRows internalRows, CollectedFrom graph externalRows internalRows report := by
  obtain ⟨deviceRows, devicesTold, collected⟩ := bind_eq_ok_iff.1 collected
  obtain ⟨externalRows, externalTold, collected⟩ := bind_eq_ok_iff.1 collected
  obtain ⟨internalRows, internalTold, collected⟩ := bind_eq_ok_iff.1 collected
  rw [← pure_eq_ok_iff.1 collected]
  exact ⟨externalRows, internalRows, devicesTold, rfl, externalTold, internalTold, rfl, rfl, rfl,
    rfl, rfl⟩

/-- How many rows a report has does not depend on its title. -/
theorem rowCounts_of_collect {report : Report} (collected : collect title graph = .ok report) :
    report.rowCounts = graph.rowCounts := by
  obtain ⟨externalRows, internalRows, parts⟩ := exists_collectedFrom collected
  have sameDevices : graph.devices.size = report.devices.length :=
    (mapM_eq_ok_iff.1 parts.devices).length_eq
  have sameExternal := length_sessionRows parts.external
  have sameInternal := length_sessionRows parts.internal
  simp only [rowCounts, Graph.rowCounts, parts.edges, parts.sessions, parts.reflectors,
    parts.domains, parts.routes, List.length_append, domainRows, List.length_map,
    List.length_zipIdx, List.length_flatMap, sameDevices, sameExternal, sameInternal]

/-- A collected report has a diagram, so its section is never left out. -/
theorem diagram_ne_empty {report : Report} (collected : collect title graph = .ok report) :
    report.diagram ≠ "" := by
  obtain ⟨_, _, parts⟩ := exists_collectedFrom collected
  rw [parts.diagram]
  intro isEmpty
  have noCharacters : (Mermaid.diagram graph).toList = [] := by
    rw [isEmpty]
    rfl
  rw [Mermaid.diagram, Mermaid.lines, List.cons_append] at noCharacters
  cases others : graph.devices.keys.map Mermaid.nodeLine ++
      Mermaid.linkLines graph [] (graph.edges.values.flatten.map Edge.key) with
  | nil =>
      rw [others] at noCharacters
      revert noCharacters
      decide +kernel
  | cons line rest =>
      rw [others, String.intercalate_cons_cons] at noCharacters
      simp only [String.toList_append, List.append_eq_nil_iff] at noCharacters
      have noHead := noCharacters.1.1
      revert noHead
      decide +kernel

end Collection

end Report

/-- A single device is the only member of the only domain. -/
theorem Graph.rowCounts_of_singleton {devices : Table String Device} {adjacency : Adjacency}
    {selection : Selection} {options : Options} {graph : Graph} {name : String}
    (isBuilt : build devices adjacency selection options = .ok graph)
    (isSingle : graph.devices.keys = [name]) :
    { graph.rowCounts with domains := 1 } = graph.rowCounts := by
  obtain ⟨_, parts⟩ := build_eq_ok_iff.1 isBuilt
  have oneDomain : graph.domains.length = 1 := by
    rw [parts.domains, isSingle, partitionDomains_singleton]
    rfl
  rw [← oneDomain]
  rfl

theorem Graph.page_of_collect {graph : Graph} {title : String} {report : Report}
    (collected : Report.collect title graph = .ok report) (timestamp : String) :
    graph.page title timestamp pageLayoutName = .ok (report.page timestamp) := by
  have isLayout : isPageLayout pageLayoutName = true := by decide +kernel
  exact bind_eq_ok_iff.2 ⟨report, mapError_eq_ok_iff.2 collected, if_pos isLayout⟩

/-- A network of one device that is named like its interface and its vendor. -/
def namesakes (name : String) : Table String Device :=
  Table.ofList [(name, {
    name, vendor := name
    interfaces := Table.ofList [(name, {
      name, address := InterfaceAddress.ofParts? (.v4 0x0A000001) 24 })] })]

end RoutingPlane
