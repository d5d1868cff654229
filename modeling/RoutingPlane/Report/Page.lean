import RoutingPlane.Report

/-!
The report as a page of hypertext. A page is a sequence of fixed markup and of
texts; a text is written with the characters escaped that could be taken for
markup. A value in a cell is written as it is shown, and the limit on the digits
of a number is set aside: one of too many digits leaves the cell empty.
-/

namespace RoutingPlane

inductive PagePiece where
  | markup (written : String)
  | text (shown : String)
  deriving DecidableEq, Repr

namespace PagePiece

def escapedChar (c : Char) : List Char :=
  if c = '&' then "&amp;".toList
  else if c = '<' then "&lt;".toList
  else if c = '>' then "&gt;".toList
  else if c = '\'' then "&#39;".toList
  else if c = '"' then "&#34;".toList
  else [c]

def written : PagePiece → List Char
  | markup written => written.toList
  | text shown => shown.toList.flatMap escapedChar

end PagePiece

def pageLayoutName : String :=
  "graph_report.html"

namespace Report

open PagePiece

def cell (shown : String) : List PagePiece :=
  [markup "<td>", text shown, markup "</td>"]

def tableRow (cells : List String) : List PagePiece :=
  markup "\n    <tr>" :: cells.flatMap cell ++ [markup "</tr>\n    "]

def tableHead (columns : List String) : String :=
  "<table>\n    <tr>" ++ String.join (columns.map fun column => "<th>" ++ column ++ "</th>") ++
    "</tr>\n    "

def tableSection (heading : String) (columns : List String) (rows : List (List String)) :
    List PagePiece :=
  markup ("<h2>" ++ heading ++ "</h2>\n  " ++ tableHead columns) :: rows.flatMap tableRow ++
    [markup "\n  </table>"]

def optionalSection (heading : String) (columns : List String) (rows : List (List String)) :
    List PagePiece :=
  if rows.isEmpty then []
  else markup "\n  " :: tableSection heading columns rows ++ [markup "\n  "]

def markWord (isSet : Bool) : String :=
  if isSet then "yes" else ""

def orDash (shown : String) : String :=
  if shown = "" then "-" else shown

def deviceCells (row : DeviceRow) : List String :=
  [row.name, row.vendor, toString row.interfaces, toString row.edges, row.neighbors, row.areas,
    toString row.domain, (row.originatorId.map toString).getD ""]

def edgeCells (row : EdgeRow) : List String :=
  [row.router, row.interface, orDash row.peer, orDash row.peerInterface, markWord row.abstract,
    markWord row.leadsToHost, row.reverse]

def sessionCells (row : SessionRow) : List String :=
  [row.kind, row.edge, row.neighbor, row.peerType.word, row.importPolicy.shown,
    row.exportPolicy.shown]

def routeCells (row : RouteRow) : List String :=
  [row.router, row.interface, row.network, row.nextHop.shown]

/-- The markup between the title in the head of a page and the title in its
body. -/
def pageHead : String :=
  String.intercalate "\n" [
    "</title>",
    "  <script type=\"module\">",
    "    import mermaid from \"https://cdn.jsdelivr.net/npm/mermaid@10/dist/mermaid.esm.min.mjs\";",
    "    mermaid.initialize(\x7b startOnLoad: true \x7d);",
    "  </script>",
    "  <style>",
    "    body \x7b font-family: sans-serif; margin: 2em; \x7d",
    "    table \x7b border-collapse: collapse; margin-bottom: 1.5em; \x7d",
    "    th, td \x7b border: 1px solid #ccc; padding: 4px 8px; text-align: left; \x7d",
    "    th \x7b background: #f0f0f0; \x7d",
    "    pre \x7b background: #f8f8f8; padding: 1em; \x7d",
    "  </style>",
    "</head>",
    "<body>",
    "  <h1>"]

def summaryPieces (report : Report) (timestamp : String) : List PagePiece :=
  [markup "</h1>\n  <p>Generated ", text timestamp, markup ": ",
    text (toString report.devices.length), markup " devices,\n     ",
    text (toString report.edgeCount), markup " edges (",
    text (toString report.danglingCount), markup " dangling),\n     ",
    text (toString report.sessions.length), markup " BGP sessions, ",
    text (toString report.domains.length), markup " domains.</p>\n\n  "]

def diagramPieces (report : Report) : List PagePiece :=
  if report.diagram = "" then []
  else
    [markup "\n  <h2>Topology</h2>\n  <pre class=\"mermaid\">", text report.diagram,
      markup "</pre>\n  "]

def pieces (report : Report) (timestamp : String) : List PagePiece :=
  [markup "<!DOCTYPE html>\n<html lang=\"en\">\n<head>\n  <meta charset=\"utf-8\">\n  <title>",
    text report.title, markup pageHead, text report.title] ++
  summaryPieces report timestamp ++ diagramPieces report ++ [markup "\n\n  "] ++
  tableSection "Devices"
    ["Device", "Vendor", "Interfaces", "Edges", "Neighbors", "OSPF areas", "Domain",
      "Originator id"]
    (report.devices.map deviceCells) ++
  [markup "\n\n  "] ++
  tableSection "Edges"
    ["Router", "Interface", "Peer", "Peer interface", "Abstract", "Host-connected", "Reverse"]
    (report.edges.map edgeCells) ++
  [markup "\n\n  "] ++
  tableSection "BGP sessions" ["Kind", "Edge", "Neighbor", "Peer type", "Import", "Export"]
    (report.sessions.map sessionCells) ++
  [markup "\n\n  "] ++
  optionalSection "Route reflectors" ["Reflector", "Clients"]
    (report.reflectors.map fun row => [row.reflector, row.clients]) ++
  [markup "\n\n  "] ++
  tableSection "AS domains" ["Id", "Members"]
    (report.domains.map fun row => [toString row.id, row.members]) ++
  [markup "\n\n  "] ++
  optionalSection "Static routes" ["Router", "Interface", "Network", "Next hop"]
    (report.routes.map routeCells) ++
  [markup "\n\n  <h2>Graph dump</h2>\n  <pre>", text report.dump,
    markup "</pre>\n</body>\n</html>"]

def page (report : Report) (timestamp : String) : String :=
  String.ofList ((report.pieces timestamp).flatMap PagePiece.written)

end Report

/-- Whether a name refers to the page layout: its parts between slashes may be
empty or stay in place. -/
def isPageLayout (name : String) : Bool :=
  ((Text.split '/' name.toList).filter fun part => !part.isEmpty && part != ['.']) ==
    [pageLayoutName.toList]

def Graph.page (graph : Graph) (title timestamp layout : String) : Except Fault String := do
  let report ← Report.collect title graph
  if isPageLayout layout then return report.page timestamp
  else .error (.report (.missingTemplate layout))

end RoutingPlane
