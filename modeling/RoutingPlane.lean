import RoutingPlane.Table
import RoutingPlane.Text.CharacterClass
import RoutingPlane.Text.Lowercase
import RoutingPlane.Text.Printable
import RoutingPlane.Decimal.Numeral
import RoutingPlane.Decimal.Shortest
import RoutingPlane.Text.Quoted
import RoutingPlane.Value
import RoutingPlane.Value.Conversion
import RoutingPlane.Address.Printer
import RoutingPlane.Address.Reader
import RoutingPlane.Edge
import RoutingPlane.Options
import RoutingPlane.Fault
import RoutingPlane.Note
import RoutingPlane.Policy.Reader
import RoutingPlane.Snapshot
import RoutingPlane.Bgp.External
import RoutingPlane.OspfCost
import RoutingPlane.RouteBinding
import RoutingPlane.Topology
import RoutingPlane.Bgp.Internal
import RoutingPlane.Domains
import RoutingPlane.Protocol
import RoutingPlane.Graph.Dump
import RoutingPlane.Policy.Walk
import RoutingPlane.Policy.EdgeUse
import RoutingPlane.Report.Page
import RoutingPlane.Report.Placement
import RoutingPlane.Workspace
import RoutingPlane.Snapshot.File
import RoutingPlane.Proofs.Graph.DomainOrder
import RoutingPlane.Proofs.Graph.Selection
import RoutingPlane.Proofs.Policy.Visits
import RoutingPlane.Proofs.Policy.Redistribution
import RoutingPlane.Proofs.Enumeration
import RoutingPlane.Proofs.Policy.Places
import RoutingPlane.Proofs.Address.Numerals
import RoutingPlane.Proofs.Address.Printed
import RoutingPlane.Proofs.Bgp.Resolution
import RoutingPlane.Proofs.Graph.Reverse
import RoutingPlane.Proofs.Graph.OppositeListed
import RoutingPlane.Proofs.Bgp.Hierarchy
import RoutingPlane.Proofs.Bgp.MutualSessions
import RoutingPlane.Proofs.Bgp.OriginatorIds
import RoutingPlane.Proofs.Graph.PeerTypes
import RoutingPlane.Proofs.Graph.SessionQueries
import RoutingPlane.Proofs.Graph.LinkSections
import RoutingPlane.Proofs.Failure
import RoutingPlane.Proofs.OspfCost
import RoutingPlane.Proofs.RouteBinding
import RoutingPlane.Proofs.Topology.BoundRoutes
import RoutingPlane.Proofs.Decimal.Binary64
import RoutingPlane.Proofs.Value.Equality
import RoutingPlane.Proofs.Policy.StaticOrigination
import RoutingPlane.Proofs.Graph.Faults
import RoutingPlane.Proofs.Value.Faults
import RoutingPlane.Proofs.Device.OutOfRange
import RoutingPlane.Proofs.Snapshot.Escapes
import RoutingPlane.Proofs.Snapshot.References
import RoutingPlane.Proofs.Snapshot.Endpoints
import RoutingPlane.Proofs.Graph.OspfUse
import RoutingPlane.Proofs.Report.Layout
import RoutingPlane.Proofs.Report.Totals
import RoutingPlane.Proofs.Report.Diagram
import RoutingPlane.Proofs.Report.NodeIds
import RoutingPlane.Proofs.Policy.Room
import RoutingPlane.Proofs.Policy.Written
import RoutingPlane.Proofs.Bgp.Carriers
