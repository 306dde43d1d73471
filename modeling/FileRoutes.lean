import FileRoutes.Proofs.FlatPattern.SharedPatterns
import FileRoutes.Proofs.NestedRoute.Hoisting
import FileRoutes.Proofs.NestedRoute.Naming
import FileRoutes.Proofs.NestedRoute.NearestPage
import FileRoutes.Proofs.NestedRoute.OpenPages
import FileRoutes.Proofs.NestedRoute.SharedPaths
import FileRoutes.Proofs.NestedRoute.SiblingOrder
import FileRoutes.Proofs.PagePath.Roots
import FileRoutes.Proofs.PathPattern.Filling
import FileRoutes.Proofs.PathPattern.Validity
import FileRoutes.Proofs.RoutePath.Decoding
import FileRoutes.Proofs.RouteTable.Gathering
import FileRoutes.Proofs.RouteTable.History
import FileRoutes.Proofs.RouteTable.Memo
import FileRoutes.Proofs.RouteTable.Readding
import FileRoutes.Proofs.RouteTable.Removal
import FileRoutes.Proofs.RouteTable.Walk
import FileRoutes.Proofs.RouteTree.Contest
import FileRoutes.Proofs.RouteTree.Ways
import FileRoutes.Proofs.Segment.Completion
