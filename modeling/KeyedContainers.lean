import KeyedContainers.MatchMap.Workspace
import KeyedContainers.Proofs.Arena.Lookup
import KeyedContainers.Proofs.Arena.Map
import KeyedContainers.Proofs.Arena.Place
import KeyedContainers.Proofs.Arena.Refill
import KeyedContainers.Proofs.Arena.Reuse
import KeyedContainers.Proofs.Arena.Sound
import KeyedContainers.Proofs.Arena.Version
import KeyedContainers.Proofs.Bindings.FirstAndLast
import KeyedContainers.Proofs.FieldName.Blocks
import KeyedContainers.Proofs.FieldName.ByteSize
import KeyedContainers.Proofs.FieldName.Canonical
import KeyedContainers.Proofs.HashIndex.Placement
import KeyedContainers.Proofs.MatchMap.Accounting
import KeyedContainers.Proofs.MatchMap.Change
import KeyedContainers.Proofs.MatchMap.Coherent
import KeyedContainers.Proofs.MatchMap.Conventional
import KeyedContainers.Proofs.MatchMap.Described
import KeyedContainers.Proofs.MatchMap.Directory
import KeyedContainers.Proofs.MatchMap.Enumeration
import KeyedContainers.Proofs.MatchMap.Find
import KeyedContainers.Proofs.MatchMap.FromPairs
import KeyedContainers.Proofs.MatchMap.HasherIndependence
import KeyedContainers.Proofs.MatchMap.InsertionOrder
import KeyedContainers.Proofs.MatchMap.Ledger
import KeyedContainers.Proofs.MatchMap.Lifetime
import KeyedContainers.Proofs.MatchMap.LocalEffect
import KeyedContainers.Proofs.MatchMap.Lookup
import KeyedContainers.Proofs.MatchMap.Mirror
import KeyedContainers.Proofs.MatchMap.MissText
import KeyedContainers.Proofs.MatchMap.Noninterference
import KeyedContainers.Proofs.MatchMap.Overwrite
import KeyedContainers.Proofs.MatchMap.Refinement
import KeyedContainers.Proofs.MatchMap.Represents
import KeyedContainers.Proofs.MatchMap.Requests
import KeyedContainers.Proofs.MatchMap.RoundTrip
import KeyedContainers.Proofs.MatchMap.StorageOrder
import KeyedContainers.Proofs.MatchMap.Twin
import KeyedContainers.Proofs.MatchMap.Undo
import KeyedContainers.Proofs.Storage
import KeyedContainers.Proofs.Text.ReadBack
import KeyedContainers.Proofs.View.Access
import KeyedContainers.Proofs.View.Collisions
import KeyedContainers.Proofs.View.DeclaredOrder
import KeyedContainers.Proofs.View.Definition
import KeyedContainers.Proofs.View.Display
import KeyedContainers.Proofs.View.Redefinition
import KeyedContainers.Proofs.View.RepetitionOrder
import KeyedContainers.Proofs.View.Resolution
import KeyedContainers.Proofs.View.Sessions
import KeyedContainers.Solver.LowerBounds
import KeyedContainers.View.Session
