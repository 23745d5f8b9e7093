import TreePath.Canonical.Lower
import TreePath.Canonical.Shape
import TreePath.Handler.Additional
import TreePath.Main
import TreePath.Proofs.Grammar.Complete
import TreePath.Proofs.Json.RoundTrip
import TreePath.Proofs.Merge.Structural
import TreePath.Proofs.Run.Order
import TreePath.Proofs.Run.Pointwise
import TreePath.Proofs.Run.Query
import TreePath.Proofs.Run.Removal
import TreePath.Proofs.Binary.Rounding
import TreePath.Proofs.Number.Coercion
import TreePath.Proofs.Merge.Associative
import TreePath.Proofs.Merge.Conflict
import TreePath.Proofs.Merge.Sound
import TreePath.Proofs.Grammar.Sound
import TreePath.Proofs.Handler.Effect
import TreePath.Proofs.Run.Track
import TreePath.Proofs.Canonical
import TreePath.Proofs.Run.Sound
import TreePath.Proofs.Session.Basic
import TreePath.Proofs.Session.Canonical
import TreePath.Proofs.Json.Finite
import TreePath.Proofs.Session.Finite
import TreePath.Proofs.Decimal.Shortest
import TreePath.Proofs.Json.Decimal
import TreePath.Proofs.Session.Extension
import TreePath.Proofs.Session.Direct
import TreePath.Proofs.Json.Balanced
import TreePath.Proofs.Registry.Execute
import TreePath.Proofs.Run.Compose
import TreePath.Proofs.Run.Lacking
import TreePath.Proofs.Registry.Text
import TreePath.Proofs.Canonical.Datum
import TreePath.Proofs.Number.Product
import TreePath.Proofs.Run.Partition
import TreePath.Proofs.Run.Repeat
import TreePath.Proofs.Run.Itinerary
import TreePath.Proofs.Merge.Again
import TreePath.Proofs.Number.Truncation
import TreePath.Proofs.Run.Fitting
import TreePath.Proofs.Canonical.Depiction
import TreePath.Proofs.Canonical.Value
import TreePath.Proofs.Canonical.IntegerKey
import TreePath.Proofs.Dict.History
import TreePath.Proofs.Pattern.Anchored
import TreePath.Proofs.Grammar.Cut
