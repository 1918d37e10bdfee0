import CrdCompiler.Json.Reader
import CrdCompiler.Main
import CrdCompiler.Session
import CrdCompiler.Proofs.Acceptance
import CrdCompiler.Proofs.AttributeNames
import CrdCompiler.Proofs.BoundConversion
import CrdCompiler.Proofs.CanonicalOrder
import CrdCompiler.Proofs.ComputedFlag
import CrdCompiler.Proofs.ConfigLoading
import CrdCompiler.Proofs.Containment
import CrdCompiler.Proofs.DepthLimit
import CrdCompiler.Proofs.Descriptions
import CrdCompiler.Proofs.ElementsAlike
import CrdCompiler.Proofs.FaultPlaces
import CrdCompiler.Proofs.GenerationEffect
import CrdCompiler.Proofs.HelperSummary
import CrdCompiler.Proofs.IdentifierWords
import CrdCompiler.Proofs.InjectedFields
import CrdCompiler.Proofs.IntegerBounds
import CrdCompiler.Proofs.Listing
import CrdCompiler.Proofs.LiteralDecoding
import CrdCompiler.Proofs.ManifestHistory
import CrdCompiler.Proofs.Mirror
import CrdCompiler.Proofs.OrderIndependence
import CrdCompiler.Proofs.PackageIdentifiers
import CrdCompiler.Proofs.PatternLiterals
import CrdCompiler.Proofs.SchemaAlike
import CrdCompiler.Proofs.SchemaRoundTrip
import CrdCompiler.Proofs.SecondRun
import CrdCompiler.Proofs.Shapes
import CrdCompiler.Proofs.SiblingComposition
import CrdCompiler.Proofs.SubtreeRoots
import CrdCompiler.Proofs.TreeChanges
import CrdCompiler.Proofs.TreeRoundTrip
import CrdCompiler.Proofs.UnreadKeywords
import CrdCompiler.Proofs.Validators
import CrdCompiler.Proofs.WalkOrder
import CrdCompiler.Proofs.WillingTrial
import CrdCompiler.Proofs.WordBoundaries
