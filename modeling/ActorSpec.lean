import ActorSpec.Main
import ActorSpec.Lint.Session
import ActorSpec.Spec.Session
import ActorSpec.Log.Session
import ActorSpec.Proofs.DanglingFields
import ActorSpec.Proofs.DocumentShape
import ActorSpec.Proofs.StartingValues
import ActorSpec.Proofs.LintReport
import ActorSpec.Proofs.StrictInspection
import ActorSpec.Proofs.Normalization
import ActorSpec.Proofs.PathTokens
import ActorSpec.Proofs.Following
import ActorSpec.Proofs.IssuePaths
import ActorSpec.Proofs.NodePaths
import ActorSpec.Proofs.SourcePositions
import ActorSpec.Proofs.SpecPositions
import ActorSpec.Proofs.SourceWalk
import ActorSpec.Proofs.Rounding
import ActorSpec.Proofs.NumeralText
import ActorSpec.Proofs.AsDocument
import ActorSpec.Proofs.DocumentText
import ActorSpec.Proofs.DocumentFiles
import ActorSpec.Proofs.SpecSessions
import ActorSpec.Proofs.SchemaSessions
import ActorSpec.Proofs.SchemaFiles
import ActorSpec.Proofs.TreeChanges
import ActorSpec.Proofs.CommandRuns
import ActorSpec.Proofs.SharedChecks
import ActorSpec.Proofs.Titles
import ActorSpec.Proofs.Preview
import ActorSpec.Proofs.TextFaults
import ActorSpec.Proofs.LoadFaults
import ActorSpec.Proofs.UntouchedFiles
import ActorSpec.Proofs.ContainedFailures
import ActorSpec.Proofs.WritableDocuments
import ActorSpec.Proofs.CleanGeneration
import ActorSpec.Proofs.ReportText
import ActorSpec.Proofs.ActorIds
import ActorSpec.Proofs.Views
import ActorSpec.Proofs.InputProperties
import ActorSpec.Proofs.DatasetProperties
import ActorSpec.Proofs.Provenance
import ActorSpec.Proofs.WholeWrites
import ActorSpec.Proofs.GrowingDatasets
import ActorSpec.Proofs.SplitStreams
