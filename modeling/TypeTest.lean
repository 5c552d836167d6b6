import TypeTest.Options.Reading
import TypeTest.Proofs.Attribution
import TypeTest.Proofs.DirectivesMet
import TypeTest.Proofs.DirectivesPerLine
import TypeTest.Proofs.ExhaustiveSearch
import TypeTest.Proofs.Explanations
import TypeTest.Proofs.FailedBuilds
import TypeTest.Proofs.FailureLines
import TypeTest.Proofs.FlatSessions
import TypeTest.Proofs.Folding
import TypeTest.Proofs.LazyBuilds
import TypeTest.Proofs.LineBreaks
import TypeTest.Proofs.LineCuts
import TypeTest.Proofs.LineEndings
import TypeTest.Proofs.LineFailures
import TypeTest.Proofs.Loads
import TypeTest.Proofs.Locations
import TypeTest.Proofs.Logs
import TypeTest.Proofs.Matching
import TypeTest.Proofs.Mentions
import TypeTest.Proofs.OptionsFiles
import TypeTest.Proofs.Providers
import TypeTest.Proofs.SharedSessions
import TypeTest.Proofs.Stamps
import TypeTest.Proofs.TokenCover
import TypeTest.Proofs.TypeText.Canonical
import TypeTest.Proofs.TypeText.Exactness
import TypeTest.Proofs.TypeText.Idempotence
import TypeTest.Proofs.TypeText.Rearrangement
