import LiveAssert.Cluster
import LiveAssert.Session
import LiveAssert.Proofs.Poll.Schedule
import LiveAssert.Proofs.Poll.Cancellation
import LiveAssert.Proofs.Poll.Verdict
import LiveAssert.Proofs.Poll.Duality
import LiveAssert.Proofs.Poll.Grid
import LiveAssert.Proofs.Poll.Clock
import LiveAssert.Proofs.Scenario.Convergence
import LiveAssert.Proofs.Scenario.Refusal
import LiveAssert.Proofs.Scenario.Stopped
import LiveAssert.Proofs.Scenario.Isolation
import LiveAssert.Proofs.Scenario.Trace
import LiveAssert.Proofs.Phrase.Congruence
import LiveAssert.Proofs.Step.Parse
import LiveAssert.Proofs.Path.Spelling
import LiveAssert.Proofs.Path.Source
import LiveAssert.Proofs.Step.Naming
import LiveAssert.Proofs.Path.Wildcard
import LiveAssert.Proofs.Poll.Coherence
import LiveAssert.Proofs.Poll.TimedOut
import LiveAssert.Proofs.Poll.Rate
import LiveAssert.Proofs.Yaml.Extent
import LiveAssert.Proofs.Yaml.Length
import LiveAssert.Proofs.Yaml.Line
import LiveAssert.Proofs.Phrase.Forms
import LiveAssert.Proofs.Phrase.Verbatim
import LiveAssert.Proofs.Phrase.Pairing
import LiveAssert.Proofs.Phrase.Rejected
import LiveAssert.Proofs.Phrase.Usable
import LiveAssert.Proofs.Poll.Count
import LiveAssert.Proofs.Poll.Longer
import LiveAssert.Proofs.Scenario.Unchanging
import LiveAssert.Proofs.Yaml.Mapping
import LiveAssert.Proofs.Phrase.Repeated
import LiveAssert.Proofs.Path.Key
import LiveAssert.Proofs.Text.Words
import LiveAssert.Proofs.Phrase.Sets
import LiveAssert.Proofs.Phrase.Comparison
import LiveAssert.Proofs.Phrase.Pasted
import LiveAssert.Proofs.Scenario.Registrations
import LiveAssert.Proofs.Cluster.Address
import LiveAssert.Proofs.Value.Equivalence
