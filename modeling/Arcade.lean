import Arcade.Console.BareHost
import Arcade.Host
import Arcade.Proofs.Build.Envelope
import Arcade.Proofs.Build.LongerNames
import Arcade.Proofs.Build.Stored
import Arcade.Proofs.Build.Surroundings
import Arcade.Proofs.Clicker.Ending
import Arcade.Proofs.Clicker.Regeneration
import Arcade.Proofs.Clicker.Secrecy
import Arcade.Proofs.Digest.Framed
import Arcade.Proofs.Duel.Attacks
import Arcade.Proofs.Duel.Captured
import Arcade.Proofs.Duel.Verdict
import Arcade.Proofs.Generator
import Arcade.Proofs.Host.Accounts
import Arcade.Proofs.Host.Leftovers
import Arcade.Proofs.Host.Lifecycle
import Arcade.Proofs.Host.Refusals
import Arcade.Proofs.Host.Reset
import Arcade.Proofs.Host.Restores
import Arcade.Proofs.Host.Rewind
import Arcade.Proofs.Host.Terminal
import Arcade.Proofs.Json.Canonical
import Arcade.Proofs.Json.RoundTrip
import Arcade.Proofs.Live.Difference
import Arcade.Proofs.Live.Inputs
import Arcade.Proofs.Mechanics.Earned
import Arcade.Proofs.Mechanics.Lockout
import Arcade.Proofs.Play.Composition
import Arcade.Proofs.Play.FailedTicks
import Arcade.Proofs.Play.Storage
import Arcade.Proofs.Submission.Complexity
import Arcade.Sample.Counter
import Arcade.Sample.Probe
import Arcade.Sample.Recorder
