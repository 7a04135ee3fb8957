import FeatureFlags.Command.Run
import FeatureFlags.Main
import FeatureFlags.Panel.Exchange
import FeatureFlags.Session.Act
import FeatureFlags.Proofs.Switchboard.Agreement
import FeatureFlags.Proofs.Switchboard.Convergence
import FeatureFlags.Proofs.Switchboard.Performing
import FeatureFlags.Proofs.Switchboard.Reception
import FeatureFlags.Proofs.Version.Order
import FeatureFlags.Proofs.Text.Decimal
import FeatureFlags.Proofs.Rule.LevelGrammar
import FeatureFlags.Proofs.Rule.LevelList
import FeatureFlags.Proofs.Switchboard.Unsubscribing
import FeatureFlags.Proofs.Text.Small
import FeatureFlags.Proofs.Version.Precedence
import FeatureFlags.Proofs.Rule.SelfMatch
import FeatureFlags.Proofs.Rule.VersionOrder
import FeatureFlags.Proofs.Switchboard.Flags
import FeatureFlags.Proofs.Roster.Named
import FeatureFlags.Proofs.Panel.Rows
import FeatureFlags.Proofs.Json.Escape
import FeatureFlags.Proofs.Json.Number
import FeatureFlags.Proofs.Json.ReadBack
import FeatureFlags.Proofs.Flag.Persistence
import FeatureFlags.Proofs.Checked
import FeatureFlags.Proofs.Flag.Loading
import FeatureFlags.Proofs.Panel.Bodies
import FeatureFlags.Proofs.Panel.Percent
import FeatureFlags.Proofs.Panel.Refusals
import FeatureFlags.Proofs.Switchboard.Starting
import FeatureFlags.Proofs.Text.Utf8
import FeatureFlags.Proofs.Panel.Addresses
import FeatureFlags.Proofs.Json.Tokens
import FeatureFlags.Proofs.Json.Grammar
import FeatureFlags.Proofs.Json.Limits
import FeatureFlags.Proofs.Flag.Failing
import FeatureFlags.Proofs.Switchboard.LatestValue
import FeatureFlags.Proofs.Panel.Steps
import FeatureFlags.Proofs.Command.Surfaces
import FeatureFlags.Proofs.Switchboard.Pruning
import FeatureFlags.Proofs.Switchboard.Deliveries
import FeatureFlags.Proofs.Switchboard.Readers
import FeatureFlags.Proofs.Version.Layout
import FeatureFlags.Proofs.Rule.Writing
import FeatureFlags.Proofs.Rule.LevelWriting
import FeatureFlags.Proofs.Panel.Replacing
import FeatureFlags.Proofs.Roster.Places
import FeatureFlags.Proofs.Panel.Frames
import FeatureFlags.Proofs.Settings
import FeatureFlags.Proofs.Flag.Pointwise
