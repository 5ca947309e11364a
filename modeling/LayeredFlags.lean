import LayeredFlags.FlagSet.Forest
import LayeredFlags.Main
import LayeredFlags.Proofs.Chain.Addressing
import LayeredFlags.Proofs.Chain.Shape
import LayeredFlags.Proofs.Chain.Assigning
import LayeredFlags.Proofs.Arguments.Plan
import LayeredFlags.Proofs.Resolution.Configuration
import LayeredFlags.Proofs.Resolution.Environment
import LayeredFlags.Proofs.Resolution.Priority
import LayeredFlags.Proofs.Chain.Names
import LayeredFlags.Proofs.Arguments.Spelling
import LayeredFlags.Proofs.Arguments.Forms
import LayeredFlags.Proofs.Resolution.Upholding
import LayeredFlags.Proofs.Chain.Lookup
import LayeredFlags.Proofs.Forest.LifeCycle
import LayeredFlags.Proofs.Resolution.Agreement
import LayeredFlags.Proofs.Keys.Reverse
import LayeredFlags.Proofs.Config.Flattening
import LayeredFlags.Proofs.Resolution.Interference
import LayeredFlags.Proofs.Forest.Renewal
import LayeredFlags.Proofs.Config.Dotenv
import LayeredFlags.Proofs.Config.Plain
import LayeredFlags.Proofs.Forest.Frame
import LayeredFlags.Proofs.Resolution.Reordering
import LayeredFlags.Proofs.Arguments.Factoring
import LayeredFlags.Proofs.Resolution.Undecodable
import LayeredFlags.Proofs.CommandLine.Report
import LayeredFlags.Proofs.CommandLine.Keys
import LayeredFlags.Proofs.Config.Comments
import LayeredFlags.Proofs.Keys.Clashes
import LayeredFlags.Proofs.Json.Spelling
import LayeredFlags.Proofs.Json.Writing
import LayeredFlags.Proofs.Json.Decoding
import LayeredFlags.Proofs.Resolution.Checking
import LayeredFlags.Proofs.Arguments.Positions
import LayeredFlags.Proofs.Arguments.Dashes
import LayeredFlags.Proofs.Arguments.Help
import LayeredFlags.Proofs.Resolution.Irrelevance
import LayeredFlags.Proofs.Config.Streaming
import LayeredFlags.Proofs.Config.Joining
import LayeredFlags.Proofs.Manifest.Acceptance
import LayeredFlags.Proofs.Forest.Setting
import LayeredFlags.Proofs.Value.Collecting
import LayeredFlags.Proofs.Forest.Resetting
import LayeredFlags.Proofs.Resolution.ConfigFlag
import LayeredFlags.Proofs.CommandLine.ConfigFlag
import LayeredFlags.Proofs.Text.Splitting
import LayeredFlags.Proofs.Keys.Rules
import LayeredFlags.Proofs.Config.Detection
import LayeredFlags.Proofs.Forest.Addresses
