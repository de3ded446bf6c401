import ChatMacro.Main
import ChatMacro.Proofs.Store.Answer
import ChatMacro.Proofs.Resolution.Effect
import ChatMacro.Proofs.Outcome
import ChatMacro.Proofs.Resolution.KindStability
import ChatMacro.Proofs.Number.Packing
import ChatMacro.Proofs.Number.Whole
import ChatMacro.Proofs.Json.Numbers
import ChatMacro.Proofs.Json.Reading
import ChatMacro.Proofs.Store.Document
import ChatMacro.Proofs.Store.History
import ChatMacro.Proofs.Region.Braces
import ChatMacro.Proofs.Engine.Blocks
import ChatMacro.Proofs.Block
import ChatMacro.Proofs.Store.Finite
import ChatMacro.Proofs.Resolution.Overflow
import ChatMacro.Proofs.Resolution.Turns
import ChatMacro.Proofs.Engine.Frame
import ChatMacro.Proofs.Engine.Requests
import ChatMacro.Proofs.Engine.Occasions
import ChatMacro.Proofs.Script.Bounded
import ChatMacro.Proofs.Script.Tower
import ChatMacro.Proofs.Engine.Shelves
import ChatMacro.Proofs.Handler.Rejection
import ChatMacro.Proofs.Program.Arguments
import ChatMacro.Proofs.Program.Modes
import ChatMacro.Proofs.Handler.Namespace
import ChatMacro.Proofs.Store.RoundTrip
import ChatMacro.Proofs.Script.Spelling
import ChatMacro.Proofs.Script.Interpolation
import ChatMacro.Proofs.Region.Scripts
import ChatMacro.Proofs.Region.Pairs
import ChatMacro.Proofs.Region.ScriptBraces
import ChatMacro.Proofs.Region.Patterns
import ChatMacro.Proofs.Repeats
import ChatMacro.Proofs.Resolution.ReadBack
import ChatMacro.Proofs.Script.Sum
import ChatMacro.Proofs.Number.Equality
import ChatMacro.Proofs.Selection
import ChatMacro.Proofs.Distinct
import ChatMacro.Proofs.Number.Exact
import ChatMacro.Proofs.Resolution.Positions
import ChatMacro.Proofs.Resolution.Sets
import ChatMacro.Proofs.Script.Separation
import ChatMacro.Proofs.Script.Lookahead
import ChatMacro.Proofs.Script.Joining
import ChatMacro.Proofs.Script.Binding
import ChatMacro.Proofs.Script.Unbound
import ChatMacro.Proofs.Block.Consistency
import ChatMacro.Proofs.Block.Grammar
import ChatMacro.Proofs.Handler.Search
import ChatMacro.Proofs.Handler.Occurrence
import ChatMacro.Proofs.Settings.Written
import ChatMacro.Proofs.Program.Flags
import ChatMacro.Proofs.Region.Splicing
import ChatMacro.Proofs.Script.Levels
