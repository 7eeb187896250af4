import SqlCommands.Command.Raw
import SqlCommands.Config.Folder
import SqlCommands.Inspect.Instances
import SqlCommands.Json.Printer
import SqlCommands.Json.Reader
import SqlCommands.Proofs.Collection.Coherence
import SqlCommands.Proofs.Collection.Descriptors
import SqlCommands.Proofs.Collection.Leaves
import SqlCommands.Proofs.Command.Arguments
import SqlCommands.Proofs.Command.Cached
import SqlCommands.Proofs.Execution.Brackets
import SqlCommands.Proofs.Execution.Closings
import SqlCommands.Proofs.Execution.Disposal
import SqlCommands.Proofs.Execution.Masking
import SqlCommands.Proofs.Execution.Preparation
import SqlCommands.Proofs.Execution.Protocol
import SqlCommands.Proofs.Execution.Results
import SqlCommands.Value.Json
import SqlCommands.Proofs.Execution.Comparison
import SqlCommands.Proofs.Execution.Observers
import SqlCommands.Proofs.Execution.Waiting
import SqlCommands.Proofs.Collection.Entries
import SqlCommands.Proofs.Diagnostics.Delivery
import SqlCommands.Proofs.Execution.FanOut
import SqlCommands.Proofs.Collection.AllOrNothing
import SqlCommands.Proofs.Parameter.Nodes
import SqlCommands.Proofs.Text.Blocks
import SqlCommands.Proofs.Execution.Warnings
import SqlCommands.Proofs.Toml.Documents
import SqlCommands.Proofs.Config.Reloading
import SqlCommands.Proofs.Value.Equality
import SqlCommands.Proofs.Value.Serialization
