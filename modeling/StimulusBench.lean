import StimulusBench.Assembly
import StimulusBench.Command.Arguments
import StimulusBench.Command.Option
import StimulusBench.Command.Run
import StimulusBench.Config
import StimulusBench.Content
import StimulusBench.Document
import StimulusBench.Failure
import StimulusBench.FilePath
import StimulusBench.FileTree
import StimulusBench.Filler
import StimulusBench.Json.Cursor
import StimulusBench.Json.Reader
import StimulusBench.Json.Reading
import StimulusBench.Json.Value
import StimulusBench.Listing
import StimulusBench.Log.Event
import StimulusBench.Log.Filter
import StimulusBench.Log.Setting
import StimulusBench.Main
import StimulusBench.Number.Binary64
import StimulusBench.Number.Decimal
import StimulusBench.Number.Numeral
import StimulusBench.Proofs.Assembly
import StimulusBench.Proofs.Command.Action
import StimulusBench.Proofs.Command.Artifacts
import StimulusBench.Proofs.Command.Check
import StimulusBench.Proofs.Command.Configured
import StimulusBench.Proofs.Command.Generate
import StimulusBench.Proofs.Command.Mutants
import StimulusBench.Proofs.Command.Testbench
import StimulusBench.Proofs.Config
import StimulusBench.Proofs.Config.Values
import StimulusBench.Proofs.Document
import StimulusBench.Proofs.FileTree
import StimulusBench.Proofs.FileTree.Directories
import StimulusBench.Proofs.FileTree.Writing
import StimulusBench.Proofs.Filler.Decoding
import StimulusBench.Proofs.Filler.Inert
import StimulusBench.Proofs.Generated
import StimulusBench.Proofs.Json.Text
import StimulusBench.Proofs.Json.Tree
import StimulusBench.Proofs.Leaves
import StimulusBench.Proofs.Listing
import StimulusBench.Proofs.Log.Growth
import StimulusBench.Proofs.Log.Start
import StimulusBench.Proofs.Number.Numeral
import StimulusBench.Proofs.Outcome
import StimulusBench.Proofs.Random.Draw
import StimulusBench.Proofs.Random.Endless
import StimulusBench.Proofs.Random.KeyStream
import StimulusBench.Proofs.Random.Repeated
import StimulusBench.Proofs.Readers
import StimulusBench.Proofs.Recognizer.Classification
import StimulusBench.Proofs.Recognizer.Observation
import StimulusBench.Proofs.Recognizer.Reachable
import StimulusBench.Proofs.Recognizer.Sequence
import StimulusBench.Proofs.Recognizer.Step
import StimulusBench.Proofs.Recognizer.Trace
import StimulusBench.Proofs.Recognizer.Tracking
import StimulusBench.Proofs.Replay
import StimulusBench.Proofs.Replay.Findings
import StimulusBench.Proofs.Replay.Printing
import StimulusBench.Proofs.RoundTrip
import StimulusBench.Proofs.Scenario.Lockout
import StimulusBench.Proofs.Scenario.MisplacedStart
import StimulusBench.Proofs.Scenario.StartMarker
import StimulusBench.Proofs.Sequence.Corruption
import StimulusBench.Proofs.Sequence.Drawn
import StimulusBench.Proofs.Sequence.FirstBlock
import StimulusBench.Proofs.Sequence.Mutation
import StimulusBench.Proofs.Sequence.Redraw
import StimulusBench.Proofs.Session
import StimulusBench.Proofs.Sink
import StimulusBench.Proofs.Testbench
import StimulusBench.Proofs.TestbenchText
import StimulusBench.Proofs.Yaml.BlockText
import StimulusBench.Proofs.Yaml.Cutting
import StimulusBench.Proofs.Yaml.FlowText
import StimulusBench.Proofs.Yaml.Following
import StimulusBench.Proofs.Yaml.Gathering
import StimulusBench.Proofs.Yaml.Resolution
import StimulusBench.Proofs.Yaml.Root
import StimulusBench.Proofs.Yaml.View
import StimulusBench.Random.KeyStream
import StimulusBench.Random.Source
import StimulusBench.Recognizer
import StimulusBench.Record
import StimulusBench.Replay
import StimulusBench.Scenario
import StimulusBench.Sequence.Basic
import StimulusBench.Sequence.Mutation
import StimulusBench.Session
import StimulusBench.Sink
import StimulusBench.Stimulus
import StimulusBench.Testbench
import StimulusBench.Text.Quoted
import StimulusBench.Text.Unprintable
import StimulusBench.Toml.Cursor
import StimulusBench.Toml.Excerpt
import StimulusBench.Toml.Node
import StimulusBench.Toml.Plain
import StimulusBench.Toml.Reader
import StimulusBench.Toml.Scalar
import StimulusBench.Toml.Table
import StimulusBench.Yaml.Cursor
import StimulusBench.Yaml.Event
import StimulusBench.Yaml.Node
import StimulusBench.Yaml.Property
import StimulusBench.Yaml.Reading
import StimulusBench.Yaml.Resolution
import StimulusBench.Yaml.Scalar
import StimulusBench.Yaml.Token
