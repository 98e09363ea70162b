import SchemaAtlas.Codec
import SchemaAtlas.Main
import SchemaAtlas.Proofs.Lists
import SchemaAtlas.Proofs.Fetch
import SchemaAtlas.Proofs.Dict
import SchemaAtlas.Proofs.Identifier
import SchemaAtlas.Proofs.TableInfo
import SchemaAtlas.Proofs.Recorded
import SchemaAtlas.Proofs.Script.Lines
import SchemaAtlas.Proofs.Script.Contents
import SchemaAtlas.Proofs.Script.Sections
import SchemaAtlas.Proofs.Script.Comments
import SchemaAtlas.Proofs.Fetch.Interleaving
import SchemaAtlas.Proofs.Saving
import SchemaAtlas.Proofs.Json.Quoted
import SchemaAtlas.Proofs.Json.ReadBack
import SchemaAtlas.Proofs.Folder
import SchemaAtlas.Proofs.Snapshot
import SchemaAtlas.Proofs.Settings
import SchemaAtlas.Proofs.CommandLine.Task
import SchemaAtlas.Proofs.CommandLine.Exporting
import SchemaAtlas.Proofs.Ascending
import SchemaAtlas.Proofs.Kind.Links
import SchemaAtlas.Proofs.Kind.Order
import SchemaAtlas.Proofs.Fetch.Outlines
import SchemaAtlas.Proofs.CommandLine.Overriding
import SchemaAtlas.Proofs.Snapshot.Assembled
import SchemaAtlas.Proofs.Snapshot.Alike
import SchemaAtlas.Proofs.Answers
import SchemaAtlas.Proofs.Digits
import SchemaAtlas.Proofs.Yaml.Letters
import SchemaAtlas.Proofs.Yaml.Scalar.Gap
import SchemaAtlas.Proofs.Yaml.Scalar.Plain
import SchemaAtlas.Proofs.Yaml.Scalar.Quoted
import SchemaAtlas.Proofs.Yaml.Scalar.Block
import SchemaAtlas.Proofs.Yaml.Scalar
import SchemaAtlas.Proofs.Yaml.Token.Round
import SchemaAtlas.Proofs.Yaml.Token.Line
import SchemaAtlas.Proofs.Yaml.Token.Entry
import SchemaAtlas.Proofs.Yaml.Node
import SchemaAtlas.Proofs.Settings.File
import SchemaAtlas.Proofs.Script.Terminator
import SchemaAtlas.Proofs.Snapshot.Restated
import SchemaAtlas.Proofs.Kind.Probe
import SchemaAtlas.Proofs.LiveQueries
import SchemaAtlas.Proofs.Script.Spacing
