import StatementLens.Command.Outcome
import StatementLens.Config.Load
import StatementLens.Correlate
import StatementLens.Document
import StatementLens.Json.Reader
import StatementLens.Json.Writer
import StatementLens.Main
import StatementLens.Mapper.Codec
import StatementLens.Mapper.Java
import StatementLens.Mapper.Xml
import StatementLens.Server.Stream
import StatementLens.Text.Blank
import StatementLens.Text.Columns
import StatementLens.Text.Edit
import StatementLens.Text.Identifier
import StatementLens.Text.Word
import StatementLens.Workspace
import StatementLens.Proofs.Bytes
import StatementLens.Proofs.Slices
import StatementLens.Proofs.Positions
import StatementLens.Proofs.Offsets
import StatementLens.Proofs.Boundaries
import StatementLens.Proofs.Spans
import StatementLens.Proofs.Words
import StatementLens.Proofs.Edits
import StatementLens.Proofs.Splices
import StatementLens.Proofs.Java.Layout
import StatementLens.Proofs.Java.Reads
import StatementLens.Proofs.Java.Methods
import StatementLens.Proofs.Xml.Readers
import StatementLens.Proofs.Xml.Markup
import StatementLens.Proofs.Xml.Content
import StatementLens.Proofs.Xml.Prolog
import StatementLens.Proofs.Xml.Reference
import StatementLens.Proofs.Xml.Building
import StatementLens.Proofs.Xml.Alike
import StatementLens.Proofs.Xml.Document
import StatementLens.Proofs.Xml.ClosedRoot
import StatementLens.Proofs.Xml.Entries
import StatementLens.Proofs.Xml.Insertion
import StatementLens.Proofs.Mapper.Skeleton
import StatementLens.Proofs.Mapper.Generate
import StatementLens.Proofs.Mapper.Stale
import StatementLens.Proofs.Xml.RootTag
import StatementLens.Proofs.Lookup
import StatementLens.Proofs.Server.Documents
import StatementLens.Proofs.Url.Percent
import StatementLens.Proofs.Url.File
import StatementLens.Proofs.Server.Buffers
import StatementLens.Proofs.Correlate
import StatementLens.Proofs.Mapper.Anchors
import StatementLens.Proofs.Server.Agreement
import StatementLens.Proofs.Server.Folders
import StatementLens.Proofs.Hoisting
import StatementLens.Proofs.Mapper.Selections
import StatementLens.Proofs.Mapper.InsertPlace
import StatementLens.Proofs.Mapper.Cursor
import StatementLens.Proofs.Utf8
import StatementLens.Proofs.Path
import StatementLens.Proofs.SourceRoots
import StatementLens.Proofs.Recognition
import StatementLens.Proofs.Irrelevant
import StatementLens.Proofs.Files.Rows
import StatementLens.Proofs.Files.Walk
import StatementLens.Proofs.Java.Interfaces
import StatementLens.Proofs.Mapper.Methods
import StatementLens.Proofs.Mapper.SelfClosed
import StatementLens.Proofs.Server.Refresh
import StatementLens.Proofs.Url.Encoded
import StatementLens.Proofs.Url.Addresses
import StatementLens.Proofs.Url.Hosts
import StatementLens.Proofs.Url.Paths
import StatementLens.Proofs.Url.Authorities
import StatementLens.Proofs.Url.Parts
import StatementLens.Proofs.Url.RoundTrip
import StatementLens.Proofs.Url.Dots
import StatementLens.Proofs.Server.Commands
import StatementLens.Proofs.Mapper.Keywords
import StatementLens.Proofs.Associations
import StatementLens.Proofs.Json.Records
import StatementLens.Proofs.Json.Text
import StatementLens.Proofs.Mapper.Codec
import StatementLens.Proofs.Java.Lexemes
import StatementLens.Proofs.Java.Spelling
import StatementLens.Proofs.Java.Outlines
import StatementLens.Proofs.Java.Tidy
import StatementLens.Proofs.Mapper.SameTokens
import StatementLens.Proofs.Lines
import StatementLens.Proofs.Mapper.BaseInterfaces
