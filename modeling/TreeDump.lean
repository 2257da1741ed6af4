import TreeDump.Reader.Session
import TreeDump.Settings
import TreeDump.Token.Kind.Json
import TreeDump.Proofs.Gap
import TreeDump.Proofs.Quoted
import TreeDump.Proofs.Message
import TreeDump.Proofs.Token.Nesting
import TreeDump.Proofs.Token.Written
import TreeDump.Proofs.Token.Boundary
import TreeDump.Proofs.Token.Reading
import TreeDump.Proofs.Layout
import TreeDump.Proofs.Reader.Step
import TreeDump.Proofs.Reader.Conservation
import TreeDump.Proofs.Reader.Agreement
import TreeDump.Proofs.Reader.Failure
import TreeDump.Proofs.Reader.Eager
import TreeDump.Proofs.Reader.Edit
import TreeDump.Proofs.Reader.Resume
import TreeDump.Proofs.Reader.Progress
import TreeDump.Proofs.Reader.Depth
import TreeDump.Proofs.Reader.Parenthesis
import TreeDump.Proofs.Reader.ComposedKey
import TreeDump.Proofs.RoundTrip
import TreeDump.Proofs.Replay
import TreeDump.Proofs.Json.Grammar
import TreeDump.Proofs.Json.Strings
import TreeDump.Proofs.Json.Skipping
import TreeDump.Proofs.Settings.Members
import TreeDump.Proofs.Settings.RoundTrip
import TreeDump.Proofs.Reader.Journal
import TreeDump.Proofs.Slice
import TreeDump.Proofs.Place
import TreeDump.Proofs.Token.Cutting
import TreeDump.Proofs.Token.Extent
import TreeDump.Proofs.Reader.Slicing
import TreeDump.Proofs.Reader.Cursor
import TreeDump.Proofs.Reader.Identifier
import TreeDump.Proofs.Reader.Location
import TreeDump.Proofs.Reader.Declaration
import TreeDump.Proofs.Reader.Key
import TreeDump.Proofs.Reader.Context
import TreeDump.Proofs.Reader.Delimited
import TreeDump.Proofs.Reader.KeyOrder
import TreeDump.Proofs.Reader.Position
