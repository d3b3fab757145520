import RestShell.Address.Path
import RestShell.Address.Query
import RestShell.Address.Url
import RestShell.Assoc
import RestShell.Charset.Basic
import RestShell.Charset.BigTable
import RestShell.Charset.Cells
import RestShell.Charset.GbRanges
import RestShell.Charset.GbTable
import RestShell.Charset.JisMoreTable
import RestShell.Charset.JisTable
import RestShell.Charset.KsTable
import RestShell.Charset.Label
import RestShell.Charset.SingleByteTable
import RestShell.Client.Basic
import RestShell.Client.Refusal
import RestShell.Client.Response
import RestShell.CommandLine
import RestShell.Compression.Bits
import RestShell.Compression.Checksum
import RestShell.Compression.Coding
import RestShell.Compression.Fse
import RestShell.Compression.Gzip
import RestShell.Compression.HuffmanTable
import RestShell.Compression.Inflate
import RestShell.Compression.Sequences
import RestShell.Compression.Zlib
import RestShell.Compression.Zstandard
import RestShell.Decimal.Binary64
import RestShell.Decimal.Places
import RestShell.Decimal.Shortest
import RestShell.Display.Notice
import RestShell.Display.Palette
import RestShell.Display.Render
import RestShell.Files.Programs
import RestShell.Files.Tree
import RestShell.Json.Basic
import RestShell.Json.Reader
import RestShell.Json.Writer
import RestShell.Line.Arguments
import RestShell.Line.Fault
import RestShell.Line.Flag
import RestShell.Line.Parameter
import RestShell.Line.Projection
import RestShell.Line.Words
import RestShell.Main
import RestShell.Message.Content
import RestShell.Message.Cookie
import RestShell.Message.Header
import RestShell.Message.Measure
import RestShell.Message.Payload
import RestShell.Proofs.Address.BaseUrl
import RestShell.Proofs.Address.Containment
import RestShell.Proofs.Address.Mass
import RestShell.Proofs.Address.Names
import RestShell.Proofs.Address.PathQuery
import RestShell.Proofs.Address.QueryJoin
import RestShell.Proofs.Address.QueryMerge
import RestShell.Proofs.Address.Splice
import RestShell.Proofs.Assoc
import RestShell.Proofs.Client.Classification
import RestShell.Proofs.Client.Composition
import RestShell.Proofs.Client.CookieHistory
import RestShell.Proofs.Client.HeaderLookup
import RestShell.Proofs.Client.UrlMass
import RestShell.Proofs.Client.UrlQuery
import RestShell.Proofs.Line.Scan
import RestShell.Proofs.Session.Atomicity
import RestShell.Proofs.Session.PathWord
import RestShell.Proofs.Session.Replies
import RestShell.Proofs.Session.Separation
import RestShell.Proofs.Session.Stores
import RestShell.Proofs.Text.Pieces
import RestShell.Proofs.Text.UpperCase
import RestShell.Session.Basic
import RestShell.Session.Command
import RestShell.Session.Input
import RestShell.Session.Inspect
import RestShell.Session.Line
import RestShell.Session.Loop
import RestShell.Session.Request
import RestShell.Session.Usage
import RestShell.Settings.Ini
import RestShell.Settings.Options
import RestShell.Settings.Profile
import RestShell.Text.Base64
import RestShell.Text.Blank
import RestShell.Text.Case
import RestShell.Text.CaseTable
import RestShell.Text.Integer
import RestShell.Text.PrintTable
import RestShell.Text.Quoted
import RestShell.Text.Split
import RestShell.Text.Utf8
import RestShell.Text.WordChar
import RestShell.Text.WordTable
import RestShell.Proofs.Session.Status
import RestShell.Proofs.Line.Parameters
import RestShell.Proofs.Line.Styling
import RestShell.Proofs.Session.Requests
import RestShell.Proofs.Session.Styling
import RestShell.Proofs.Files.Writing
import RestShell.Proofs.Session.History
import RestShell.Proofs.Session.Loop
import RestShell.Proofs.Session.Settings
import RestShell.Proofs.Session.Redirection
import RestShell.Proofs.Text.Quoted
import RestShell.Proofs.Session.Congruence
import RestShell.Proofs.Session.Credential
import RestShell.Proofs.Address.Leaves
import RestShell.Proofs.Json.Positions
import RestShell.Proofs.Line.Grammar
import RestShell.Proofs.Line.Paths
import RestShell.Proofs.Session.Failures
import RestShell.Proofs.Line.Exclusion
import RestShell.Proofs.Session.Captures
import RestShell.Proofs.Text.LowerCase
import RestShell.Proofs.Line.Clauses
import RestShell.Proofs.Line.WellFormed
import RestShell.Proofs.Line.Verbatim
import RestShell.Proofs.Json.Mappings
import RestShell.Proofs.Line.Assignment
import RestShell.Proofs.Line.Placement
import RestShell.Proofs.Text.Numeral
import RestShell.Proofs.Address.UrlTarget
import RestShell.Proofs.Address.UrlParts
import RestShell.Proofs.Address.UrlText
import RestShell.Proofs.Client.UrlPlace
import RestShell.Proofs.Text.Utf8
import RestShell.Proofs.Address.QueryDecoding
import RestShell.Proofs.Address.Steps
import RestShell.Proofs.Json.Characters
import RestShell.Proofs.Json.Numbers
import RestShell.Proofs.Json.ReadBack
import RestShell.Proofs.Display.Decoration
import RestShell.Proofs.Display.ReadBack
import RestShell.Proofs.Json.Ordering
import RestShell.Proofs.Display.Canonical
import RestShell.Proofs.Settings.Layers
import RestShell.Proofs.Message.Decoding
import RestShell.Proofs.Message.EmptyBodies
import RestShell.Proofs.Json.Nodes
import RestShell.Proofs.Line.Selection
import RestShell.Proofs.Address.Normal
import RestShell.Proofs.Decimal.Rounding
import RestShell.Proofs.Message.Units
