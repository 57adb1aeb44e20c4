import PackageDepot.Failure
import PackageDepot.Filesystem.Node
import PackageDepot.Filesystem.Resolve
import PackageDepot.Http.Reading
import PackageDepot.Http.Request
import PackageDepot.Http.Response
import PackageDepot.Json.Number
import PackageDepot.Json.Skip
import PackageDepot.Json.StringLiteral
import PackageDepot.Json.Token
import PackageDepot.Log.Event
import PackageDepot.Log.Record
import PackageDepot.Main
import PackageDepot.Options.Arguments
import PackageDepot.Options.Config
import PackageDepot.Options.Setting
import PackageDepot.Package.Catalog
import PackageDepot.Package.CatalogText
import PackageDepot.Package.Directory
import PackageDepot.Path
import PackageDepot.Proofs.Filesystem.Alike
import PackageDepot.Proofs.Filesystem.LinkFree
import PackageDepot.Proofs.Filesystem.Reach
import PackageDepot.Proofs.Filesystem.Settled
import PackageDepot.Proofs.Filesystem.Walk
import PackageDepot.Proofs.Http.Consumption
import PackageDepot.Proofs.Http.Framing
import PackageDepot.Proofs.Http.HeaderEnd
import PackageDepot.Proofs.Http.RequestGrammar
import PackageDepot.Proofs.Http.RequestLine
import PackageDepot.Proofs.Http.Supply
import PackageDepot.Proofs.Json.Lexeme
import PackageDepot.Proofs.Json.Literal
import PackageDepot.Proofs.Json.NumberLiteral
import PackageDepot.Proofs.Json.Value
import PackageDepot.Proofs.Options.CommandLine
import PackageDepot.Proofs.Options.Reading
import PackageDepot.Proofs.Options.Sources
import PackageDepot.Proofs.Package.Canonical
import PackageDepot.Proofs.Package.CatalogGrammar
import PackageDepot.Proofs.Package.Containment
import PackageDepot.Proofs.Package.Enumeration
import PackageDepot.Proofs.Package.FiniteMap
import PackageDepot.Proofs.Package.Guard
import PackageDepot.Proofs.Package.Layout
import PackageDepot.Proofs.Package.NameFaults
import PackageDepot.Proofs.Package.Respelling
import PackageDepot.Proofs.Package.RoundTrip
import PackageDepot.Proofs.Package.Secrecy
import PackageDepot.Proofs.Package.Source
import PackageDepot.Proofs.Path.Joining
import PackageDepot.Proofs.Path.Rendering
import PackageDepot.Proofs.Path.Spelling
import PackageDepot.Proofs.Router.Index
import PackageDepot.Proofs.Router.LogLines
import PackageDepot.Proofs.Router.Precedence
import PackageDepot.Proofs.Router.Protocol
import PackageDepot.Proofs.Router.RequestLog
import PackageDepot.Proofs.Router.Rules
import PackageDepot.Proofs.Server.Clients
import PackageDepot.Proofs.Server.Course
import PackageDepot.Proofs.Server.Packing
import PackageDepot.Proofs.Server.Stopping
import PackageDepot.Proofs.Text.Decoding
import PackageDepot.Proofs.Text.Encoding
import PackageDepot.Proofs.Text.Quoting
import PackageDepot.Proofs.Text.Words
import PackageDepot.Router.Table
import PackageDepot.Server.Program
import PackageDepot.Server.Shutdown
import PackageDepot.Text.Characters
import PackageDepot.Text.Notation
import PackageDepot.Text.Utf8
