import CloudProvider.Api
import CloudProvider.AsyncRequest
import CloudProvider.Catalog.Kind
import CloudProvider.Catalog.Mysql
import CloudProvider.Catalog.Network
import CloudProvider.Cidr
import CloudProvider.Cli.Command
import CloudProvider.Cli.Palette
import CloudProvider.Cli.Query
import CloudProvider.Cli.Report
import CloudProvider.Cli.ResourceFile
import CloudProvider.Cli.Run
import CloudProvider.CompositeId
import CloudProvider.Config
import CloudProvider.DataSource.Basic
import CloudProvider.DataSource.Mysql
import CloudProvider.DataSource.Network
import CloudProvider.Date
import CloudProvider.Dialogue
import CloudProvider.Digest.Hmac
import CloudProvider.Digest.Sha256
import CloudProvider.Error
import CloudProvider.Event
import CloudProvider.Fields
import CloudProvider.Files
import CloudProvider.Http.Envelope
import CloudProvider.Http.Signature
import CloudProvider.Http.Status
import CloudProvider.Http.Transport
import CloudProvider.Http.Url.Basic
import CloudProvider.Http.Url.Domain
import CloudProvider.Http.Url.Host
import CloudProvider.Http.Url.Mapping
import CloudProvider.Http.Url.Percent
import CloudProvider.Http.Url.Punycode
import CloudProvider.Ipv4
import CloudProvider.Json.Basic
import CloudProvider.Json.Decode
import CloudProvider.Json.Document
import CloudProvider.Json.Document.Record
import CloudProvider.Json.Double
import CloudProvider.Json.Printer
import CloudProvider.Json.Token
import CloudProvider.Lifecycle.Basic
import CloudProvider.Lifecycle.Mysql
import CloudProvider.Lifecycle.Network
import CloudProvider.Listing
import CloudProvider.Lookup
import CloudProvider.Main
import CloudProvider.Mysql.Account
import CloudProvider.Mysql.Backup
import CloudProvider.Mysql.Client
import CloudProvider.Mysql.Offer
import CloudProvider.Mysql.Privilege
import CloudProvider.Network.Client
import CloudProvider.Network.RouteTable
import CloudProvider.Network.Subnet
import CloudProvider.Network.Vpc
import CloudProvider.Proofs.Addressing
import CloudProvider.Proofs.Admission
import CloudProvider.Proofs.Alike
import CloudProvider.Proofs.Answer
import CloudProvider.Proofs.Asking
import CloudProvider.Proofs.Attributes
import CloudProvider.Proofs.Attribution
import CloudProvider.Proofs.Awaiting
import CloudProvider.Proofs.Blocks
import CloudProvider.Proofs.Blocks.Correction
import CloudProvider.Proofs.Blocks.Spelling
import CloudProvider.Proofs.Call
import CloudProvider.Proofs.Carrying
import CloudProvider.Proofs.Changes
import CloudProvider.Proofs.Completeness
import CloudProvider.Proofs.Conformity
import CloudProvider.Proofs.Conversion
import CloudProvider.Proofs.Course
import CloudProvider.Proofs.Creation
import CloudProvider.Proofs.Deletion
import CloudProvider.Proofs.Desired
import CloudProvider.Proofs.Digits
import CloudProvider.Proofs.Disclosure
import CloudProvider.Proofs.Excerpt
import CloudProvider.Proofs.Exec
import CloudProvider.Proofs.Filters
import CloudProvider.Proofs.Finding
import CloudProvider.Proofs.Guarding
import CloudProvider.Proofs.Identifier
import CloudProvider.Proofs.Identifier.Composite
import CloudProvider.Proofs.Identifier.RouteEntry
import CloudProvider.Proofs.Indifference
import CloudProvider.Proofs.Inventory
import CloudProvider.Proofs.Inventory.Outcome
import CloudProvider.Proofs.Json.Records
import CloudProvider.Proofs.Json.Texts
import CloudProvider.Proofs.Json.Tokens
import CloudProvider.Proofs.Layout
import CloudProvider.Proofs.Listing.Extent
import CloudProvider.Proofs.Listing.Pages
import CloudProvider.Proofs.Looking
import CloudProvider.Proofs.Network.Entry
import CloudProvider.Proofs.Network.History
import CloudProvider.Proofs.Network.Ledger
import CloudProvider.Proofs.Network.Operations
import CloudProvider.Proofs.Network.Records
import CloudProvider.Proofs.Network.RouteCreation
import CloudProvider.Proofs.Network.RouteEntries
import CloudProvider.Proofs.Network.Store
import CloudProvider.Proofs.Offer
import CloudProvider.Proofs.PageSize
import CloudProvider.Proofs.Password
import CloudProvider.Proofs.Polling
import CloudProvider.Proofs.Polling.Duration
import CloudProvider.Proofs.Reading
import CloudProvider.Proofs.Reapplying
import CloudProvider.Proofs.Rejection
import CloudProvider.Proofs.Results
import CloudProvider.Proofs.Saving
import CloudProvider.Proofs.Secrecy
import CloudProvider.Proofs.Session
import CloudProvider.Proofs.Shape
import CloudProvider.Proofs.Sighting
import CloudProvider.Proofs.Stopping
import CloudProvider.Proofs.TableUse
import CloudProvider.Proofs.Tolerance
import CloudProvider.Proofs.Update
import CloudProvider.Proofs.Validation
import CloudProvider.Proofs.Violations
import CloudProvider.Proofs.Wording
import CloudProvider.Provider
import CloudProvider.Resource
import CloudProvider.RouteEntryId
import CloudProvider.Schema.AttributeType
import CloudProvider.Schema.Basic
import CloudProvider.Schema.Format
import CloudProvider.Settings
import CloudProvider.Text.Blank
import CloudProvider.Text.Digits
import CloudProvider.Text.Direction
import CloudProvider.Text.Hexadecimal
import CloudProvider.Text.Joining
import CloudProvider.Text.Mark
import CloudProvider.Text.Normal.CombiningClass
import CloudProvider.Text.Normal.Decomposition
import CloudProvider.Text.Normal.Form
import CloudProvider.Text.Pieces
import CloudProvider.Text.Printable
import CloudProvider.Text.Quoted
import CloudProvider.Text.Table
import CloudProvider.Text.Utf8
import CloudProvider.Value
import CloudProvider.Value.Json
