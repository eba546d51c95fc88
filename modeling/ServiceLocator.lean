import ServiceLocator.Call.Caller
import ServiceLocator.Call.Error
import ServiceLocator.Call.Event
import ServiceLocator.Call.Outcome
import ServiceLocator.Client.Basic
import ServiceLocator.Client.Operation
import ServiceLocator.Client.Session
import ServiceLocator.Configuration
import ServiceLocator.Decimal.Binary64
import ServiceLocator.Decimal.Shortest
import ServiceLocator.Http.Credential
import ServiceLocator.Http.Edit
import ServiceLocator.Http.Field
import ServiceLocator.Http.Headers
import ServiceLocator.Http.Message
import ServiceLocator.Http.Reason
import ServiceLocator.Json.Fault
import ServiceLocator.Json.Printer
import ServiceLocator.Json.Reader
import ServiceLocator.Json.Skip
import ServiceLocator.Json.Token
import ServiceLocator.Json.Value
import ServiceLocator.Locator.Descriptor
import ServiceLocator.Locator.Endpoint
import ServiceLocator.Locator.Listing
import ServiceLocator.Logging
import ServiceLocator.Main
import ServiceLocator.SessionReport
import ServiceLocator.Text.Base64
import ServiceLocator.Text.Numeral
import ServiceLocator.Text.Placeholder
import ServiceLocator.Text.Quoted
import ServiceLocator.Text.Utf8
import ServiceLocator.Transport.Basic
import ServiceLocator.Transport.Http
import ServiceLocator.Transport.Peer
import ServiceLocator.Transport.Scripted
import ServiceLocator.Transport.Settings
import ServiceLocator.Unicode.Composition
import ServiceLocator.Unicode.Composition.Rows
import ServiceLocator.Unicode.Mark
import ServiceLocator.Unicode.Printable
import ServiceLocator.Unicode.Row
import ServiceLocator.Unicode.UpperCase
import ServiceLocator.Url.Basic
import ServiceLocator.Url.Domain
import ServiceLocator.Url.Domain.BidiRows
import ServiceLocator.Url.Domain.JoiningRows
import ServiceLocator.Url.Domain.Rows
import ServiceLocator.Url.Host
import ServiceLocator.Url.Ipv4
import ServiceLocator.Url.Ipv6
import ServiceLocator.Url.Parser
import ServiceLocator.Url.Path
import ServiceLocator.Url.Percent
import ServiceLocator.Url.Punycode
import ServiceLocator.Proofs.Basic
import ServiceLocator.Proofs.Transport.Run
import ServiceLocator.Proofs.Client.Course
import ServiceLocator.Proofs.Client.Stages
import ServiceLocator.Proofs.Http.Legal
import ServiceLocator.Proofs.Secrecy.Headers
import ServiceLocator.Proofs.Secrecy.Transport
import ServiceLocator.Proofs.Secrecy.Session
import ServiceLocator.Proofs.Client.Roles
import ServiceLocator.Proofs.Client.Parts
import ServiceLocator.Proofs.Client.Freshness
import ServiceLocator.Proofs.Client.Addresses
import ServiceLocator.Proofs.Text.Utf8
import ServiceLocator.Proofs.Unicode.Inert
import ServiceLocator.Proofs.Url.Percent
import ServiceLocator.Proofs.Url.Authority
import ServiceLocator.Proofs.Url.Blank
import ServiceLocator.Proofs.Url.Path
import ServiceLocator.Proofs.Url.Special
import ServiceLocator.Proofs.Url.Tidy
import ServiceLocator.Proofs.Locator.Joined
import ServiceLocator.Proofs.Locator.Segments
import ServiceLocator.Proofs.Locator.Folder
import ServiceLocator.Proofs.Client.Hosts
import ServiceLocator.Proofs.Http.Headers
import ServiceLocator.Proofs.Http.Field
import ServiceLocator.Proofs.Http.Edit
import ServiceLocator.Proofs.Transport.Wire
import ServiceLocator.Proofs.Transport.Refusal
import ServiceLocator.Proofs.Transport.Settings
import ServiceLocator.Proofs.Client.Credentials
import ServiceLocator.Proofs.Client.Segments
import ServiceLocator.Proofs.Json.Scalar
import ServiceLocator.Proofs.Json.RoundTrip
import ServiceLocator.Proofs.Client.Echo
import ServiceLocator.Proofs.Client.Disclosure
import ServiceLocator.Proofs.Client.Slashes
import ServiceLocator.Proofs.Configuration
import ServiceLocator.Proofs.Client.Statuses
import ServiceLocator.Proofs.Text.Base64
import ServiceLocator.Proofs.Http.Credential
import ServiceLocator.Proofs.Json.Object
import ServiceLocator.Proofs.Locator.Descriptor
import ServiceLocator.Proofs.Locator.Listing
import ServiceLocator.Proofs.Client.Encodable
import ServiceLocator.Proofs.Client.Events
import ServiceLocator.Proofs.Json.Reader
import ServiceLocator.Proofs.Json.Skip.Scalar
import ServiceLocator.Proofs.Json.Skip
import ServiceLocator.Proofs.Locator.Entry
import ServiceLocator.Proofs.Locator.Strict
import ServiceLocator.Proofs.Call.Status
import ServiceLocator.Proofs.Configuration.Default
import ServiceLocator.Proofs.Transport.Reply
import ServiceLocator.Proofs.Json.Printer
import ServiceLocator.Proofs.Client.Fetched
import ServiceLocator.Proofs.Logging
import ServiceLocator.Proofs.SessionReport
import ServiceLocator.Proofs.Text.Utf8.Character
import ServiceLocator.Proofs.Text.Utf8.Lossy
import ServiceLocator.Proofs.Client.Messages
import ServiceLocator.Proofs.Unicode.UpperCase
import ServiceLocator.Proofs.Configuration.Names
