import Entitlement.Authority.Client
import Entitlement.Authority.Exchange
import Entitlement.Authority.Redirect
import Entitlement.Dictionary
import Entitlement.Fault.Basic
import Entitlement.Fault.Kind
import Entitlement.Fault.Record
import Entitlement.Feature
import Entitlement.Flags
import Entitlement.Identifier
import Entitlement.Json.Basic
import Entitlement.Json.Decoded
import Entitlement.Json.Reader
import Entitlement.Json.Shown
import Entitlement.Json.Writer
import Entitlement.License.Basic
import Entitlement.License.Payload
import Entitlement.License.Selection
import Entitlement.License.Synthetic
import Entitlement.Log
import Entitlement.Log.Message
import Entitlement.Log.Note
import Entitlement.Metrics.Basic
import Entitlement.Metrics.Exposition
import Entitlement.Numeric.Binary64
import Entitlement.Numeric.Power
import Entitlement.Numeric.Rounded
import Entitlement.Numeric.Shortest
import Entitlement.Posting
import Entitlement.Retry.Basic
import Entitlement.Retry.Delay
import Entitlement.Service
import Entitlement.Session
import Entitlement.Settings
import Entitlement.Shape.Coercion
import Entitlement.Shape.Issue
import Entitlement.Store.Basic
import Entitlement.Store.Database
import Entitlement.Store.Table
import Entitlement.Text.Basic
import Entitlement.Text.Blank
import Entitlement.Text.Case
import Entitlement.Text.CaseTable
import Entitlement.Text.Composition
import Entitlement.Text.CompositionTable
import Entitlement.Text.Digit
import Entitlement.Text.Encoding
import Entitlement.Text.Numeral
import Entitlement.Text.Printable
import Entitlement.Text.Punycode
import Entitlement.Text.Quoted
import Entitlement.Text.Range
import Entitlement.Text.Unencodable
import Entitlement.Text.Utf8
import Entitlement.Time.DateTime
import Entitlement.Time.Iso8601
import Entitlement.Time.Rfc3339
import Entitlement.Url.Address
import Entitlement.Url.Basic
import Entitlement.Url.Domain
import Entitlement.Url.DomainTable
import Entitlement.Web.App
import Entitlement.Web.Body
import Entitlement.Web.Http
import Entitlement.Web.Organization
import Entitlement.Web.Route
import Entitlement.Proofs.Session.Offline
import Entitlement.Proofs.Store.Exchange
import Entitlement.Proofs.Service.FailedWrite
import Entitlement.Proofs.Service.View
import Entitlement.Proofs.Service.Linear
import Entitlement.Proofs.Outcome
import Entitlement.Proofs.License.Selection
import Entitlement.Proofs.Service.Resolution
import Entitlement.Proofs.Json.Writable
import Entitlement.Proofs.Json.Joined
import Entitlement.Proofs.Store.Rows
import Entitlement.Proofs.License.ReadBack
import Entitlement.Proofs.Service.ReadBack
import Entitlement.Proofs.Store.LastWritten
import Entitlement.Proofs.Retry.Attempts
import Entitlement.Proofs.Authority.Perform
import Entitlement.Proofs.Service.Failure
import Entitlement.Proofs.Store.Confined
import Entitlement.Proofs.Service.Isolation
import Entitlement.Proofs.Web.Handle
import Entitlement.Proofs.Json.Strict
import Entitlement.Proofs.Json.Accepted
import Entitlement.Proofs.Web.Response
import Entitlement.Proofs.Web.Malformed
import Entitlement.Proofs.Web.Served
import Entitlement.Proofs.Web.Posted
import Entitlement.Proofs.Dictionary
import Entitlement.Proofs.License.Coherent
import Entitlement.Proofs.License.Refreshing
import Entitlement.Proofs.License.Decision
import Entitlement.Proofs.License.Decoded
import Entitlement.Proofs.Service.Order
import Entitlement.Proofs.Service.Decay
import Entitlement.Proofs.Log.Record
import Entitlement.Proofs.Session.Closed
import Entitlement.Proofs.Session.Keeps
import Entitlement.Proofs.Session.Traced
import Entitlement.Proofs.Service.Traced
import Entitlement.Proofs.Web.Traced
import Entitlement.Proofs.Web.Visits
import Entitlement.Proofs.Web.Correlation
import Entitlement.Proofs.License.Period
import Entitlement.Proofs.Time.Form
import Entitlement.Proofs.Retry.Rehearsal
import Entitlement.Proofs.Url.Path
import Entitlement.Proofs.Authority.Requests
import Entitlement.Proofs.Service.Billing
import Entitlement.Proofs.Authority.Counted
import Entitlement.Proofs.Text.Hexadecimal
import Entitlement.Proofs.Text.Case
import Entitlement.Proofs.Identifier
import Entitlement.Proofs.Flags
import Entitlement.Proofs.Web.Organization
import Entitlement.Proofs.Session.Blind
import Entitlement.Proofs.Authority.Redirect
import Entitlement.Proofs.Service.Redirection
import Entitlement.Proofs.Web.Redirect
import Entitlement.Proofs.Fault.Layers
import Entitlement.Proofs.Store.Pool
import Entitlement.Proofs.Web.Health
import Entitlement.Proofs.Web.Lifespan
