import MailRound.Account.Basic
import MailRound.Account.Criteria
import MailRound.Account.Cursor
import MailRound.Account.Polling
import MailRound.Account.Provider
import MailRound.Account.Roster
import MailRound.Calendar.Date
import MailRound.Calendar.Fault
import MailRound.Calendar.Instant
import MailRound.Calendar.Reading
import MailRound.CommandLine.Basic
import MailRound.CommandLine.Help
import MailRound.CommandLine.Reading
import MailRound.Environment.Basic
import MailRound.Environment.Dotenv
import MailRound.Environment.Filter
import MailRound.Environment.Logging
import MailRound.Environment.Polling
import MailRound.Failure
import MailRound.Fetcher.Basic
import MailRound.Fetcher.Config
import MailRound.Fetcher.Gmail
import MailRound.Fetcher.Graph
import MailRound.Fetcher.GraphMessage
import MailRound.Fetcher.Imap
import MailRound.Fetcher.Query
import MailRound.Fetcher.Settings
import MailRound.Imap.Answer
import MailRound.Imap.Command
import MailRound.Json.Basic
import MailRound.Json.Double
import MailRound.Json.Fault
import MailRound.Json.Node
import MailRound.Json.Print
import MailRound.Json.Record
import MailRound.Json.Scan
import MailRound.Log
import MailRound.Mail.Delivered
import MailRound.Mail.Message
import MailRound.Mail.Queue
import MailRound.Mail.Reading
import MailRound.Main
import MailRound.Mime.Address
import MailRound.Mime.Body
import MailRound.Mime.Charset
import MailRound.Mime.Charset.Page
import MailRound.Mime.Charset.Wide
import MailRound.Mime.Delimiter
import MailRound.Mime.EncodedWord
import MailRound.Mime.Entity
import MailRound.Mime.Field
import MailRound.Mime.Lexeme
import MailRound.Mime.MediaType
import MailRound.Mime.MessageId
import MailRound.Mime.Prose
import MailRound.Mime.SentDate
import MailRound.Mime.Transfer
import MailRound.Network.Basic
import MailRound.Network.Desk
import MailRound.Network.Token
import MailRound.Poller.Caller
import MailRound.Poller.Mailboxes
import MailRound.Poller.Script
import MailRound.Poller.State
import MailRound.Poller.Timeline
import MailRound.Poller.Worker
import MailRound.Program.Basic
import MailRound.Program.Folder
import MailRound.Program.Lines
import MailRound.Proofs.Poller.Delivery
import MailRound.Proofs.Poller.Operations
import MailRound.Proofs.Poller.Run
import MailRound.Proofs.Poller.WorkerStep
import MailRound.Text.Alphanumeric
import MailRound.Text.Base64
import MailRound.Text.Blank
import MailRound.Text.Canonical
import MailRound.Text.LowerCase
import MailRound.Text.Numeral
import MailRound.Text.Printable
import MailRound.Text.Quoted
import MailRound.Text.Ranges
import MailRound.Text.Terminal
import MailRound.Text.Utf8
import MailRound.Web.Client
import MailRound.Web.Domain
import MailRound.Web.Domain.Direction
import MailRound.Web.Domain.Joining
import MailRound.Web.Domain.Mapping
import MailRound.Web.Form
import MailRound.Web.Host
import MailRound.Web.Path
import MailRound.Web.Percent
import MailRound.Web.Punycode
import MailRound.Web.Request
import MailRound.Web.Status
import MailRound.Web.Url
import MailRound.Proofs.Poller.Agreement
import MailRound.Proofs.Poller.Leg
import MailRound.Proofs.Poller.Stint
import MailRound.Proofs.Poller.Attempts
import MailRound.Proofs.Crowd.Run
import MailRound.Proofs.Crowd.Epoch
import MailRound.Proofs.Crowd.Crew
import MailRound.Proofs.Crowd.Alike
import MailRound.Proofs.Crowd.Marking
import MailRound.Proofs.Crowd.Attendance
import MailRound.Proofs.Poller.Moves
import MailRound.Proofs.Poller.Completion
import MailRound.Proofs.Poller.Freshness
import MailRound.Proofs.Poller.Selection
import MailRound.Proofs.Round.Plain
import MailRound.Proofs.Round.Resume
import MailRound.Proofs.Round.Loop
import MailRound.Proofs.Round.Arrival
import MailRound.Proofs.Round.Waiting
import MailRound.Proofs.Round.Ending
import MailRound.Proofs.Round.Refinement
import MailRound.Proofs.Lifecycle.Effort
import MailRound.Proofs.Lifecycle.Answers
import MailRound.Proofs.Lifecycle.Restart
import MailRound.Proofs.Lifecycle.Quiescence
import MailRound.Proofs.Lifecycle.Status
import MailRound.Proofs.Round.Isolation
import MailRound.Proofs.Lifecycle.Deferral
import MailRound.Proofs.Twins.Offset
import MailRound.Proofs.Lifecycle.Patience
import MailRound.Proofs.Twins.Moves
import MailRound.Proofs.Twins.Timeline
import MailRound.Proofs.Twins.Session
import MailRound.Proofs.Twins.Schedule
import MailRound.Proofs.Twins.Erasure
import MailRound.Proofs.Documents.Members
import MailRound.Proofs.Documents.Values
import MailRound.Proofs.Documents.Lexemes
import MailRound.Proofs.Documents.Printed
import MailRound.Proofs.Documents.Scanned
import MailRound.Proofs.Documents.Records
import MailRound.Proofs.Documents.Fields
import MailRound.Proofs.Documents.Stored
import MailRound.Proofs.Documents.Reread
import MailRound.Proofs.Text.Sextets
import MailRound.Proofs.Fetcher.Newest
import MailRound.Proofs.Fetcher.Payload
import MailRound.Proofs.Poller.Batch
import MailRound.Proofs.Documents.Grammar
import MailRound.Proofs.Documents.Spelled
import MailRound.Proofs.Documents.Rearranged
import MailRound.Proofs.Documents.Steady
import MailRound.Proofs.Documents.Arrangement
import MailRound.Proofs.Environment.Settings
import MailRound.Proofs.Calendar.Hyphenated
import MailRound.Proofs.Fetcher.Since
import MailRound.Proofs.Fetcher.Credentials
import MailRound.Proofs.Fetcher.Errands
import MailRound.Proofs.Fetcher.Tokens
import MailRound.Proofs.Fetcher.LifeCycle
import MailRound.Proofs.Fetcher.Port
import MailRound.Proofs.Crowd.Circuit
import MailRound.Proofs.Mail.Ledger
import MailRound.Proofs.Web.Names
import MailRound.Proofs.Web.Address
import MailRound.Proofs.Fetcher.Sifting
