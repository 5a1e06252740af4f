import AlertRelay.Alert
import AlertRelay.Channel.Console
import AlertRelay.Channel.Email
import AlertRelay.Channel.PagerDuty
import AlertRelay.Channel.Slack
import AlertRelay.Charset.Big5Extensions
import AlertRelay.Charset.Big5Table
import AlertRelay.Charset.Chinese
import AlertRelay.Charset.Decoder
import AlertRelay.Charset.Dos
import AlertRelay.Charset.Ebcdic
import AlertRelay.Charset.Gb18030
import AlertRelay.Charset.Gb2312
import AlertRelay.Charset.Idna
import AlertRelay.Charset.Iso2022
import AlertRelay.Charset.Iso8859
import AlertRelay.Charset.Japanese
import AlertRelay.Charset.JisX0208
import AlertRelay.Charset.JisX0212
import AlertRelay.Charset.JisX0213
import AlertRelay.Charset.Korean
import AlertRelay.Charset.KsX1001
import AlertRelay.Charset.Macintosh
import AlertRelay.Charset.Name
import AlertRelay.Charset.Named
import AlertRelay.Charset.Rows
import AlertRelay.Charset.Unicode
import AlertRelay.Charset.Windows
import AlertRelay.Charset.Windows932
import AlertRelay.Command.Options
import AlertRelay.Command.Run
import AlertRelay.Config.Check
import AlertRelay.Config.Files
import AlertRelay.Config.Load
import AlertRelay.Config.Settings
import AlertRelay.Config.View
import AlertRelay.Decimal.Binary
import AlertRelay.Decimal.Read
import AlertRelay.Decimal.Shortest
import AlertRelay.Dispatch
import AlertRelay.Failure
import AlertRelay.Handler
import AlertRelay.Json.Reader
import AlertRelay.Json.Writer
import AlertRelay.Log.Line
import AlertRelay.Log.Setup
import AlertRelay.LogCall
import AlertRelay.Mail.Address
import AlertRelay.Mail.Base64
import AlertRelay.Mail.Body
import AlertRelay.Mail.EncodedWord
import AlertRelay.Mail.HeaderValue
import AlertRelay.Mail.Message
import AlertRelay.Mail.Phrase
import AlertRelay.Mail.QuotedPrintable
import AlertRelay.Mail.Subject
import AlertRelay.Main
import AlertRelay.Outcome
import AlertRelay.Payload
import AlertRelay.Program
import AlertRelay.Proofs.Accounts
import AlertRelay.Proofs.BlankErrors
import AlertRelay.Proofs.Command.Options
import AlertRelay.Proofs.Command.Sessions
import AlertRelay.Proofs.Command.Verdict
import AlertRelay.Proofs.Config.Accepted
import AlertRelay.Proofs.Config.Cache
import AlertRelay.Proofs.Config.Wiring
import AlertRelay.Proofs.Console.Lines
import AlertRelay.Proofs.Dispatch.Deliveries
import AlertRelay.Proofs.Dispatch.FanOut
import AlertRelay.Proofs.Dispatch.Isolation
import AlertRelay.Proofs.Dispatch.Outcomes
import AlertRelay.Proofs.Dispatch.Panic
import AlertRelay.Proofs.Dispatch.Rounds
import AlertRelay.Proofs.Email.Exchange
import AlertRelay.Proofs.Email.Isolation
import AlertRelay.Proofs.Email.Lookup
import AlertRelay.Proofs.Email.Mailings
import AlertRelay.Proofs.Email.Parts
import AlertRelay.Proofs.Email.Verdict
import AlertRelay.Proofs.Entries
import AlertRelay.Proofs.Excerpts
import AlertRelay.Proofs.HandlerContract
import AlertRelay.Proofs.HandlerLife
import AlertRelay.Proofs.IncidentKey
import AlertRelay.Proofs.Likeness
import AlertRelay.Proofs.Lives
import AlertRelay.Proofs.Log.Setup
import AlertRelay.Proofs.Mail.Base64
import AlertRelay.Proofs.Mail.FreeText
import AlertRelay.Proofs.Mail.QuotedPrintable
import AlertRelay.Proofs.Mail.RoundTrip
import AlertRelay.Proofs.Mail.Subject
import AlertRelay.Proofs.Mail.SubjectLine
import AlertRelay.Proofs.Network
import AlertRelay.Proofs.ObservedErrors
import AlertRelay.Proofs.PagerDuty.Announcements
import AlertRelay.Proofs.PagerDuty.Correlation
import AlertRelay.Proofs.PagerDuty.Retries
import AlertRelay.Proofs.PagerDuty.Verdict
import AlertRelay.Proofs.Posts
import AlertRelay.Proofs.Retry
import AlertRelay.Proofs.Retry.Script
import AlertRelay.Proofs.Run
import AlertRelay.Proofs.Schedule.Breaks
import AlertRelay.Proofs.Schedule.Failures
import AlertRelay.Proofs.Schedule.Independence
import AlertRelay.Proofs.Schedule.Marks
import AlertRelay.Proofs.Schedule.Stories
import AlertRelay.Proofs.Schedule.Turns
import AlertRelay.Proofs.Secrets.Credentials
import AlertRelay.Proofs.Secrets.Lockstep
import AlertRelay.Proofs.Sessions.Events
import AlertRelay.Proofs.Sessions.Holders
import AlertRelay.Proofs.Sessions.Life
import AlertRelay.Proofs.Sessions.Slots
import AlertRelay.Proofs.Slack.Address
import AlertRelay.Proofs.Slack.Notes
import AlertRelay.Proofs.StandIn
import AlertRelay.Proofs.Text.Lines
import AlertRelay.Proofs.Text.Strings
import AlertRelay.Proofs.Text.Trim
import AlertRelay.Proofs.Text.Utf8
import AlertRelay.Proofs.Upkeep.Channels
import AlertRelay.Proofs.Upkeep.Programs
import AlertRelay.Retry
import AlertRelay.Schedule
import AlertRelay.Seconds
import AlertRelay.StandIn
import AlertRelay.Text.Blank
import AlertRelay.Text.Case
import AlertRelay.Text.CaseTable
import AlertRelay.Text.Composition
import AlertRelay.Text.CompositionTable
import AlertRelay.Text.Digit
import AlertRelay.Text.Lines
import AlertRelay.Text.Nameprep
import AlertRelay.Text.NamingTable
import AlertRelay.Text.Point
import AlertRelay.Text.Printable
import AlertRelay.Text.Punycode
import AlertRelay.Text.Quoted
import AlertRelay.Text.Utf8
import AlertRelay.Value
import AlertRelay.Wiring
import AlertRelay.World
import AlertRelay.Yaml.Cursor
import AlertRelay.Yaml.Document
import AlertRelay.Yaml.Meaning
import AlertRelay.Yaml.Node
import AlertRelay.Yaml.Number
import AlertRelay.Yaml.Scalar
import AlertRelay.Yaml.Tag
import AlertRelay.Yaml.Timestamp
import AlertRelay.Yaml.Token
