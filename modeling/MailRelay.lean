import MailRelay.Address.Mailbox
import MailRelay.Api.Service
import MailRelay.Config.Location
import MailRelay.Config.Record
import MailRelay.Delivery.Rehearsal
import MailRelay.Delivery.Transport
import MailRelay.LogLevel
import MailRelay.Main
import MailRelay.Message.Rendering
import MailRelay.Relay
import MailRelay.Smtp.Session
import MailRelay.Proofs.Queue.Refinement
import MailRelay.Proofs.Delivery.Conversation
import MailRelay.Proofs.Delivery.Envelope
import MailRelay.Proofs.Delivery.Farewell
import MailRelay.Proofs.Delivery.Inquiries
import MailRelay.Proofs.Address.List
import MailRelay.Proofs.Address.Mailbox
import MailRelay.Proofs.Message.Validation
import MailRelay.Proofs.Delivery.Routing
import MailRelay.Proofs.Queue.History
import MailRelay.Proofs.Queue.Reception
import MailRelay.Proofs.Queue.Retention
import MailRelay.Proofs.Queue.Schedule
import MailRelay.Proofs.Acceptance
import MailRelay.Proofs.Smtp.Transaction
import MailRelay.Proofs.Smtp.Content
import MailRelay.Proofs.Smtp.Receiving
import MailRelay.Proofs.Smtp.Transcript
import MailRelay.Proofs.Traffic.Handover
import MailRelay.Proofs.Traffic.Holding
import MailRelay.Proofs.Traffic.Accounts
import MailRelay.Proofs.Traffic.Lifecycle
import MailRelay.Proofs.Traffic.Retries
import MailRelay.Proofs.Traffic.Shutdown
import MailRelay.Proofs.Smtp.Ingest
import MailRelay.Proofs.Message.Rendering
import MailRelay.Proofs.Message.OwnFields
import MailRelay.Proofs.Smtp.BlindCopies
import MailRelay.Proofs.Notices
import MailRelay.Proofs.Address.Rereading
import MailRelay.Proofs.Smtp.Addresses
import MailRelay.Proofs.Delivery.PlainText
import MailRelay.Proofs.Delivery.Refusals
import MailRelay.Proofs.Delivery.Itinerary
import MailRelay.Proofs.Text.Width
import MailRelay.Proofs.Mime.Growth
import MailRelay.Proofs.Smtp.ContentSize
import MailRelay.Proofs.Smtp.Filing
import MailRelay.Proofs.Queue.Polling
import MailRelay.Proofs.Queue.Alteration
import MailRelay.Proofs.Queue.Settling
import MailRelay.Proofs.Queue.Release
import MailRelay.Proofs.Api.Batches
import MailRelay.Proofs.Smtp.ReplyGrammar
import MailRelay.Proofs.Smtp.ContentLimit
import MailRelay.Proofs.Api.Authorization
import MailRelay.Proofs.Message.Rules
import MailRelay.Proofs.Message.Record
