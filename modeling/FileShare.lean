import FileShare.Bytes.BigEndian
import FileShare.Bytes.ByteQueue
import FileShare.Bytes.Equality
import FileShare.Bytes.Sequence
import FileShare.CommandLine.Invocation
import FileShare.CommandLine.Program
import FileShare.CommandLine.Report
import FileShare.CommandLine.Switch
import FileShare.Exchange.Download
import FileShare.Exchange.Exchange
import FileShare.Exchange.ExchangeError
import FileShare.Exchange.Job
import FileShare.Exchange.Listing
import FileShare.Exchange.Outcome
import FileShare.Exchange.Outlet
import FileShare.Exchange.Single
import FileShare.Exchange.Upload
import FileShare.Exchange.World
import FileShare.Host.Errno
import FileShare.Host.FileSystem
import FileShare.Host.IoError
import FileShare.Host.LocalFile
import FileShare.Host.Path
import FileShare.Host.Planting
import FileShare.Host.Spelling
import FileShare.Main
import FileShare.MessagePack.Read
import FileShare.MessagePack.Shape
import FileShare.MessagePack.Value
import FileShare.Proofs.Backlog
import FileShare.Proofs.Backpressure
import FileShare.Proofs.Branches
import FileShare.Proofs.Calls
import FileShare.Proofs.Cancellation
import FileShare.Proofs.Candor
import FileShare.Proofs.Causes
import FileShare.Proofs.Confinement
import FileShare.Proofs.Conversation
import FileShare.Proofs.Cursor
import FileShare.Proofs.Cut
import FileShare.Proofs.Deletion
import FileShare.Proofs.Delivery
import FileShare.Proofs.Desk
import FileShare.Proofs.Dialogue
import FileShare.Proofs.Disposal
import FileShare.Proofs.DownloadRun
import FileShare.Proofs.Downloading
import FileShare.Proofs.Emptying
import FileShare.Proofs.Endings
import FileShare.Proofs.EntryNames
import FileShare.Proofs.Envelopes
import FileShare.Proofs.Fetching
import FileShare.Proofs.FileChanges
import FileShare.Proofs.FileTable
import FileShare.Proofs.Folders
import FileShare.Proofs.FrameReading
import FileShare.Proofs.Handlers
import FileShare.Proofs.Happenings
import FileShare.Proofs.Hosting
import FileShare.Proofs.Initiating
import FileShare.Proofs.Interleaving
import FileShare.Proofs.Jobs
import FileShare.Proofs.Ledger
import FileShare.Proofs.LocalFiles
import FileShare.Proofs.Omissions
import FileShare.Proofs.Outward
import FileShare.Proofs.Pages
import FileShare.Proofs.Passage
import FileShare.Proofs.PayloadReading
import FileShare.Proofs.QueuedRequests
import FileShare.Proofs.RangeOutput
import FileShare.Proofs.RangeRequests
import FileShare.Proofs.Reassembly
import FileShare.Proofs.Receiving
import FileShare.Proofs.Refusals
import FileShare.Proofs.Replacement
import FileShare.Proofs.RequestQueue
import FileShare.Proofs.Resolution
import FileShare.Proofs.Retrieval
import FileShare.Proofs.Routes
import FileShare.Proofs.Sending
import FileShare.Proofs.Serving
import FileShare.Proofs.Settling
import FileShare.Proofs.Shrinking
import FileShare.Proofs.Speaking
import FileShare.Proofs.Staging
import FileShare.Proofs.StatusCodes
import FileShare.Proofs.Stream
import FileShare.Proofs.Streaming
import FileShare.Proofs.Threads
import FileShare.Proofs.UploadFlow
import FileShare.Proofs.UploadRun
import FileShare.Proofs.Uploading
import FileShare.Proofs.Urls
import FileShare.Proofs.ValueReading
import FileShare.Proofs.Wakings
import FileShare.Proofs.WorldCalls
import FileShare.Service.Client
import FileShare.Service.Connection
import FileShare.Service.Meeting
import FileShare.Service.Server
import FileShare.Service.Task
import FileShare.Service.Worker
import FileShare.Session.IdleTimer
import FileShare.Session.Session
import FileShare.Session.SessionError
import FileShare.Settings.Fields
import FileShare.Settings.File
import FileShare.Settings.Places
import FileShare.Settings.Settings
import FileShare.Share.Branch
import FileShare.Share.Call
import FileShare.Share.ShareError
import FileShare.Share.Stat
import FileShare.Share.Store
import FileShare.Share.TemporaryName
import FileShare.Share.Url
import FileShare.Text.Hex
import FileShare.Text.Json
import FileShare.Text.Lossy
import FileShare.Text.Printable
import FileShare.Text.Quoted
import FileShare.Toml.Document
import FileShare.Toml.Layout
import FileShare.Toml.Number
import FileShare.Toml.Text
import FileShare.Toml.Value
import FileShare.Transport.Scripted
import FileShare.Transport.Socket
import FileShare.Transport.Transport
import FileShare.Wire.Command
import FileShare.Wire.Frame
import FileShare.Wire.FrameError
import FileShare.Wire.Message
import FileShare.Wire.Packet
import FileShare.Wire.Payload
import FileShare.Wire.Status
