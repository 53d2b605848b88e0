import Mode2.Config.Blob
import Mode2.Config.Document
import Mode2.Node.Mailbox
import Mode2.Node.Task
import Mode2.Proofs.Environment.View
import Mode2.Proofs.Environment.Record
import Mode2.Proofs.Session.Order
import Mode2.Proofs.Session.DueQueue
import Mode2.Proofs.Exchange.Undisturbed
import Mode2.Proofs.ChannelAccess.Channel
import Mode2.Proofs.ChannelAccess.Draws
import Mode2.Proofs.Node.Contention
import Mode2.Proofs.Node.Run
import Mode2.Proofs.Node.Applets
import Mode2.Proofs.Node.ActiveDialog
import Mode2.Proofs.Node.RadioConduct
import Mode2.Proofs.FrameQueue.Written
import Mode2.Proofs.Network.Staging
import Mode2.Proofs.Query.Receiver
import Mode2.Proofs.Exchange.Staged
import Mode2.Proofs.Node.StagedFrames
import Mode2.Proofs.Frame.Bits
import Mode2.Proofs.FrameQueue.Reading
import Mode2.Proofs.Network.Sent
import Mode2.Proofs.Exchange.HeaderSteps
import Mode2.Proofs.Exchange.RoundTrip
import Mode2.Proofs.File.Archive
import Mode2.Proofs.Overlooks
import Mode2.Proofs.Query.Discreet
import Mode2.Proofs.Exchange.Noninterference
import Mode2.Proofs.Exchange.Joining
import Mode2.Proofs.Exchange.Responding
import Mode2.Proofs.Exchange.Interoperation
import Mode2.Proofs.File.Table
import Mode2.Proofs.Exchange.Changes
import Mode2.Proofs.Exchange.Sender
import Mode2.Proofs.Node.Retries
import Mode2.Proofs.Node.Handovers
import Mode2.Proofs.Node.RetryBudget
import Mode2.Proofs.Node.CallDepth
import Mode2.Proofs.Node.AppletOnce
import Mode2.Proofs.Node.ListeningWindow
import Mode2.Proofs.Node.FrameOrigins
import Mode2.Proofs.Node.Requesters
import Mode2.Proofs.Exchange.ReturnRoute
import Mode2.Proofs.Node.ResponseWindow
import Mode2.Proofs.Node.Datastreams
import Mode2.Proofs.Node.ResponseTiming
import Mode2.Proofs.Exchange.DialogContinuity
import Mode2.Proofs.Node.Waiting
import Mode2.Proofs.FrameQueue.Memory
import Mode2.Proofs.Exchange.Arbitration
import Mode2.Proofs.Node.Silence
import Mode2.Proofs.Exchange.Acknowledgements
import Mode2.Proofs.Environment.Trace
import Mode2.Proofs.File.Handles
import Mode2.Proofs.Node.Surroundings
import Mode2.Proofs.Node.OpenFiles
import Mode2.Proofs.Exchange.Forwarding
import Mode2.Proofs.Exchange.Overlooking
import Mode2.Proofs.Exchange.CountedBytes
import Mode2.Proofs.File.Contents
import Mode2.Proofs.Query.Slices
import Mode2.Proofs.Query.Scoring
import Mode2.Proofs.Agreement
import Mode2.Proofs.Exchange.SameFrame
import Mode2.Proofs.Exchange.Persistence
import Mode2.Proofs.ChannelAccess.Halving
import Mode2.Proofs.Query.Decoding
import Mode2.Proofs.Query.Returns
import Mode2.Proofs.ChannelAccess.ConstantPauses
import Mode2.Proofs.ChannelAccess.Shuffling
import Mode2.Proofs.ChannelAccess.FirstPauses
import Mode2.Proofs.Exchange.ChannelPosition
import Mode2.Proofs.Node.Sequences
import Mode2.Proofs.Node.AirTime
import Mode2.Proofs.Node.Rearming
import Mode2.Proofs.Exchange.RequestedAccess
import Mode2.Proofs.Node.ResponseSchedule
import Mode2.Proofs.ChannelAccess.ChannelOrder
import Mode2.Proofs.Node.ChannelRounds
import Mode2.Proofs.Exchange.BeaconFrame
import Mode2.Proofs.Exchange.BeaconReception
import Mode2.Proofs.Node.Beacons
import Mode2.Proofs.Config.Blob
import Mode2.Proofs.Time.ShortestWindow
import Mode2.Proofs.Json.Scanning
import Mode2.Proofs.Config.Document
import Mode2.Proofs.Config.Storage
import Mode2.Proofs.Network.Headroom
import Mode2.Proofs.Exchange.ResponseRoom
import Mode2.Proofs.Node.Watchdog
