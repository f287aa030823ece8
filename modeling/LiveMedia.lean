import LiveMedia.Avc.Sps
import LiveMedia.Bits.Writer
import LiveMedia.Nal.Reframe
import LiveMedia.Provider.Describe
import LiveMedia.Provider.Receive
import LiveMedia.Proofs.Track.Release
import LiveMedia.Proofs.Track.Run
import LiveMedia.Proofs.Track.Order
import LiveMedia.Proofs.Feed.Consume
import LiveMedia.Proofs.Outcome
import LiveMedia.Proofs.Track.Normalize
import LiveMedia.Proofs.Stream.History
import LiveMedia.Proofs.Provider.Rewiring
import LiveMedia.Proofs.Provider.Removal
import LiveMedia.Proofs.Provider.Creation
import LiveMedia.Proofs.Provider.Bindings
import LiveMedia.Proofs.Nal.Layout
import LiveMedia.Proofs.Nal.Scan
import LiveMedia.Proofs.BigEndian
import LiveMedia.Proofs.Nal.Emulation
import LiveMedia.Proofs.Nal.LengthPrefix
import LiveMedia.Proofs.Nal.RoundTrip
import LiveMedia.Proofs.Bits.Packing
import LiveMedia.Proofs.Bits.Source
import LiveMedia.Proofs.Bits.Cursor
import LiveMedia.Proofs.Bits.Rbsp
import LiveMedia.Proofs.Avc.SpsSyntax
import LiveMedia.Proofs.Avc.PictureSize
import LiveMedia.Proofs.Aac.Adts
import LiveMedia.Proofs.Aac.Converter
import LiveMedia.Proofs.Aac.AudioConfig
import LiveMedia.Proofs.Track.Unconfigured
import LiveMedia.Proofs.Provider.Delivery
import LiveMedia.Proofs.Nal.Consistent
import LiveMedia.Proofs.Nal.AccessUnit
import LiveMedia.Proofs.Track.Emission
import LiveMedia.Proofs.Track.Idempotence
import LiveMedia.Proofs.Feed.Signal
import LiveMedia.Proofs.Feed.Exchange
import LiveMedia.Proofs.Feed.Ending
import LiveMedia.Proofs.Provider.SignsOfLife
import LiveMedia.Proofs.Provider.Sweeps
import LiveMedia.Proofs.Provider.Clock
import LiveMedia.Proofs.Provider.Deadline
import LiveMedia.Proofs.Record
import LiveMedia.Proofs.Track.Configuration
import LiveMedia.Proofs.Bits.Writer
import LiveMedia.Proofs.Table
import LiveMedia.Proofs.Provider.Refusals
import LiveMedia.Proofs.Stream.Accounts
import LiveMedia.Proofs.Provider.Books
import LiveMedia.Proofs.Provider.Accounts
import LiveMedia.Proofs.Aac.FrameRuns
import LiveMedia.Proofs.Avc.SpsReads
import LiveMedia.Proofs.Avc.SpsWritten
import LiveMedia.Proofs.Bits.Words
import LiveMedia.Proofs.Avc.SpsWords
import LiveMedia.Proofs.Avc.SpsOverflow
import LiveMedia.Proofs.RecordLayout
import LiveMedia.Proofs.Track.LengthPrefixed
import LiveMedia.Proofs.Nal.CheckedIndex
import LiveMedia.Proofs.Nal.Splice
import LiveMedia.Proofs.Reframe
import LiveMedia.Proofs.Provider.Reachable
import LiveMedia.Proofs.Provider.Registry
import LiveMedia.Proofs.Provider.Departures
import LiveMedia.Proofs.Provider.Reaping
import LiveMedia.Proofs.Provider.SweepOrder
import LiveMedia.Proofs.Provider.Eviction
import LiveMedia.Proofs.RecordReads
import LiveMedia.Proofs.Aac.ConfigWritten
import LiveMedia.Proofs.Nal.UnitReader
import LiveMedia.Bits.OctetCursor
import LiveMedia.Proofs.Bits.OctetCursor
import LiveMedia.Proofs.Timebase
import LiveMedia.Proofs.Track.Heads
