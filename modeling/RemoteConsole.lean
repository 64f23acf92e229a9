import RemoteConsole.Address
import RemoteConsole.Ban.Book
import RemoteConsole.Ban.Entry
import RemoteConsole.Ban.Flags
import RemoteConsole.Chat.Builtin
import RemoteConsole.Chat.Command
import RemoteConsole.Clock
import RemoteConsole.Dictionary
import RemoteConsole.Event
import RemoteConsole.Fault
import RemoteConsole.Feed.Event
import RemoteConsole.Feed.Fault
import RemoteConsole.Feed.Game
import RemoteConsole.Feed.Log
import RemoteConsole.Feed.Session
import RemoteConsole.Feed.Stores
import RemoteConsole.GameLog.Classify
import RemoteConsole.GameLog.Entry
import RemoteConsole.GameLog.Tag
import RemoteConsole.Host.Hub
import RemoteConsole.Host.Observer
import RemoteConsole.Host.Receive
import RemoteConsole.Host.Scene
import RemoteConsole.Host.State
import RemoteConsole.Host.Summary
import RemoteConsole.Host.Turn
import RemoteConsole.Json
import RemoteConsole.Ladder.Entry
import RemoteConsole.Ladder.Standings
import RemoteConsole.Ladder.Tally
import RemoteConsole.Main
import RemoteConsole.Match.Answer
import RemoteConsole.Match.Apply
import RemoteConsole.Match.Building
import RemoteConsole.Match.Map
import RemoteConsole.Match.Model
import RemoteConsole.Match.Player
import RemoteConsole.Match.Table
import RemoteConsole.Program.Arguments
import RemoteConsole.Program.Disk
import RemoteConsole.Program.Folder
import RemoteConsole.Program.Run
import RemoteConsole.Proofs.Ban.Book
import RemoteConsole.Proofs.Ban.Checking
import RemoteConsole.Proofs.Ban.Exactness
import RemoteConsole.Proofs.Ban.Failing
import RemoteConsole.Proofs.Ban.Filing
import RemoteConsole.Proofs.Ban.Lifting
import RemoteConsole.Proofs.Ban.Marking
import RemoteConsole.Proofs.Ban.Networks
import RemoteConsole.Proofs.Ban.Patching
import RemoteConsole.Proofs.Chat.Routing
import RemoteConsole.Proofs.Dictionary
import RemoteConsole.Proofs.GameLog.Chatting
import RemoteConsole.Proofs.GameLog.Deaths
import RemoteConsole.Proofs.GameLog.Joining
import RemoteConsole.Proofs.GameLog.Lines
import RemoteConsole.Proofs.GameLog.Tags
import RemoteConsole.Proofs.Host.Answers
import RemoteConsole.Proofs.Host.Awaiting
import RemoteConsole.Proofs.Host.Blocks
import RemoteConsole.Proofs.Host.Boundaries
import RemoteConsole.Proofs.Host.Calls
import RemoteConsole.Proofs.Host.Coherence
import RemoteConsole.Proofs.Host.Course
import RemoteConsole.Proofs.Host.Credits
import RemoteConsole.Proofs.Host.Episodes
import RemoteConsole.Proofs.Host.Flushing
import RemoteConsole.Proofs.Host.GivingUp
import RemoteConsole.Proofs.Host.Housekeeping
import RemoteConsole.Proofs.Host.Lagging
import RemoteConsole.Proofs.Host.Lines
import RemoteConsole.Proofs.Host.Quiet
import RemoteConsole.Proofs.Host.Reached
import RemoteConsole.Proofs.Host.Reports
import RemoteConsole.Proofs.Host.Screening
import RemoteConsole.Proofs.Host.Serving
import RemoteConsole.Proofs.Host.Silence
import RemoteConsole.Proofs.Host.Staying
import RemoteConsole.Proofs.Host.Telling
import RemoteConsole.Proofs.Host.Tidings
import RemoteConsole.Proofs.Identities
import RemoteConsole.Proofs.Ladder.Accounts
import RemoteConsole.Proofs.Ladder.Counters
import RemoteConsole.Proofs.Ladder.Crediting
import RemoteConsole.Proofs.Ladder.Failing
import RemoteConsole.Proofs.Ladder.Index
import RemoteConsole.Proofs.Ladder.Merging
import RemoteConsole.Proofs.Ladder.Order
import RemoteConsole.Proofs.Ladder.Reordering
import RemoteConsole.Proofs.Ladder.Restart
import RemoteConsole.Proofs.Ladder.Standings
import RemoteConsole.Proofs.Match.Attendance
import RemoteConsole.Proofs.Match.Backdrop
import RemoteConsole.Proofs.Match.Bystanders
import RemoteConsole.Proofs.Match.Changes
import RemoteConsole.Proofs.Match.Counts
import RemoteConsole.Proofs.Match.Events
import RemoteConsole.Proofs.Match.Ids
import RemoteConsole.Proofs.Match.Lookups
import RemoteConsole.Proofs.Match.Milestones
import RemoteConsole.Proofs.Match.Phases
import RemoteConsole.Proofs.Match.Places
import RemoteConsole.Proofs.Match.Players
import RemoteConsole.Proofs.Match.Reuse
import RemoteConsole.Proofs.Match.Roster
import RemoteConsole.Proofs.Match.Rotation
import RemoteConsole.Proofs.Match.Snapshots
import RemoteConsole.Proofs.Match.Teams
import RemoteConsole.Proofs.Session.Failures
import RemoteConsole.Proofs.Session.Lagging
import RemoteConsole.Proofs.Settings.Sections
import RemoteConsole.Proofs.Settings.Servers
import RemoteConsole.Proofs.Store.Accepting
import RemoteConsole.Proofs.Store.Continuing
import RemoteConsole.Proofs.Store.Damage
import RemoteConsole.Proofs.Store.Evolution
import RemoteConsole.Proofs.Store.Interruption
import RemoteConsole.Proofs.Store.Layout
import RemoteConsole.Proofs.Store.Limits
import RemoteConsole.Proofs.Store.Opening
import RemoteConsole.Proofs.Store.Partition
import RemoteConsole.Proofs.Store.Parts
import RemoteConsole.Proofs.Store.Reading
import RemoteConsole.Proofs.Store.Records
import RemoteConsole.Proofs.Store.Settling
import RemoteConsole.Proofs.Store.Shortage
import RemoteConsole.Proofs.Store.Spacing
import RemoteConsole.Proofs.Store.Upgrade
import RemoteConsole.Proofs.Text.Decoding
import RemoteConsole.Proofs.Text.Hexadecimal
import RemoteConsole.Proofs.Text.Number
import RemoteConsole.Proofs.Text.Pieces
import RemoteConsole.Proofs.Text.Utf8
import RemoteConsole.Proofs.Wire.Cutting
import RemoteConsole.Proofs.Wire.Fields
import RemoteConsole.Proofs.Wire.Framing
import RemoteConsole.Proofs.Wire.Lines
import RemoteConsole.Proofs.Wire.Oversize
import RemoteConsole.Proofs.Wire.Rendering
import RemoteConsole.Proofs.Wire.Requests
import RemoteConsole.Proofs.Wire.Scanning
import RemoteConsole.Saturate
import RemoteConsole.Session.Action
import RemoteConsole.Session.Stage
import RemoteConsole.Session.State
import RemoteConsole.Settings.Host
import RemoteConsole.Settings.Read
import RemoteConsole.Settings.Server
import RemoteConsole.Store.Failure
import RemoteConsole.Store.Reader
import RemoteConsole.Store.Record
import RemoteConsole.Store.RecordFile
import RemoteConsole.Store.Schema
import RemoteConsole.Store.Shelf
import RemoteConsole.Store.Value
import RemoteConsole.Store.Writer
import RemoteConsole.Team
import RemoteConsole.Text.Binary64
import RemoteConsole.Text.Blank
import RemoteConsole.Text.CaseTable
import RemoteConsole.Text.GlyphTable
import RemoteConsole.Text.Letters
import RemoteConsole.Text.LowerCase
import RemoteConsole.Text.Number
import RemoteConsole.Text.Pieces
import RemoteConsole.Text.Quoted
import RemoteConsole.Text.Ranges
import RemoteConsole.Text.Terminal
import RemoteConsole.Text.Utf8
import RemoteConsole.Wire.Banner
import RemoteConsole.Wire.Framer
import RemoteConsole.Wire.Line
import RemoteConsole.Wire.Request
