import BoundedLog.Cursor
import BoundedLog.Server.Listener
import BoundedLog.Server.Settled
import BoundedLog.Settings.Verbosity
import BoundedLog.Sync.Permits
import BoundedLog.Sync.StopFlag
import BoundedLog.Proofs.Window
import BoundedLog.Proofs.Window.History
import BoundedLog.Proofs.Window.Locate
import BoundedLog.Proofs.Cursor.Reading
import BoundedLog.Proofs.SharedLog
import BoundedLog.Proofs.Writers
import BoundedLog.Proofs.Cursor.Stream
import BoundedLog.Proofs.Lines
import BoundedLog.Proofs.Chunks
import BoundedLog.Proofs.Files.Path
import BoundedLog.Proofs.Files.Place
import BoundedLog.Proofs.Files.Tree
import BoundedLog.Proofs.Files.Disk
import BoundedLog.Proofs.Files.Replace
import BoundedLog.Proofs.Files.Atomic
import BoundedLog.Proofs.Files.Leftover
import BoundedLog.Proofs.Replica
import BoundedLog.Proofs.Independence
import BoundedLog.Proofs.Text.Decimal
import BoundedLog.Proofs.Session.Directive
import BoundedLog.Proofs.Session.Reading
import BoundedLog.Proofs.Session.Dialogue
import BoundedLog.Proofs.Session.Conversation
import BoundedLog.Proofs.Session.SeekReply
import BoundedLog.Proofs.Session.Fragments
import BoundedLog.Proofs.Session.AllOrNothing
import BoundedLog.Proofs.Session.Rerun
import BoundedLog.Proofs.Session.Stopping
import BoundedLog.Proofs.Server.Change
import BoundedLog.Proofs.Server.Service
import BoundedLog.Proofs.Server.Attention
import BoundedLog.Proofs.Server.Drain
import BoundedLog.Proofs.Server.History
import BoundedLog.Proofs.Server.Effect
import BoundedLog.Proofs.TimeMark
import BoundedLog.Proofs.Server.Sound
import BoundedLog.Proofs.Server.Account
import BoundedLog.Proofs.Server.Pulse
import BoundedLog.Proofs.Server.LineLog
import BoundedLog.Proofs.Server.Replies
import BoundedLog.Proofs.Server.Shutdown
import BoundedLog.Proofs.Closing
import BoundedLog.Proofs.Removal
import BoundedLog.Proofs.Session.Timeouts
import BoundedLog.Proofs.Server.Muster
import BoundedLog.Proofs.Server.Roster
import BoundedLog.Proofs.Cursor.Seeking
import BoundedLog.Proofs.Server.Listener
import BoundedLog.Proofs.Settings
import BoundedLog.Proofs.Sync.Permits
import BoundedLog.Proofs.Sync.Books
import BoundedLog.Proofs.Window.Circle
import BoundedLog.Proofs.Sync.StopFlag
import BoundedLog.Proofs.Sync.StopRuns
