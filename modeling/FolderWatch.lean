import FolderWatch.Change.Named
import FolderWatch.Command.Outcome
import FolderWatch.Consumer
import FolderWatch.Handle
import FolderWatch.Main
import FolderWatch.Monitor.Run
import FolderWatch.Output.Printer
import FolderWatch.Record.Draft
import FolderWatch.Source.Bench
import FolderWatch.Proofs.Record.Chain
import FolderWatch.Proofs.Text.Utf16
import FolderWatch.Proofs.Record.Layout
import FolderWatch.Proofs.Record.RoundTrip
import FolderWatch.Proofs.Monitor.Lane
import FolderWatch.Proofs.Session
import FolderWatch.Proofs.Table
import FolderWatch.Proofs.Monitor.Sound
import FolderWatch.Proofs.Monitor.Visit
import FolderWatch.Proofs.Monitor.Tick
import FolderWatch.Proofs.Monitor.History
import FolderWatch.Proofs.Monitor.Delivery
import FolderWatch.Proofs.Monitor.Unwound
import FolderWatch.Proofs.Monitor.Resources
import FolderWatch.Proofs.Monitor.FailedReset
import FolderWatch.Proofs.Record.Place
import FolderWatch.Proofs.Record.Cursor
import FolderWatch.Proofs.Monitor.Accounts
import FolderWatch.Proofs.Monitor.Apart
import FolderWatch.Proofs.Path
import FolderWatch.Proofs.Exclude.Shape
import FolderWatch.Proofs.Exclude.Seen
import FolderWatch.Proofs.Monitor.Healing
import FolderWatch.Proofs.Monitor.Stop
import FolderWatch.Proofs.Monitor.Balance
import FolderWatch.Proofs.Monitor.Struck
import FolderWatch.Proofs.Text.Surrogate
import FolderWatch.Proofs.Record.Cut
import FolderWatch.Proofs.Record.Name
import FolderWatch.Proofs.Session.Contract
import FolderWatch.Proofs.Exclude.Added
import FolderWatch.Proofs.Exclude.Names
import FolderWatch.Proofs.Exclude.Below
import FolderWatch.Proofs.Monitor.Told
import FolderWatch.Proofs.Output.Limited
import FolderWatch.Proofs.Settings.Merged
import FolderWatch.Proofs.Change.Ordered
import FolderWatch.Proofs.Folder
import FolderWatch.Proofs.Handle
import FolderWatch.Proofs.Settings.Written
