import Padlock.Library.KeyValueLog
import Padlock.Library.Lines
import Padlock.Library.LittleEndian
import Padlock.Library.Machine
import Padlock.Library.Numeral
import Padlock.Library.Program
import Padlock.Library.SlotTable
import Padlock.Library.Span
import Padlock.Library.Watcher
import Padlock.Store.Format
import Padlock.Store.Stdio
import Padlock.Store.Secret
import Padlock.Store.StandIn
import Padlock.Store.Set
import Padlock.Store.Get
import Padlock.Store.Record
import Padlock.Store.Parser
import Padlock.Store.Lookup
import Padlock.Store.Append
import Padlock.Store.Layout
import Padlock.Store.Allocate
import Padlock.Store.Allocated
import Padlock.Store.Reader
import Padlock.Store.Log
import Padlock.Store.Reference
import Padlock.Store.AppendOnly
import Padlock.Store.Crash
import Padlock.Store.Concurrent
import Padlock.Store.Copies
import Padlock.Store.Race
import Padlock.Store.Holdings
import Padlock.Store.Publishing
import Padlock.Store.Volume
import Padlock.Store.Bounds
import Padlock.Store.Overread
import Padlock.Store.AllOrNothing
import Padlock.Store.Buffered
import Padlock.Store.Codec
import Padlock.Store.Offsets
import Padlock.Store.Wiping
import Padlock.Store.Directories
import Padlock.Store.Filling
import Padlock.Guard.Entry
import Padlock.Guard.Ioctl
import Padlock.Guard.Table
import Padlock.Guard.Registry
import Padlock.Guard.Effect
import Padlock.Guard.Session
import Padlock.Guard.Process
import Padlock.Guard.Refusal
import Padlock.Guard.Lifetime
import Padlock.Cli.Password
import Padlock.Cli.Size
import Padlock.Cli.Installer
import Padlock.Cli.Tool
import Padlock.Cli.Service
import Padlock.Cli.Process
import Padlock.Cli.Secrets
import Padlock.Cli.PamConversation
import Padlock.Cli.Vault
import Padlock.Tpm.SealedKey
import Padlock.Tpm.StandIn
import Padlock.Tpm.OneKey
import Padlock.Tpm.HalfCreated
import Padlock.Tpm.Conversation
import Padlock.Tpm.Handles
import Padlock.Tpm.World
import Padlock.Tpm.HeaderPassword
