import AccountRegistry.Main
import AccountRegistry.Store.Scripted
import AccountRegistry.Store.Sequence
import AccountRegistry.Proofs.Except
import AccountRegistry.Proofs.Dialogue
import AccountRegistry.Proofs.Interleaving
import AccountRegistry.Proofs.Files
import AccountRegistry.Proofs.Date
import AccountRegistry.Proofs.Text.Hex
import AccountRegistry.Proofs.Json.Text
import AccountRegistry.Proofs.User.Draft
import AccountRegistry.Proofs.User.Layout
import AccountRegistry.Proofs.User.Json
import AccountRegistry.Proofs.Store.MemoryStore
import AccountRegistry.Proofs.Store.Registration
import AccountRegistry.Proofs.Store.Clients
import AccountRegistry.Proofs.Store.LostIds
import AccountRegistry.Proofs.Store.SqliteTable
import AccountRegistry.Proofs.Store.SqliteStore
import AccountRegistry.Proofs.Store.SqliteRows
import AccountRegistry.Proofs.Store.SqliteCalls
import AccountRegistry.Proofs.Store.Mirror
import AccountRegistry.Proofs.Store.Agreement
import AccountRegistry.Proofs.Store.FileStore
import AccountRegistry.Proofs.Store.TableFile
import AccountRegistry.Proofs.Store.NamedRows
import AccountRegistry.Proofs.Store.VolatilePools
import AccountRegistry.Proofs.Store.Reopening
import AccountRegistry.Proofs.Store.Schemes
import AccountRegistry.Proofs.Store.TracedStore
import AccountRegistry.Proofs.Store.Segments
import AccountRegistry.Proofs.Store.EventLog
import AccountRegistry.Proofs.CommandLine.Program
import AccountRegistry.Proofs.CommandLine.HiddenUrl
import AccountRegistry.Proofs.CommandLine.Lookup
import AccountRegistry.Proofs.CommandLine.SettingsInEffect
import AccountRegistry.Proofs.Service
import AccountRegistry.Proofs.Candidates
import AccountRegistry.Proofs.Duration
import AccountRegistry.Proofs.Generator
import AccountRegistry.Proofs.Store.Undisturbed
import AccountRegistry.Proofs.Store.Rivals
import AccountRegistry.Proofs.Text.Search
import AccountRegistry.Proofs.Text.Utf8
import AccountRegistry.Proofs.Text.Percent
import AccountRegistry.Proofs.Store.KeyNames
import AccountRegistry.Proofs.Store.MemoryUris
import AccountRegistry.Proofs.Store.SqlRegistration
import AccountRegistry.Proofs.Store.MySqlReplies
import AccountRegistry.Proofs.Json.Strings
import AccountRegistry.Proofs.Json.Grammar
import AccountRegistry.Proofs.User.Objects
import AccountRegistry.Proofs.User.Decoding
import AccountRegistry.Proofs.User.Profile
import AccountRegistry.Proofs.Json.Soundness
import AccountRegistry.Proofs.User.Values
import AccountRegistry.Proofs.Text.Numeral
import AccountRegistry.Proofs.AccountId
import AccountRegistry.Proofs.Number.Binary64
import AccountRegistry.Proofs.Toml.IntegerWord
import AccountRegistry.Proofs.Toml.Written
import AccountRegistry.Proofs.Settings.Sources
import AccountRegistry.Proofs.Settings.Groups
import AccountRegistry.Proofs.Settings.DecimalText
import AccountRegistry.Proofs.Settings.Numbers
import AccountRegistry.Proofs.Settings.Layers
