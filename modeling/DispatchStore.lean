import DispatchStore.Dispatch
import DispatchStore.Host.Command
import DispatchStore.Json.Keyed
import DispatchStore.Main
import DispatchStore.Store.Overrides
import DispatchStore.Time.Lenient
import DispatchStore.Time.Strict
import DispatchStore.Proofs.Except
import DispatchStore.Proofs.Database.Tables
import DispatchStore.Proofs.Database.Found
import DispatchStore.Proofs.Database.Frame
import DispatchStore.Proofs.Database.Proper
import DispatchStore.Proofs.Database.Rows
import DispatchStore.Proofs.Database.Listing
import DispatchStore.Proofs.Database.Writes
import DispatchStore.Proofs.Table.Alike
import DispatchStore.Proofs.Table.Keyed
import DispatchStore.Proofs.Table.Content
import DispatchStore.Proofs.Schema.Shape
import DispatchStore.Proofs.Ledger.Reading
import DispatchStore.Proofs.Ledger.Writing
import DispatchStore.Proofs.Schema.Progress
import DispatchStore.Proofs.Store.Opened
import DispatchStore.Proofs.Schema.Pass
import DispatchStore.Proofs.Schema.Resumption
import DispatchStore.Proofs.Schema.History
import DispatchStore.Proofs.Schema.Validation
import DispatchStore.Proofs.Schema.Difference
import DispatchStore.Proofs.Schema.Verified
import DispatchStore.Proofs.Schema.Comparison
import DispatchStore.Proofs.Schema.Creation
import DispatchStore.Proofs.Schema.BuiltIn
import DispatchStore.Proofs.Schema.StrictStart
import DispatchStore.Proofs.Store.Events
import DispatchStore.Proofs.Store.Attuned
import DispatchStore.Proofs.Store.Records
import DispatchStore.Proofs.Store.Effects
import DispatchStore.Proofs.Store.Health
import DispatchStore.Proofs.Store.Contents
import DispatchStore.Proofs.Store.Usable
import DispatchStore.Proofs.Store.OverrideMap
import DispatchStore.Proofs.Store.DecisionMap
import DispatchStore.Proofs.Store.EventMap
import DispatchStore.Proofs.Table.Lookup
import DispatchStore.Proofs.Dispatch.Outcome
import DispatchStore.Proofs.Dispatch.AtMostOnce
import DispatchStore.Proofs.Store.UpToDate
import DispatchStore.Proofs.Dispatch.Alike
import DispatchStore.Proofs.Text.Utf8
import DispatchStore.Proofs.Text.ByteOrder
import DispatchStore.Proofs.Time.TextOrder
import DispatchStore.Proofs.Time.Rereading
import DispatchStore.Proofs.Json.Literals
import DispatchStore.Proofs.Json.RoundTrip
import DispatchStore.Proofs.Text.Trim
import DispatchStore.Proofs.Config.Grammar
import DispatchStore.Proofs.Json.Decoding
import DispatchStore.Proofs.Json.Accepted
import DispatchStore.Proofs.Json.Embedding
import DispatchStore.Proofs.Json.Equality
import DispatchStore.Proofs.Json.DecisionText
import DispatchStore.Proofs.Json.EventText
import DispatchStore.Proofs.Time.FullText
import DispatchStore.Proofs.Dispatch.Log
import DispatchStore.Proofs.Store.Listings
import DispatchStore.Proofs.Store.Chronology
import DispatchStore.Proofs.Dispatch.InStep
import DispatchStore.Proofs.Host.Location
import DispatchStore.Proofs.Host.FileTree
import DispatchStore.Proofs.Host.Places
import DispatchStore.Proofs.Host.Session
import DispatchStore.Proofs.Host.Restarts
import DispatchStore.Proofs.Host.Handles
import DispatchStore.Proofs.Host.Openable
import DispatchStore.Proofs.Host.Configured
import DispatchStore.Proofs.Host.Timeout
import DispatchStore.Proofs.Dispatch.Keys
