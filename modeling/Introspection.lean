import Introspection.Binding.Class
import Introspection.Binding.Model
import Introspection.Binding.Module
import Introspection.Binding.Property
import Introspection.Binding.Signal
import Introspection.Binding.Wrapper
import Introspection.Cli.Arguments
import Introspection.Cli.Browse
import Introspection.Cli.Command
import Introspection.Cli.Flags
import Introspection.Cli.Outline
import Introspection.Cli.Run
import Introspection.Cli.TextField
import Introspection.Failure
import Introspection.Finalize
import Introspection.Guest.Arith
import Introspection.Guest.Check
import Introspection.Guest.Decode
import Introspection.Guest.Exec
import Introspection.Guest.Instance
import Introspection.Guest.Library
import Introspection.Guest.Module
import Introspection.Guest.Search
import Introspection.Guest.Wit
import Introspection.Host.Heap
import Introspection.Host.Library
import Introspection.Host.World
import Introspection.Info.Base
import Introspection.Info.Describe
import Introspection.Info.Views
import Introspection.Invoke.Call
import Introspection.Invoke.Plan
import Introspection.Loaded.Calls
import Introspection.Loaded.State
import Introspection.Main
import Introspection.Marshal.Convert
import Introspection.Marshal.Slot
import Introspection.Native.CLibrary
import Introspection.Native.FloatBits
import Introspection.Native.Kind
import Introspection.Native.Numerals
import Introspection.Native.Process
import Introspection.Native.SharedObject
import Introspection.Powers
import Introspection.Repository.Files
import Introspection.Repository.Store
import Introspection.Repository.Version
import Introspection.Script.Answer
import Introspection.Script.CommandLine
import Introspection.Script.Doc
import Introspection.Script.Dump
import Introspection.Script.Errors
import Introspection.Script.Guest
import Introspection.Script.Host
import Introspection.Script.Json
import Introspection.Script.Listing
import Introspection.Script.Loading
import Introspection.Script.Machine
import Introspection.Script.Modules
import Introspection.Script.Overrides
import Introspection.Script.Probe
import Introspection.Script.Registry
import Introspection.Script.Repo
import Introspection.Script.Session
import Introspection.Script.Spec
import Introspection.Script.System
import Introspection.Script.Values
import Introspection.Script.Versions
import Introspection.Script.Workspace
import Introspection.Script.World
import Introspection.Text.Blank
import Introspection.Text.Decimal
import Introspection.Text.Hex
import Introspection.Text.Numeral
import Introspection.Text.Quote
import Introspection.Text.Utf8
import Introspection.Text.Width
import Introspection.Text.Yaml
import Introspection.Typelib.Build
import Introspection.Typelib.Constant
import Introspection.Typelib.Emit
import Introspection.Typelib.Format
import Introspection.Typelib.Image
import Introspection.Typelib.Load
import Introspection.Typelib.Members
import Introspection.Typelib.Spec
import Introspection.Value
import Introspection.Value.Numbers
import Introspection.Value.Printf
import Introspection.Proofs.Image.Bytes
import Introspection.Proofs.Image.Emission
import Introspection.Proofs.Image.Blobs
import Introspection.Proofs.Image.Qualified
import Introspection.Proofs.Image.Entries
import Introspection.Proofs.Image.Body
import Introspection.Proofs.Image.Strings
import Introspection.Proofs.Image.Header
import Introspection.Proofs.Host.Tiling
import Introspection.Proofs.Host.HeapInvariant
import Introspection.Proofs.Repository.VersionChoice
import Introspection.Proofs.Repository.Require
import Introspection.Proofs.Repository.Rollback
import Introspection.Proofs.Image.Validation
import Introspection.Proofs.Image.AttributeTable
import Introspection.Proofs.Image.DirectoryLookup
import Introspection.Proofs.Image.Tail
import Introspection.Proofs.Image.Acceptance
import Introspection.Proofs.Finalize.Lifecycle
import Introspection.Proofs.Invoke.Frame
import Introspection.Proofs.Binding.FieldLookup
import Introspection.Proofs.Binding.HierarchyWalk
import Introspection.Proofs.Marshal.Lifetimes
import Introspection.Proofs.Host.CallbackPool
import Introspection.Proofs.Binding.Registration
import Introspection.Proofs.Binding.OverrideRegistry
import Introspection.Proofs.Marshal.ScalarEncoding
import Introspection.Proofs.Marshal.Scalars
import Introspection.Proofs.Marshal.Enums
import Introspection.Proofs.Marshal.ResultScopes
import Introspection.Proofs.Marshal.CallbackRuns
import Introspection.Proofs.Marshal.ByteAccess
import Introspection.Proofs.Marshal.ByteArrays
import Introspection.Proofs.Binding.RuntimeClass
import Introspection.Proofs.Marshal.ArrayStorage
import Introspection.Proofs.Info.TypeRendering
import Introspection.Proofs.Binding.HierarchyOrder
import Introspection.Proofs.Binding.MethodResolution
import Introspection.Proofs.Binding.Flags
import Introspection.Proofs.Cli.ArgumentCount
import Introspection.Proofs.Layout.Natural
import Introspection.Proofs.Layout.Computed
import Introspection.Proofs.Layout.Frame
import Introspection.Proofs.Layout.Written
import Introspection.Proofs.Layout.ReadBack
import Introspection.Proofs.Info.FieldTypes
import Introspection.Proofs.Cli.ShellWords
import Introspection.Proofs.Marshal.StringCopies
import Introspection.Proofs.Script.TypedAdapter
