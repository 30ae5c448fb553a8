import NativeCall.A64.Encoding
import NativeCall.A64.Instr
import NativeCall.A64.Operand
import NativeCall.Arch
import NativeCall.Arena
import NativeCall.Bench
import NativeCall.CallSite
import NativeCall.Capabilities
import NativeCall.ErrorState
import NativeCall.Event
import NativeCall.Fault
import NativeCall.FloatWord
import NativeCall.Frame
import NativeCall.HostType
import NativeCall.HostValue
import NativeCall.Invoker
import NativeCall.Linker
import NativeCall.Log.Config
import NativeCall.Log.Directive
import NativeCall.Log.FieldMatch
import NativeCall.Log.Filter
import NativeCall.Log.Level
import NativeCall.Log.Logger
import NativeCall.Log.Record
import NativeCall.Log.Span
import NativeCall.NativeFunction
import NativeCall.NativeType
import NativeCall.Pages
import NativeCall.Pattern.Branches
import NativeCall.Pattern.CharSet
import NativeCall.Pattern.Mode
import NativeCall.Pattern.Part
import NativeCall.Probe
import NativeCall.Process
import NativeCall.Proofs.A64.Decoder
import NativeCall.Proofs.A64.Disassembly
import NativeCall.Proofs.A64.Execution
import NativeCall.Proofs.A64.Fields
import NativeCall.Proofs.A64.Layout
import NativeCall.Proofs.A64.Machine
import NativeCall.Proofs.A64.Offsets
import NativeCall.Proofs.A64.Relocation
import NativeCall.Proofs.A64.RoundTrip
import NativeCall.Proofs.A64.Trace
import NativeCall.Proofs.Aarch64.Arguments
import NativeCall.Proofs.Aarch64.Code
import NativeCall.Proofs.Aarch64.Convention
import NativeCall.Proofs.Aarch64.Course
import NativeCall.Proofs.Aarch64.EndToEnd
import NativeCall.Proofs.Aarch64.Frame
import NativeCall.Proofs.Aarch64.Relocation
import NativeCall.Proofs.Aarch64.Results
import NativeCall.Proofs.Allocation
import NativeCall.Proofs.Amd64.Arguments
import NativeCall.Proofs.Amd64.Code
import NativeCall.Proofs.Amd64.Convention
import NativeCall.Proofs.Amd64.Course
import NativeCall.Proofs.Amd64.EndToEnd
import NativeCall.Proofs.Amd64.Frame
import NativeCall.Proofs.Amd64.Relocation
import NativeCall.Proofs.Amd64.Results
import NativeCall.Proofs.Arena
import NativeCall.Proofs.Attachment
import NativeCall.Proofs.Bench
import NativeCall.Proofs.Bits
import NativeCall.Proofs.BufferPath
import NativeCall.Proofs.Bytes
import NativeCall.Proofs.Capture
import NativeCall.Proofs.CapturedError
import NativeCall.Proofs.CodeLifetime
import NativeCall.Proofs.Compilation
import NativeCall.Proofs.CompiledCourse
import NativeCall.Proofs.Course
import NativeCall.Proofs.Declaration
import NativeCall.Proofs.DeclaredTypes
import NativeCall.Proofs.Disassembly
import NativeCall.Proofs.EagerRegistry
import NativeCall.Proofs.Entries
import NativeCall.Proofs.Execution
import NativeCall.Proofs.Extension
import NativeCall.Proofs.GenericCalls
import NativeCall.Proofs.HostForm
import NativeCall.Proofs.I386.Arguments
import NativeCall.Proofs.I386.Code
import NativeCall.Proofs.I386.Convention
import NativeCall.Proofs.I386.Course
import NativeCall.Proofs.I386.EndToEnd
import NativeCall.Proofs.I386.Frame
import NativeCall.Proofs.I386.Offsets
import NativeCall.Proofs.I386.Relocation
import NativeCall.Proofs.I386.Results
import NativeCall.Proofs.Invocation
import NativeCall.Proofs.Ledger
import NativeCall.Proofs.LinkErrors
import NativeCall.Proofs.Linkage
import NativeCall.Proofs.Linker
import NativeCall.Proofs.Memory
import NativeCall.Proofs.Outcome
import NativeCall.Proofs.Pages
import NativeCall.Proofs.Parametricity
import NativeCall.Proofs.Placement
import NativeCall.Proofs.Preference
import NativeCall.Proofs.Registry
import NativeCall.Proofs.Relative
import NativeCall.Proofs.Relocatable
import NativeCall.Proofs.Relocation
import NativeCall.Proofs.Request
import NativeCall.Proofs.Retry
import NativeCall.Proofs.Room
import NativeCall.Proofs.Run
import NativeCall.Proofs.Selection
import NativeCall.Proofs.Signature
import NativeCall.Proofs.Soundness
import NativeCall.Proofs.StackDiscipline
import NativeCall.Proofs.Survey
import NativeCall.Proofs.Template
import NativeCall.Proofs.Trace
import NativeCall.Proofs.X86.Course
import NativeCall.Proofs.X86.Decoder
import NativeCall.Proofs.X86.Disassembly
import NativeCall.Proofs.X86.Execution
import NativeCall.Proofs.X86.Extended
import NativeCall.Proofs.X86.Frame
import NativeCall.Proofs.X86.Machine
import NativeCall.Proofs.X86.NarrowCode
import NativeCall.Proofs.X86.Relocation
import NativeCall.Proofs.X86.RoundTrip
import NativeCall.Proofs.X86.Stack
import NativeCall.Proofs.X86.Trace
import NativeCall.Registry
import NativeCall.Selector
import NativeCall.Session
import NativeCall.Settings
import NativeCall.Settings.File
import NativeCall.Settings.Flag
import NativeCall.Signature
import NativeCall.Slot
import NativeCall.Step
import NativeCall.Strategy
import NativeCall.Text.Alphanumeric
import NativeCall.Text.Blank
import NativeCall.Text.ByteOffset
import NativeCall.Text.Decimal
import NativeCall.Text.Hex
import NativeCall.Text.Quoted
import NativeCall.Text.Ranges
import NativeCall.Text.Shapeless
import NativeCall.Toml.Document
import NativeCall.Toml.Number
import NativeCall.Toml.Parser
import NativeCall.Toml.Table
import NativeCall.Toml.Text
import NativeCall.Toml.Time
import NativeCall.Trampoline
import NativeCall.Trampoline.Aarch64
import NativeCall.Trampoline.Amd64
import NativeCall.Trampoline.I386
import NativeCall.ValueClass
import NativeCall.Word
import NativeCall.X86.Encoding
import NativeCall.X86.Instr
import NativeCall.X86.Operand
