import MakeHost.Process
import MakeHost.Proofs.Appending
import MakeHost.Proofs.ArgumentCount
import MakeHost.Proofs.BareExpansion
import MakeHost.Proofs.Buffers
import MakeHost.Proofs.CallSyntax
import MakeHost.Proofs.Captures
import MakeHost.Proofs.CaseTables
import MakeHost.Proofs.Concatenation
import MakeHost.Proofs.Delivery
import MakeHost.Proofs.ErrorLayers
import MakeHost.Proofs.ErrorVariable
import MakeHost.Proofs.Evolution
import MakeHost.Proofs.Exports
import MakeHost.Proofs.Facade
import MakeHost.Proofs.FatalErrors
import MakeHost.Proofs.Guarded
import MakeHost.Proofs.IntegerLiterals
import MakeHost.Proofs.IntegerOptions
import MakeHost.Proofs.Interchange
import MakeHost.Proofs.Interruption
import MakeHost.Proofs.KeptReferences
import MakeHost.Proofs.LifeCycle
import MakeHost.Proofs.Literal
import MakeHost.Proofs.LocalErrors
import MakeHost.Proofs.Logged
import MakeHost.Proofs.ModuleFrame
import MakeHost.Proofs.OptionLists
import MakeHost.Proofs.OuterCommas
import MakeHost.Proofs.Ownership
import MakeHost.Proofs.Packages
import MakeHost.Proofs.Parameters
import MakeHost.Proofs.Parts
import MakeHost.Proofs.Printing
import MakeHost.Proofs.Reachable
import MakeHost.Proofs.Recording
import MakeHost.Proofs.Registry
import MakeHost.Proofs.Rejoining
import MakeHost.Proofs.Requests
import MakeHost.Proofs.ReturnedValues
import MakeHost.Proofs.Run
import MakeHost.Proofs.Scripts
import MakeHost.Proofs.Sequencing
import MakeHost.Proofs.Setup
import MakeHost.Proofs.Shadowing
import MakeHost.Proofs.SharedNames
import MakeHost.Proofs.Spellings
import MakeHost.Proofs.Splice
import MakeHost.Proofs.Splitting
import MakeHost.Proofs.StructNames
import MakeHost.Proofs.TabStops
import MakeHost.Proofs.Table
import MakeHost.Proofs.Termination
import MakeHost.Proofs.TitleCase
import MakeHost.Proofs.Undefine
import MakeHost.Proofs.Uses
import MakeHost.Proofs.VariableRequests
import MakeHost.Proofs.VariableStore
import MakeHost.Proofs.VariableTable
import MakeHost.Proofs.WholeNumbers
import MakeHost.Proofs.Windows
import MakeHost.Proofs.WordRuns
import MakeHost.Scalar
import MakeHost.Session
import MakeHost.Transcript
import MakeHost.Wrapper.Package
