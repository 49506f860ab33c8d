import MakeHost.Number.Integer
import MakeHost.Text.Quoted

/-!
# Errors

An `ExportError` is a function that make would not accept, a `HostError` a request of the host
that cannot be made or understood, and a `Failure` what a call of an exported function reports.
The first two become failures with their own kind; nothing else of them is lost but their type.
-/

namespace MakeHost

/-- Why a function cannot be exported. -/
inductive ExportError
  | emptyName
  | nameTooLong (bytes : Nat)
  | illegalNameChar (name : Text) (c : Char)
  | negativeArgs (min max : Int)
  | tooManyArgs (min max : Int)
  | maxLessThanMin (min max : Int)
  | minArgsZero
  | noParameters
  | unknownSignature
deriving DecidableEq

namespace ExportError

/-- Two bounds as the messages name them. -/
def bounds (min max : Int) : Text :=
  "(min_args=" ++ Text.ofInt min ++ ", max_args=" ++ Text.ofInt max ++ ")"

/-- The wording of an export error. -/
def message : ExportError → Text
  | emptyName => "function name must not be empty"
  | nameTooLong bytes =>
    "function name is " ++ Text.ofNat bytes ++ " bytes long, at most 255 are allowed"
  | illegalNameChar name c =>
    "function name " ++ name.quoted ++ " contains illegal character " ++ Text.quotedChar c
  | negativeArgs min max => "negative argument count " ++ bounds min max
  | tooManyArgs min max =>
    "too many arguments " ++ bounds min max ++ ", at most 255 are allowed"
  | maxLessThanMin min max =>
    "max_args (" ++ Text.ofInt max ++ ") is less than min_args (" ++ Text.ofInt min ++ ")"
  | minArgsZero => "min_args must be at least 1"
  | noParameters => "function must take at least one parameter"
  | unknownSignature => "argument counts were not given and the signature is unknown"

end ExportError

/-- A text holds a NUL at this byte position, so make cannot be given it. -/
structure NulFault where
  position : Nat
deriving DecidableEq

/-- The wording of a NUL fault. -/
def NulFault.message (fault : NulFault) : Text :=
  "nul byte found in provided data at position: " ++ Text.ofNat fault.position

/-- Why a request of the host fails. -/
inductive HostError
  | interiorNul (fault : NulFault)
  | invalidUtf8 (fault : Utf8.Fault)
  | illegalVariableName (name : Text)
  | invalidFlavor
  | unexpectedFlavor (word : Text)
  | unexpectedOrigin (word : Text)
  | refused (cause : ExportError)
deriving DecidableEq

namespace HostError

/-- The wording of a host error. -/
def message : HostError → Text
  | interiorNul _ => "text passed to make contains a NUL byte"
  | invalidUtf8 _ => "make returned text that is not valid UTF-8"
  | illegalVariableName name => "illegal variable name " ++ name.quoted
  | invalidFlavor => "valid flavors are 'recursive' and 'simple'"
  | unexpectedFlavor word => "make reported unknown flavor " ++ word.quoted
  | unexpectedOrigin word => "make reported unknown origin " ++ word.quoted
  | refused cause => cause.message

/-- The wording of the fault behind a host error. -/
def cause? : HostError → Option Text
  | interiorNul fault => some fault.message
  | invalidUtf8 fault => some fault.message
  | _ => none

end HostError

/-- What a failed call reports: a kind, a message, and detail for a trace. -/
structure Failure where
  kind : Text
  message : Text
  trace : Option Text
deriving DecidableEq

namespace Failure

/-- A failure without a trace. -/
def of (kind message : Text) : Failure := ⟨kind, message, none⟩

/-- The form in which make reads a failure. -/
def text (failure : Failure) : Text := failure.kind ++ ": " ++ failure.message

/-- An argument was there but of no use. -/
def value (message : Text) : Failure := of "ValueError" message

/-- The failure that stands for a panic; a payload that is no text is not shown. -/
def panicked (payload : Option Text) : Failure :=
  of "Panic" (payload.getD "exported function panicked")

/-- The failure that stands for a refused export. -/
def ofExport (cause : ExportError) : Failure := of "RegistrationError" cause.message

/-- The failure that stands for a host error; the fault behind it is the trace. -/
def ofHost (cause : HostError) : Failure where
  kind := "BridgeError"
  message := cause.message
  trace := cause.cause?.map fun fault => "caused by: " ++ fault ++ "\n"

/-- The failure that stands for a text that is no whole number. -/
def ofInteger (fault : IntegerType.Fault) : Failure := of "ParseIntError" fault.message

/-- The failure that stands for bytes that are no text. -/
def ofUtf8 (fault : Utf8.Fault) : Failure := of "Utf8Error" fault.message

end Failure

end MakeHost
