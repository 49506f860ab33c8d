import MakeHost.Host.Dispatch

/-!
# The host as text

What is shown of a host, of its exported functions and of buffers, for people who look for a fault.
-/

namespace MakeHost

/-- The name of a policy as it is shown. -/
def Policy.shown : Policy → Text
  | expand => "ExpandArgs"
  | verbatim => "VerbatimArgs"

/-- An exported function. -/
def Exported.shown {κ : Type} (f : Exported κ) : Text :=
  "RegisteredFunction \x7b name: " ++ f.name.text.quoted ++ ", arity: Arity \x7b min: " ++
    Text.ofNat f.arity.min ++ ", max: " ++ Text.ofNat f.arity.rawMax ++ " \x7d, policy: " ++
    f.policy.shown ++ ", .. \x7d"

/-- An entry of the exported functions. -/
def Exported.shownEntry {κ : Type} (entry : Text × Exported κ) : Text :=
  entry.1.quoted ++ ": " ++ entry.2.shown

/-- The names of the variables of a host. -/
def HostOptions.shown (options : HostOptions) : Text :=
  "BridgeOptions \x7b error_variable: " ++ options.errorVariable.quoted ++
    ", traceback_variable: " ++ options.tracebackVariable.quoted ++
    ", fatal_errors_variable: " ++ options.fatalErrorsVariable.quoted ++ " \x7d"

/-- A host with its exported functions. -/
def HostOptions.shownHost {κ μ : Type} (options : HostOptions) : Action κ μ Text := do
  let exports ← Action.exports
  return "Bridge \x7b registry: RefCell \x7b value: Registry \x7b functions: \x7b" ++
    Text.join ", " (exports.entries.map Exported.shownEntry) ++ "\x7d \x7d \x7d, options: " ++
    options.shown ++ ", .. \x7d"

/-- A buffer. -/
def Buffer.shown (buffer : Buffer) : Text := "EngineBuffer(" ++ buffer.content.quoted ++ ")"

end MakeHost
