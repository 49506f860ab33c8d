import MakeHost.Host.Dispatch
import MakeHost.Make.Machine

/-!
# Make with a host behind it

Make hands the calls of exported functions to the host, whose answer may ask make to evaluate
and expand again.
-/

namespace MakeHost.Host

variable {κ μ : Type}

/-- Answers the calls that make hands out. -/
def responder (host : Host κ μ) : Make.Responder κ μ :=
  fun level name args => Make.perform level (host.respond name args)

/-- Make with a host behind it, within so many steps of nesting. -/
def level (host : Host κ μ) (nesting : Nat) : Make.Level κ μ :=
  Make.levelWithin host.responder nesting

end MakeHost.Host
