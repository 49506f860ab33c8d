import MakeHost.Text.Basic

/-!
# Text inside a define block

Between `define NAME` and `endef` make keeps text as it is but for three things: a line that
reads `endef` ends the block, one that reads `define` opens a block inside it, and a backslash
before a line break joins two lines, also the last line and the closing one. Each is broken up
by `$()`, a reference to the variable without a name, which expands to nothing.
-/

namespace MakeHost.DefineBlock

/-- Breaks up what make would not keep, from left to right, so that nothing which was inserted
is looked at again; `double` says whether to write every dollar sign twice. -/
def broken (double : Bool) : Text → Text
  | 'd' :: 'e' :: 'f' :: 'i' :: 'n' :: 'e' :: s => "$()define" ++ broken double s
  | 'e' :: 'n' :: 'd' :: 'e' :: 'f' :: s => "$()endef" ++ broken double s
  | '\\' :: '\n' :: s => "\\$()\n" ++ broken double s
  | ['\\'] => "\\$()"
  | '$' :: s => (if double then "$$" else "$") ++ broken double s
  | c :: s => c :: broken double s
  | [] => []

/-- The text of a block whose stored value expands as `s` would. -/
def guarded (s : Text) : Text := broken false s

/-- The text of a block whose stored value expands to `s` itself. -/
def literal (s : Text) : Text := broken true s

end MakeHost.DefineBlock
