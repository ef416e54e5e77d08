import AccessPolicy.Pattern.Reader
import AccessPolicy.Pattern.Size

/-!
Compiling a pattern: it has to be readable and must not be too large.
-/
namespace AccessPolicy.Pattern

/-- Why a text is refused as a pattern. -/
inductive Fault where
  | unreadable
  | tooLarge
  deriving DecidableEq, Repr

def Fault.message : Fault → String
  | unreadable => "regex parse error"
  | tooLarge => "Compiled regex exceeds size limit of 10485760 bytes."

/-- Read a pattern and check its size. -/
def compile (s : String) : Except Fault Pattern :=
  match ofString? s with
  | none => .error .unreadable
  | some p => if p.fits then .ok p else .error .tooLarge

end AccessPolicy.Pattern
