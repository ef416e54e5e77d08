import AccessPolicy.Pattern.Compile

/-!
Filters over names: a list of patterns any of which may match. A filter without patterns matches no
name; whether that means that there is nothing to filter by is for the user of the filter to say.
-/
namespace AccessPolicy

/-- A text that is refused as a pattern, and why. -/
structure BadPattern where
  source : String
  fault : Pattern.Fault
  deriving DecidableEq, Repr

structure Filter where
  /-- Each pattern after the text that it was read from. -/
  patterns : List (String × Pattern) := []
  deriving DecidableEq, Repr

namespace Filter

/-- Compile every source; the first bad one is reported. -/
def ofSources : List String → Except BadPattern Filter
  | [] => .ok {}
  | s :: ss =>
    match Pattern.compile s with
    | .error e => .error ⟨s, e⟩
    | .ok p =>
      match ofSources ss with
      | .error e => .error e
      | .ok f => .ok ⟨(s, p) :: f.patterns⟩

/-- The source of the first pattern that matches. -/
def find? (f : Filter) (name : String) : Option String :=
  (f.patterns.find? fun p => p.2.isMatch name).map (·.1)

def isMatch (f : Filter) (name : String) : Bool := f.patterns.any fun p => p.2.isMatch name

def isEmpty (f : Filter) : Bool := f.patterns.isEmpty

/-- A filter without patterns lets everything through; any other only what it matches. -/
def admits (f : Filter) (name : Option String) : Bool := f.isEmpty || name.any f.isMatch

theorem ofSources_ok_iff {ss : List String} :
    (∃ f, ofSources ss = .ok f) ↔ ∀ s ∈ ss, ∃ p, Pattern.compile s = .ok p := by
  induction ss with
  | nil => simp [ofSources]
  | cons s ss ih =>
    cases hs : Pattern.compile s with
    | error e => simp [ofSources, hs]
    | ok p =>
      cases hr : ofSources ss with
      | error e =>
        simp only [hr, reduceCtorEq, exists_false, false_iff] at ih
        simp [ofSources, hs, hr, ih]
      | ok f =>
        simp only [hr, Except.ok.injEq, exists_eq', true_iff] at ih
        simpa [ofSources, hs, hr] using ih

end Filter

end AccessPolicy
