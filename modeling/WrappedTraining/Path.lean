import WrappedTraining.Text.Cut

/-!
# Paths

A path is compared by its components: the pieces between slashes, where repeated and trailing
slashes and a `.` inside the path do not count. `Path.isBelow` is the relation between a path and
the directories above it.
-/

namespace WrappedTraining.Path

/-- The path starts at the root. -/
def isAbsolute (p : String) : Bool := p.toList.head? = some '/'

/-- The pieces of a path that name something. -/
def named (pieces : List String) : List String := pieces.filter fun c => c ≠ "" ∧ c ≠ "."

/-- The components of a path. The root is the component `/`, and a `.` at the start of a relative
path is a component. -/
def components (p : String) : List String :=
  if isAbsolute p then "/" :: named (Text.pieces '/' p)
  else match Text.pieces '/' p with
    | "." :: rest => "." :: named rest
    | pieces => named pieces

/-- The path is `dir` or lies below it, judged by components alone. -/
def isBelow (p dir : String) : Bool := (components dir).isPrefixOf (components p)

/-- The text after the last slash, slashes at the end aside. -/
def lastPiece (p : String) : String :=
  ((Text.pieces '/' (Text.trimEnd (· = '/') p)).getLast?).getD ""

end WrappedTraining.Path
