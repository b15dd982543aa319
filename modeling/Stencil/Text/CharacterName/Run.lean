namespace Stencil
namespace Text
namespace CharacterName

/-!
The register of character names is kept in runs.  The characters of a run
follow one another, and their names begin alike, so only what tells them apart
is written out.
-/

/-- The characters from `first` on.  The name of each is `kind` followed by
its own ending, and the endings stand in the order of the characters, line by
line, with semicolons between those of a line. -/
structure Run where
  first : Nat
  kind : String
  endings : List String

namespace Run

def names (run : Run) : List String :=
  (run.endings.flatMap (·.splitOn ";")).map (run.kind ++ ·)

def codeOf? (run : Run) (name : String) : Option Nat :=
  (run.names.idxOf? name).map (run.first + ·)

end Run

end CharacterName
end Text
end Stencil
