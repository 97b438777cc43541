/-!
# Ranges of code points

A property of characters that no short rule describes is carried as a list of closed ranges of code
points. This module holds the one lookup that all such tables share; the tables themselves stand in
the modules named for their properties.
-/

namespace WorkspaceLint.Text

/-- Closed ranges of code points, ascending and apart. -/
abbrev Ranges := List (Nat × Nat)

/-- Whether some range of the table holds the code point. -/
def Ranges.contains (ranges : Ranges) (code : Nat) : Bool :=
  ranges.any fun range => range.1 ≤ code && code ≤ range.2

end WorkspaceLint.Text
