/-!
# Runs of code points

A property of characters is given as a list of closed runs of code points.
-/

namespace FrameStatus.Text

/-- Whether a character lies in one of the closed runs. -/
def inRuns (runs : List (Nat × Nat)) (c : Char) : Bool :=
  runs.any fun run => run.1 ≤ c.toNat && c.toNat ≤ run.2

end FrameStatus.Text
