import WorkspaceLint.Analysis.Run

/-!
# Pools of workers

In which order the units of a project complete is not for a run to choose. A pool of workers is one
way in which an order comes about. Units are handed over one after another at a steady pace, each is
taken by the worker that is free first, and a unit takes as long as its source is long. A unit with
a short source is therefore finished before the next one is handed over, while the units behind one
with a long source overtake it.
-/

namespace WorkspaceLint.Pool

/-- How much of a source a worker gets through before the next unit is handed over. -/
def pace : Nat := 1000

/-- When units of the given lengths are finished, the first of which is handed over at the time
`now`. The workers are free from the times in `free` on, earliest first. -/
def finishTimes : (now : Nat) → (free : List Nat) → (lengths : List Nat) → List Nat
  | _, _, [] => []
  | now, free, length :: lengths =>
    let finish := max now (free.head?.getD now) + length
    let free := (finish :: free.tail).mergeSort fun a b => a ≤ b
    finish :: finishTimes (now + pace) free lengths

/-- The order in which units of the given lengths complete; of those that are finished at the same
time, the one that was handed over first comes first. -/
def completionOrder (workers : Nat) (lengths : List Nat) : List Nat :=
  let finished := finishTimes 0 (List.replicate workers 0) lengths
  (finished.zipIdx.mergeSort fun a b => a.1 ≤ b.1).map (·.2)

/-- The order in which a pool with as many workers as a run has jobs completes the units of a
project. More workers than units would have nothing to do. -/
def order (mode : RunMode) : Analysis.CompletionOrder := fun _ project =>
  completionOrder (min mode.jobs.toNat project.units.length)
    (project.units.map (·.source.length))

end WorkspaceLint.Pool
