import WorkspaceLint.Checker.Script
import WorkspaceLint.Proofs.Analysis.Verdicts

/-!
# Scripts that do not count

All that a scripted checker keeps between its visits is how often it has counted, and only an action
that counts looks at that. A checker without such an action looks at nothing but the unit,
`Checker.ofScript_isStateless`.
-/

namespace WorkspaceLint

/-- An action yields the same however often its checker has counted. -/
def Action.isUncounted (action : Action) : Bool :=
  match action.deed with
  | .count => false
  | _ => true

/-- No action of a script counts. -/
def Delivery.isUncounted : Delivery → Bool
  | .oneByOne actions | .allAtOnce actions => actions.all Action.isUncounted
  | _ => true

/-- An action that counts nothing does the same however often it was done before. -/
theorem Action.perform_eq {action : Action} (h : action.isUncounted = true) (unit : SourceUnit)
    (times times' : Nat) : action.perform unit times = action.perform unit times' := by
  cases hdeed : action.deed <;> simp_all [isUncounted, perform]

/-- Actions that count nothing come to the same whatever the counters are. -/
theorem performAll_fst_eq (whole : Bool) (checker : Nat) (unit : SourceUnit) {actions : List Action}
    (h : ∀ action ∈ actions, action.isUncounted = true) (counters counters' : Counters) :
    (performAll whole checker unit actions counters).1
      = (performAll whole checker unit actions counters').1 := by
  induction actions generalizing counters counters' with
  | nil => rfl
  | cons action actions ih =>
    obtain ⟨haction, hactions⟩ := List.forall_mem_cons.mp h
    have hrest := ih hactions
    rw [performAll, performAll]
    split
    · exact hrest counters counters'
    dsimp only
    rw [action.perform_eq haction unit _
      (Counters.timesOf (action.counted checker counters') checker)]
    -- What the action yields is the same, and so is what the later ones yield.
    cases (action.perform unit _).ending with
    | raised fault => rfl
    | finished =>
      dsimp only
      rw [hrest (action.counted checker counters) (action.counted checker counters')]
    | strayed kind =>
      cases whole with
      | false => rfl
      | true =>
        dsimp only
        rw [if_neg (by simp), if_neg (by simp),
          hrest (action.counted checker counters) (action.counted checker counters')]
        cases (performAll true checker unit actions _).1.ending <;> rfl

/-- A checker whose script does not count looks at nothing but the unit. -/
theorem Checker.ofScript_isStateless (number : Nat) (name : String) {script : CheckScript}
    (h : script.isUncounted = true) : (Checker.ofScript number name script).IsStateless := by
  intro unit counters counters'
  cases script with
  | oneByOne actions => exact performAll_fst_eq false number unit (List.all_eq_true.mp h) _ _
  | allAtOnce actions => exact performAll_fst_eq true number unit (List.all_eq_true.mp h) _ _
  | nothing => rfl
  | value value => rfl
  | raise fault => rfl

end WorkspaceLint
