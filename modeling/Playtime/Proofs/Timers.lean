import Playtime.Timers

namespace Playtime

theorem Timer.set?_of_timely {δ : Type} (duty : δ) {period now : Nat} (positive : 0 < period)
    (timely : (now + period) / 1000 < lastTimerSecond) :
    Timer.set? duty period now = some ⟨duty, period, positive, now + period⟩ := by
  rw [Timer.set?, dif_pos positive, if_pos timely]

theorem Timer.set?_of_untimely {δ : Type} (duty : δ) {period now : Nat}
    (untimely : ¬ (now + period) / 1000 < lastTimerSecond) : Timer.set? duty period now = none := by
  simp [Timer.set?, untimely]

theorem Timer.duty_of_set {δ : Type} {duty : δ} {period now : Nat} {timer : Timer δ}
    (set : Timer.set? duty period now = some timer) : timer.duty = duty := by
  unfold Timer.set? at set
  split at set
  · split at set
    · cases set
      rfl
    · cases set
  · cases set

namespace Timers

variable {δ α : Type}

theorem run_of_none (act : δ → α → α) (goal : Nat) {timers : List (Timer δ)} (state : α)
    (none : earliest? timers = none) : run act goal timers state = (timers, state) := by
  rw [run]
  split
  · rfl
  · next found => cases none.symm.trans found

theorem run_of_due (act : δ → α → α) {goal : Nat} {timers : List (Timer δ)} (state : α) {place : Nat} {timer : Timer δ}
    (found : earliest? timers = some (place, timer)) (reached : timer.due ≤ goal) :
    run act goal timers state = run act goal (timers.set place timer.renew) (act timer.duty state) := by
  rw [run]
  split
  · next none => cases found.symm.trans none
  · next found' =>
    cases found.symm.trans found'
    exact dif_pos reached

theorem run_of_early (act : δ → α → α) {goal : Nat} {timers : List (Timer δ)} (state : α) {place : Nat}
    {timer : Timer δ} (found : earliest? timers = some (place, timer)) (early : ¬ timer.due ≤ goal) :
    run act goal timers state = (timers, state) := by
  rw [run]
  split
  · rfl
  · next found' =>
    cases found.symm.trans found'
    exact dif_neg early

theorem run_keeps (act : δ → α → α) (goal : Nat) (property : List (Timer δ) → α → Prop)
    (fires : ∀ timers state place timer, timers[place]? = some timer → timer.due ≤ goal → property timers state →
      property (timers.set place timer.renew) (act timer.duty state))
    (timers : List (Timer δ)) (state : α) (holds : property timers state) :
    property (run act goal timers state).1 (run act goal timers state).2 := by
  induction timers, state using run.induct act goal with
  | case1 timers state none =>
    rw [run_of_none act goal state none]
    exact holds
  | case2 timers state place timer found reached less ih =>
    rw [run_of_due act state found reached]
    exact ih (fires timers state place timer (getElem?_of_earliest? timers place timer found) reached holds)
  | case3 timers state place timer found early =>
    rw [run_of_early act state found early]
    exact holds

theorem eq_nil_of_earliest? {timers : List (Timer δ)} (none : earliest? timers = none) : timers = [] := by
  cases timers with
  | nil => rfl
  | cons first timers =>
    rw [earliest?] at none
    split at none
    · cases none
    · split at none <;> cases none

theorem earliest?_le {timers : List (Timer δ)} {place : Nat} {timer : Timer δ}
    (found : earliest? timers = some (place, timer)) : ∀ other ∈ timers, timer.due ≤ other.due := by
  induction timers generalizing place timer with
  | nil => nofun
  | cons first timers ih =>
    rw [earliest?] at found
    cases rest : earliest? timers with
    | none =>
      rw [rest] at found
      cases found
      simp [eq_nil_of_earliest? rest]
    | some entry =>
      obtain ⟨place', other⟩ := entry
      have least := ih rest
      rw [rest] at found
      dsimp only at found
      split at found
      · next before =>
        cases found
        intro other' member
        rcases List.mem_cons.mp member with rfl | member
        · exact Nat.le_refl _
        · exact Nat.le_trans before (least other' member)
      · next after =>
        cases found
        intro other' member
        rcases List.mem_cons.mp member with rfl | member
        · omega
        · exact least other' member

theorem run_leaves (act : δ → α → α) (goal : Nat) (timers : List (Timer δ)) (state : α) :
    ∀ timer ∈ (run act goal timers state).1, goal < timer.due := by
  induction timers, state using run.induct act goal with
  | case1 timers state none =>
    rw [run_of_none act goal state none, eq_nil_of_earliest? none]
    nofun
  | case2 timers state place timer found reached less ih =>
    rw [run_of_due act state found reached]
    exact ih
  | case3 timers state place timer found early =>
    rw [run_of_early act state found early]
    intro other member
    have least := earliest?_le found other member
    omega

theorem run_run (act : δ → α → α) {first last : Nat} (order : first ≤ last) (timers : List (Timer δ)) (state : α) :
    run act last (run act first timers state).1 (run act first timers state).2 = run act last timers state := by
  induction timers, state using run.induct act first with
  | case1 timers state none => rw [run_of_none act first state none]
  | case2 timers state place timer found reached less ih =>
    rw [run_of_due act state found reached, ih, run_of_due act state found (by omega)]
  | case3 timers state place timer found early => rw [run_of_early act state found early]

/-- What is done before each firing, and need not be done twice, can be done once more at the outset. -/
theorem run_prepared (act : δ → α → α) (prepare : α → α) (goal : Nat) (timers : List (Timer δ)) (state : α)
    (prepares : ∀ duty, act duty (prepare state) = act duty state) (twice : prepare (prepare state) = prepare state) :
    (run act goal timers (prepare state)).1 = (run act goal timers state).1 ∧
      prepare (run act goal timers (prepare state)).2 = prepare (run act goal timers state).2 := by
  cases found : earliest? timers with
  | none =>
    rw [run_of_none act goal _ found, run_of_none act goal _ found]
    exact ⟨rfl, twice⟩
  | some entry =>
    obtain ⟨place, timer⟩ := entry
    by_cases reached : timer.due ≤ goal
    · rw [run_of_due act _ found reached, run_of_due act _ found reached, prepares]
      exact ⟨rfl, rfl⟩
    · rw [run_of_early act _ found reached, run_of_early act _ found reached]
      exact ⟨rfl, twice⟩

theorem duties_renew {timers : List (Timer δ)} {place : Nat} {timer : Timer δ} (found : timers[place]? = some timer) :
    (timers.set place timer.renew).map Timer.duty = timers.map Timer.duty := by
  obtain ⟨inside, rfl⟩ := List.getElem?_eq_some_iff.mp found
  rw [List.map_set, show (timers[place].renew).duty = timers[place].duty from rfl, ← List.map_set,
    List.set_getElem_self]

end Timers

end Playtime
