/-!
Timers that fire again and again. A timer set at some time with a period fires at every whole number of periods after
that time, and timers that are due together fire in the order in which they were set. Time is counted in milliseconds.
-/

namespace Playtime

/-- The second in which the clock of timers ends. -/
def lastTimerSecond : Nat := 9223372036854775808

structure Timer (δ : Type) where
  duty : δ
  period : Nat
  isPeriodic : 0 < period
  due : Nat

namespace Timer

variable {δ : Type}

/-- Sets a timer; there is none without a period, nor past the end of its clock. -/
def set? (duty : δ) (period now : Nat) : Option (Timer δ) :=
  if isPeriodic : 0 < period then
    if (now + period) / 1000 < lastTimerSecond then some ⟨duty, period, isPeriodic, now + period⟩ else none
  else none

def renew (timer : Timer δ) : Timer δ := { timer with due := timer.due + timer.period }

/-- How far a timer is from having fired for the last time by the end of a span. -/
def left (timer : Timer δ) (goal : Nat) : Nat := goal + 1 - timer.due

theorem left_renew_lt (timer : Timer δ) (goal : Nat) (reached : timer.due ≤ goal) :
    timer.renew.left goal < timer.left goal := by
  have := timer.isPeriodic
  show goal + 1 - (timer.due + timer.period) < goal + 1 - timer.due
  omega

end Timer

namespace Timers

variable {δ : Type}

def earliest? : List (Timer δ) → Option (Nat × Timer δ)
  | [] => none
  | timer :: rest =>
    match earliest? rest with
    | none => some (0, timer)
    | some (place, other) => if timer.due ≤ other.due then some (0, timer) else some (place + 1, other)

theorem getElem?_of_earliest? (timers : List (Timer δ)) (place : Nat) (timer : Timer δ)
    (found : earliest? timers = some (place, timer)) : timers[place]? = some timer := by
  induction timers generalizing place timer with
  | nil => cases found
  | cons first rest ih =>
    unfold earliest? at found
    split at found
    · cases found
      rfl
    · next other found' =>
      split at found
      · cases found
        rfl
      · cases found
        exact ih _ _ found'

def left (goal : Nat) : List (Timer δ) → Nat
  | [] => 0
  | timer :: rest => timer.left goal + left goal rest

theorem left_set_lt (timers : List (Timer δ)) (goal place : Nat) (timer renewed : Timer δ)
    (found : timers[place]? = some timer) (less : renewed.left goal < timer.left goal) :
    left goal (timers.set place renewed) < left goal timers := by
  induction timers generalizing place with
  | nil => cases found
  | cons first rest ih =>
    cases place with
    | zero =>
      cases found
      simp only [left, List.set_cons_zero]
      omega
    | succ place =>
      have := ih place found
      simp only [left, List.set_cons_succ]
      omega

def run {α : Type} (act : δ → α → α) (goal : Nat) (timers : List (Timer δ)) (state : α) :
    List (Timer δ) × α :=
  match found : earliest? timers with
  | none => (timers, state)
  | some (place, timer) =>
    if reached : timer.due ≤ goal then
      have : left goal (timers.set place timer.renew) < left goal timers :=
        left_set_lt timers goal place timer timer.renew (getElem?_of_earliest? timers place timer found)
          (timer.left_renew_lt goal reached)
      run act goal (timers.set place timer.renew) (act timer.duty state)
    else (timers, state)
termination_by left goal timers

end Timers

end Playtime
