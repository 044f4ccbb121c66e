import Playtime.Proofs.Sessions.Calls

namespace Playtime.Sessions

variable {σ : Type} [Ledger σ]

def accrued (sessions : Sessions) (id : PlayerId) (t : Int) : Int :=
  match sessions.started[id]? with
  | some started => t - started.toInt
  | none => 0

def rest (started now : Int64) : Int := (now.toInt - started.toInt).tmod 1000

/--
What the end of a session at `now` does to the milliseconds of its player as counted at `t`: none accrue after `now`,
and the part of a second that the session has begun is lost.
-/
def ending (sessions : Sessions) (id : PlayerId) (now : Int64) (t : Int) : Int :=
  match sessions.started[id]? with
  | some started => now.toInt - t - rest started now
  | none => 0

/-- The milliseconds that a call adds to those of a player as counted at `t`. -/
def gain (state : Sessions × σ) (call : Call) (id : PlayerId) (t : Int) : Int :=
  match call with
  | .start player now => if player = id then state.1.ending id now t + (t - now.toInt) else 0
  | .stop player now => if player = id then state.1.ending id now t else 0
  | .flush _ => 0
  | .add player delta =>
    match (perform state call).1 with
    | .ok () => if player = id then 1000 * delta.toInt else 0
    | .error _ => 0
  | .addAll deltas => 1000 * secondsFor id deltas

/-- A batch is counted as a whole. -/
def Whole (state : Sessions × σ) : Call → Prop
  | .addAll deltas => Accepted state (.addAll deltas)
  | _ => True

instance (state : Sessions × σ) (call : Call) : Decidable (Whole state call) :=
  match call with
  | .addAll _ => inferInstanceAs (Decidable (Accepted _ _))
  | .start _ _ | .stop _ _ | .flush _ | .add _ _ => .isTrue trivial

theorem Accepted.whole {state : Sessions × σ} {call : Call} (accepted : Accepted state call) : Whole state call := by
  cases call with
  | addAll deltas => exact accepted
  | start id now => exact trivial
  | stop id now => exact trivial
  | flush now => exact trivial
  | add id delta => exact trivial

theorem accrued_of_some (sessions : Sessions) (id : PlayerId) (started : Int64) (t : Int)
    (session : sessions.started[id]? = some started) : sessions.accrued id t = t - started.toInt := by
  unfold accrued
  rw [session]

theorem accrued_of_none (sessions : Sessions) (id : PlayerId) (t : Int) (none : sessions.started[id]? = none) :
    sessions.accrued id t = 0 := by
  unfold accrued
  rw [none]

theorem accrued_congr (first second : Sessions) (id : PlayerId) (t : Int)
    (same : first.started[id]? = second.started[id]?) : first.accrued id t = second.accrued id t := by
  unfold accrued
  rw [same]

theorem accrued_start (sessions : Sessions) (ledger : σ) (player id : PlayerId) (now : Int64) (t : Int) :
    accrued (sessions.start ledger player now).2.1 id t =
      if player = id then t - now.toInt else sessions.accrued id t := by
  have started := started_start sessions ledger player now
  by_cases same : player = id
  · subst same
    rw [if_pos rfl]
    apply accrued_of_some
    simp [started]
  · rw [if_neg same]
    apply accrued_congr
    simp [started, Std.ExtTreeMap.getElem?_insert, same]

theorem accrued_stop (sessions : Sessions) (ledger : σ) (player id : PlayerId) (now : Int64) (t : Int) :
    accrued (sessions.stop ledger player now).2.1 id t = if player = id then 0 else sessions.accrued id t := by
  have started := started_stop sessions ledger player now
  by_cases same : player = id
  · subst same
    rw [if_pos rfl]
    apply accrued_of_none
    simp [started]
  · rw [if_neg same]
    apply accrued_congr
    simp [started, Std.ExtTreeMap.getElem?_erase, same]

theorem accrued_advance (sessions : Sessions) (pending : Totals) (now : Int64) (id : PlayerId) (t : Int) :
    accrued ⟨sessions.started.map fun _ started => advance started now, pending⟩ id t =
      sessions.accrued id t - 1000 * (sessions.live id now).toInt := by
  unfold accrued live
  dsimp only
  rw [Std.ExtTreeMap.getElem?_map]
  cases sessions.started[id]? with
  | none => simp
  | some started =>
    have moved := toInt_advance started now
    simp only [Option.map_some]
    omega

theorem ending_eq (sessions : Sessions) (id : PlayerId) (now : Int64) (t : Int)
    (measured : sessions.Measured id now) :
    sessions.ending id now t = 1000 * (sessions.live id now).toInt - sessions.accrued id t := by
  unfold ending live accrued rest
  cases known : sessions.started[id]? with
  | none => rfl
  | some started =>
    have owed := (measured started known).toInt_owedSeconds
    have split := seconds_and_rest (now.toInt - started.toInt)
    dsimp only
    omega

variable [LawfulLedger σ]

/-- The milliseconds of a player in all accounts. -/
def worth (state : Sessions × σ) (id : PlayerId) (t : Int) : Int :=
  1000 * saved state id + state.1.accrued id t

theorem saved_start (sessions : Sessions) (ledger : σ) (player id : PlayerId) (now : Int64)
    (sound : LawfulLedger.Sound ledger) (unclipped : Unclipped (sessions, ledger) (.start player now)) :
    saved (sessions.start ledger player now).2 id =
      saved (sessions, ledger) id + if player = id then (sessions.live player now).toInt else 0 :=
  saved_settle { sessions with started := sessions.started.insert player now } ledger player id _ sound unclipped.2

theorem saved_stop (sessions : Sessions) (ledger : σ) (player id : PlayerId) (now : Int64)
    (sound : LawfulLedger.Sound ledger) (unclipped : Unclipped (sessions, ledger) (.stop player now)) :
    saved (sessions.stop ledger player now).2 id =
      saved (sessions, ledger) id + if player = id then (sessions.live player now).toInt else 0 :=
  saved_settle { sessions with started := sessions.started.erase player } ledger player id _ sound unclipped.2

theorem worth_credited (before after : Sessions × σ) (player id : PlayerId) (now : Int64) (t left : Int)
    (measured : before.1.Measured player now)
    (credited : saved after id = saved before id + if player = id then (before.1.live player now).toInt else 0)
    (accrued : after.1.accrued id t = if player = id then left else before.1.accrued id t) :
    worth after id t = worth before id t + if player = id then before.1.ending id now t + left else 0 := by
  have ended := ending_eq before.1 player now t measured
  unfold worth
  by_cases same : player = id
  · subst same
    simp only [if_true] at *
    omega
  · simp only [same, if_false] at *
    omega

theorem worth_start (sessions : Sessions) (ledger : σ) (player id : PlayerId) (now : Int64) (t : Int)
    (sound : LawfulLedger.Sound ledger) (unclipped : Unclipped (sessions, ledger) (.start player now)) :
    worth (sessions.start ledger player now).2 id t =
      worth (sessions, ledger) id t + gain (sessions, ledger) (.start player now) id t :=
  worth_credited (sessions, ledger) _ player id now t (t - now.toInt) unclipped.1
    (saved_start sessions ledger player id now sound unclipped) (accrued_start sessions ledger player id now t)

theorem worth_stop (sessions : Sessions) (ledger : σ) (player id : PlayerId) (now : Int64) (t : Int)
    (sound : LawfulLedger.Sound ledger) (unclipped : Unclipped (sessions, ledger) (.stop player now)) :
    worth (sessions.stop ledger player now).2 id t =
      worth (sessions, ledger) id t + gain (sessions, ledger) (.stop player now) id t := by
  have ended := worth_credited (sessions, ledger) _ player id now t 0 unclipped.1
    (saved_stop sessions ledger player id now sound unclipped) (accrued_stop sessions ledger player id now t)
  rwa [Int.add_zero] at ended

theorem saved_flush_of_fits (sessions : Sessions) (ledger : σ) (now : Int64) (id : PlayerId)
    (sound : LawfulLedger.Sound ledger) (fits : Fits ((sessions.live id now).toInt + sessions.parked id)) :
    saved (sessions.flush ledger now).2 id = saved (sessions, ledger) id + (sessions.live id now).toInt := by
  have settled := saved_settleAll (sessions.started.map fun _ started => advance started now) ledger
    (sessions.due now) id sound
  have sum : ((sessions.due now).getD id 0).toInt = (sessions.live id now).toInt + sessions.parked id := by
    rw [getD_due]
    exact fits.toInt_addSat
  change saved (sessions.flush ledger now).2 id = _ at settled
  rw [settled, sum]
  dsimp only [saved]
  omega

theorem saved_flush (sessions : Sessions) (ledger : σ) (now : Int64) (id : PlayerId)
    (sound : LawfulLedger.Sound ledger) (unclipped : Unclipped (sessions, ledger) (.flush now)) :
    saved (sessions.flush ledger now).2 id = saved (sessions, ledger) id + (sessions.live id now).toInt :=
  saved_flush_of_fits sessions ledger now id sound (fits_due sessions ledger now id unclipped)

theorem worth_flush (sessions : Sessions) (ledger : σ) (now : Int64) (id : PlayerId) (t : Int)
    (sound : LawfulLedger.Sound ledger) (unclipped : Unclipped (sessions, ledger) (.flush now)) :
    worth (sessions.flush ledger now).2 id t = worth (sessions, ledger) id t := by
  have credited := saved_flush sessions ledger now id sound unclipped
  have advanced := accrued_advance sessions ∅ now id t
  have session : accrued (sessions.flush ledger now).2.1 id t =
      accrued ⟨sessions.started.map fun _ started => advance started now, ∅⟩ id t := by
    apply accrued_congr
    rw [started_flush]
  unfold worth
  dsimp only at *
  omega

theorem shift?_eq_some (started delta moved : Int64) (shifted : shift? started delta = some moved) :
    moved.toInt = started.toInt - 1000 * delta.toInt := by
  unfold shift? at shifted
  obtain ⟨millis, product, difference⟩ := Option.bind_eq_some_iff.mp shifted
  have exact := (int64?_eq_some_iff _ _).mp product
  have left := (int64?_eq_some_iff _ _).mp difference
  have thousand : (1000 : Int64).toInt = 1000 := rfl
  rw [thousand] at exact
  omega

theorem worth_absorb (sessions absorbed : Sessions) (ledger : σ) (player id : PlayerId) (delta : Int64) (t : Int)
    (taken : sessions.absorb player delta = .ok (some absorbed)) :
    worth (absorbed, ledger) id t =
      worth (sessions, ledger) id t + if player = id then 1000 * delta.toInt else 0 := by
  unfold absorb at taken
  split at taken
  · cases taken
  · next started known =>
    split at taken
    · cases taken
    · next moved shifted =>
      cases taken
      have earlier := shift?_eq_some started delta moved shifted
      by_cases same : player = id
      · subst same
        have before := accrued_of_some sessions player started t known
        have after := accrued_of_some ⟨sessions.started.insert player moved, sessions.pending⟩ player moved t
          Std.ExtTreeMap.getElem?_insert_self
        unfold worth
        simp only [saved, parked, if_true] at *
        omega
      · have session : accrued ⟨sessions.started.insert player moved, sessions.pending⟩ id t =
            sessions.accrued id t := by
          apply accrued_congr
          simp [Std.ExtTreeMap.getElem?_insert, same]
        unfold worth
        simp only [saved, parked, same, if_false] at *
        omega

theorem worth_add (sessions : Sessions) (ledger : σ) (player id : PlayerId) (delta : Int64) (t : Int)
    (sound : LawfulLedger.Sound ledger) :
    worth (sessions.add ledger player delta).2 id t =
      worth (sessions, ledger) id t + gain (sessions, ledger) (.add player delta) id t := by
  have accepted := LawfulLedger.balance_accepted ledger [(player, delta)] sound
  have refused := LawfulLedger.balance_refused ledger [(player, delta)]
  simp only [← LawfulLedger.credit_eq, secondsFor_singleton] at accepted refused
  unfold gain perform
  dsimp only
  unfold add
  cases taken : sessions.absorb player delta with
  | error error => simp
  | ok absorbed =>
    cases absorbed with
    | some absorbed => exact worth_absorb sessions absorbed ledger player id delta t taken
    | none =>
      dsimp only
      cases outcome : (Ledger.credit ledger player delta).1 with
      | ok =>
        have step := accepted outcome id
        dsimp only [worth, saved]
        by_cases same : player = id
        · simp only [same, if_true] at *
          omega
        · simp only [same, if_false] at *
          omega
      | error error =>
        have step := refused error outcome id
        dsimp only [worth, saved]
        omega

theorem worth_absorbAll (sessions absorbed : Sessions) (ledger : σ) (deltas left : List (PlayerId × Int64))
    (id : PlayerId) (t : Int) (taken : sessions.absorbAll deltas = (.ok left, absorbed)) :
    worth (absorbed, ledger) id t + 1000 * secondsFor id left =
      worth (sessions, ledger) id t + 1000 * secondsFor id deltas := by
  induction deltas generalizing sessions left with
  | nil =>
    cases taken
    rfl
  | cons entry deltas ih =>
    obtain ⟨player, delta⟩ := entry
    unfold absorbAll at taken
    split at taken
    · cases taken
    · next first step =>
      have head := worth_absorb sessions first ledger player id delta t step
      have tail := ih first left taken
      by_cases same : player = id
      · simp only [secondsFor, same, if_true] at *
        omega
      · simp only [secondsFor, same, if_false] at *
        omega
    · split at taken
      · cases taken
      · next others after step =>
        cases taken
        have tail := ih sessions others step
        simp only [secondsFor]
        omega

theorem worth_addAll (sessions : Sessions) (ledger : σ) (deltas : List (PlayerId × Int64)) (id : PlayerId) (t : Int)
    (sound : LawfulLedger.Sound ledger) (accepted : (sessions.addAll ledger deltas).1 = .ok ()) :
    worth (sessions.addAll ledger deltas).2 id t =
      worth (sessions, ledger) id t + 1000 * secondsFor id deltas := by
  unfold addAll at *
  cases taken : sessions.absorbAll deltas with
  | mk outcome absorbed =>
    rw [taken] at accepted
    cases outcome with
    | error error => cases accepted
    | ok left =>
      have split := worth_absorbAll sessions absorbed ledger deltas left id t taken
      cases left with
      | nil =>
        simp only [secondsFor] at split
        dsimp only
        omega
      | cons entry left =>
        have step := LawfulLedger.balance_accepted ledger (entry :: left) sound accepted id
        dsimp only [worth, saved] at *
        omega

theorem worth_perform (state : Sessions × σ) (call : Call) (id : PlayerId) (t : Int)
    (sound : LawfulLedger.Sound state.2) (unclipped : Unclipped state call) (whole : Whole state call) :
    worth (perform state call).2 id t = worth state id t + gain state call id t := by
  cases call with
  | start player now => exact worth_start state.1 state.2 player id now t sound unclipped
  | stop player now => exact worth_stop state.1 state.2 player id now t sound unclipped
  | flush now =>
    have same := worth_flush state.1 state.2 now id t sound unclipped
    exact same.trans (Int.add_zero _).symm
  | add player delta => exact worth_add state.1 state.2 player id delta t sound
  | addAll deltas => exact worth_addAll state.1 state.2 deltas id t sound whole

end Playtime.Sessions
