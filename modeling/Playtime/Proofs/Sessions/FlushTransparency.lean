import Playtime.Proofs.Ledger.Files
import Playtime.Proofs.Sessions.Reading
import Playtime.Proofs.Sessions.Rounds

namespace Playtime.Sessions

variable {σ : Type} [Ledger σ]

def Plain : Call → Prop
  | .start _ _ | .stop _ _ => True
  | .add _ delta => 0 ≤ delta.toInt
  | .flush _ | .addAll _ => False

/-- The second list is the first with flushes put in. -/
inductive Woven : List Call → List Call → Prop where
  | done : Woven [] []
  | keep (call : Call) {plain woven : List Call} (later : Woven plain woven) : Woven (call :: plain) (call :: woven)
  | flush (now : Int64) {plain woven : List Call} (later : Woven plain woven) : Woven plain (.flush now :: woven)

def Call.instant (clock : Int64) : Call → Int64
  | .start _ now | .stop _ now | .flush now => now
  | .add _ _ | .addAll _ => clock

def Forward (clock last : Int64) : List Call → Prop
  | [] => clock ≤ last
  | call :: later => clock ≤ call.instant clock ∧ Forward (call.instant clock) last later

/-- The ledger refuses no write of a call. An open session takes an adjustment without one. -/
def Granted (state : Sessions × σ) : Call → Prop
  | .add id delta => state.1.isAccumulating id = false → Accepted state (.add id delta)
  | call => Accepted state call

instance (state : Sessions × σ) (call : Call) : Decidable (Granted state call) :=
  match call with
  | .add _ _ => inferInstanceAs (Decidable (_ → _))
  | .start _ _ | .stop _ _ | .flush _ | .addAll _ => inferInstanceAs (Decidable (Accepted _ _))

theorem shift?_of_later (early late delta moved : Int64) (credit : 0 ≤ delta.toInt)
    (later : early.toInt ≤ late.toInt) (shifted : shift? early delta = some moved) :
    ∃ after, shift? late delta = some after ∧ moved.toInt ≤ after.toInt ∧ after.toInt ≤ late.toInt := by
  have first := shift?_eq_some early delta moved shifted
  obtain ⟨millis, product, -⟩ := Option.bind_eq_some_iff.mp shifted
  have low := fits_toInt moved
  have high := fits_toInt late
  have exact := (int64?_eq_some_iff _ _).mp product
  have thousand : (1000 : Int64).toInt = 1000 := rfl
  rw [thousand] at exact
  rw [fits_iff] at low high
  have fits : ¬ (late.toInt - millis.toInt < leastInt64 ∨ greatestInt64 < late.toInt - millis.toInt) := by
    unfold leastInt64 greatestInt64
    omega
  have room := mt (int64?_eq_none_iff _).mp fits
  obtain ⟨after, difference⟩ := Option.ne_none_iff_exists'.mp room
  have second : shift? late delta = some after := Option.bind_eq_some_iff.mpr ⟨millis, product, difference⟩
  have exact₂ := shift?_eq_some late delta after second
  exact ⟨after, second, by omega, by omega⟩

theorem advance_between (started now : Int64) (forward : started.toInt ≤ now.toInt) :
    started.toInt ≤ (advance started now).toInt ∧ (advance started now).toInt ≤ now.toInt := by
  have between := (advances started now).between
  omega

variable [LawfulLedger σ]

/-- A session that has been flushed is open when the other is, starts no earlier, and has started by now. -/
def Shifted (clock : Int64) (early late : Option Int64) : Prop :=
  (early = none ∧ late = none) ∨ ∃ first second, early = some first ∧ late = some second ∧
    first.toInt ≤ second.toInt ∧ second.toInt ≤ clock.toInt

/-- What flushes leave alike of two runs: no total differs, though sessions and ledgers do. -/
structure Alike (clock : Int64) (plain woven : Sessions × σ) : Prop where
  nothing₁ : plain.1.pending = ∅
  nothing₂ : woven.1.pending = ∅
  shifted (id : PlayerId) : Shifted clock plain.1.started[id]? woven.1.started[id]?
  total (id : PlayerId) (t : Int) : worth plain id t = worth woven id t

theorem Shifted.later {clock now : Int64} {early late : Option Int64} (shifted : Shifted clock early late)
    (forward : clock.toInt ≤ now.toInt) : Shifted now early late := by
  rcases shifted with closed | ⟨first, second, opened₁, opened₂, order, started⟩
  · exact .inl closed
  · exact .inr ⟨first, second, opened₁, opened₂, order, by omega⟩

variable {clock now : Int64} {plain woven : Sessions × σ}

theorem Alike.isAccumulating (alike : Alike clock plain woven) (id : PlayerId) :
    plain.1.isAccumulating id = woven.1.isAccumulating id := by
  rw [isAccumulating_eq, isAccumulating_eq]
  rcases alike.shifted id with ⟨closed₁, closed₂⟩ | ⟨first, second, opened₁, opened₂, -⟩
  · rw [closed₁, closed₂]
  · rw [opened₁, opened₂]
    rfl

theorem Alike.measured (alike : Alike clock plain woven) (forward : clock.toInt ≤ now.toInt) (id : PlayerId)
    (measured : plain.1.Measured id now) : woven.1.Measured id now := by
  intro started known
  rcases alike.shifted id with ⟨closed₁, closed₂⟩ | ⟨first, second, opened₁, opened₂, order, begun⟩
  · rw [closed₂] at known
    cases known
  · rw [opened₂] at known
    cases known
    have fits := measured first opened₁
    have nothing := fits_toInt (0 : Int64)
    apply Fits.between nothing fits
    · simp
      omega
    · omega

theorem Alike.ending (alike : Alike clock plain woven) (forward : clock.toInt ≤ now.toInt) (id : PlayerId)
    (t : Int) : plain.1.ending id now t = woven.1.ending id now t := by
  have total := alike.total id t
  rcases alike.shifted id with ⟨closed₁, closed₂⟩ | ⟨first, second, opened₁, opened₂, order, begun⟩
  · unfold Sessions.ending
    rw [closed₁, closed₂]
  · have accrued₁ := accrued_of_some plain.1 id first t opened₁
    have accrued₂ := accrued_of_some woven.1 id second t opened₂
    -- Equal totals put whole seconds between the two starts, so both have begun the same part of a second.
    have part : Sessions.rest first now = Sessions.rest second now := by
      unfold Sessions.rest worth at *
      rw [Int.tmod_eq_emod_of_nonneg (by omega), Int.tmod_eq_emod_of_nonneg (by omega)]
      omega
    unfold Sessions.ending
    rw [opened₁, opened₂]
    dsimp only
    rw [part]

theorem Alike.seconds (alike : Alike clock plain woven) (forward : clock.toInt ≤ now.toInt) (id : PlayerId)
    (measured : plain.1.Measured id now) :
    saved plain id + (plain.1.live id now).toInt = saved woven id + (woven.1.live id now).toInt := by
  have total := alike.total id 0
  have same := alike.ending forward id 0
  have ended₁ := ending_eq plain.1 id now 0 measured
  have ended₂ := ending_eq woven.1 id now 0 (alike.measured forward id measured)
  unfold worth at total
  omega

theorem Alike.flush (alike : Alike clock plain woven) (forward : clock.toInt ≤ now.toInt)
    (sound : LawfulLedger.Sound woven.2) (accepted : Accepted woven (.flush now)) :
    Alike now plain (perform woven (.flush now)).2 := by
  have unclipped := unclipped_flush woven.1 woven.2 now alike.nothing₂
  refine ⟨alike.nothing₁, pending_flush woven.1 woven.2 now accepted, fun id => ?_, fun id t => ?_⟩
  · show Shifted now _ (woven.1.flush woven.2 now).2.1.started[id]?
    rw [started_flush, Std.ExtTreeMap.getElem?_map]
    rcases alike.shifted id with ⟨closed₁, closed₂⟩ | ⟨first, second, opened₁, opened₂, order, begun⟩
    · exact .inl ⟨closed₁, by rw [closed₂]; rfl⟩
    · have moved := advance_between second now (by omega)
      exact .inr ⟨first, advance second now, opened₁, by rw [opened₂]; rfl, by omega, moved.2⟩
  · have same := worth_flush woven.1 woven.2 now id t sound unclipped
    exact (alike.total id t).trans same.symm

theorem Alike.accepted_add (alike : Alike clock plain woven) (player : PlayerId) (delta : Int64)
    (credit : 0 ≤ delta.toInt) (accepted : Accepted plain (.add player delta))
    (granted : Granted woven (.add player delta)) : Accepted woven (.add player delta) := by
  rcases alike.shifted player with ⟨closed₁, closed₂⟩ | ⟨first, second, opened₁, opened₂, order, begun⟩
  · apply granted
    rw [isAccumulating_eq, closed₂]
    rfl
  · unfold Accepted perform at *
    dsimp only at *
    rw [add_of_open _ _ _ first _ opened₁] at accepted
    rw [add_of_open _ _ _ second _ opened₂]
    cases shifted : shift? first delta with
    | none =>
      rw [shifted] at accepted
      cases accepted
    | some moved =>
      obtain ⟨after, taken, -⟩ := shift?_of_later first second delta moved credit order shifted
      rw [taken]

theorem Alike.accepted (alike : Alike clock plain woven) (call : Call) (plainly : Plain call)
    (accepted : Accepted plain call) (granted : Granted woven call) : Accepted woven call := by
  cases call with
  | start player now => exact granted
  | stop player now => exact granted
  | add player delta => exact alike.accepted_add player delta plainly accepted granted
  | flush now => cases plainly
  | addAll deltas => cases plainly

theorem Alike.unclipped (alike : Alike clock plain woven) (call : Call)
    (forward : clock.toInt ≤ (call.instant clock).toInt) (unclipped : Unclipped plain call)
    (accepted : Accepted woven call) : Unclipped woven call := by
  cases call with
  | start player now => exact ⟨alike.measured forward player unclipped.1, fun refused => absurd accepted refused⟩
  | stop player now => exact ⟨alike.measured forward player unclipped.1, fun refused => absurd accepted refused⟩
  | flush now => exact unclipped_flush woven.1 woven.2 now alike.nothing₂
  | add player delta => exact trivial
  | addAll deltas => exact trivial

theorem Alike.gain (alike : Alike clock plain woven) (call : Call) (plainly : Plain call)
    (forward : clock.toInt ≤ (call.instant clock).toInt) (accepted₁ : Accepted plain call)
    (accepted₂ : Accepted woven call) (id : PlayerId) (t : Int) :
    Sessions.gain plain call id t = Sessions.gain woven call id t := by
  unfold Sessions.gain
  cases call with
  | start player now =>
    have ended : plain.1.ending id now t = woven.1.ending id now t := alike.ending forward id t
    dsimp only
    rw [ended]
  | stop player now =>
    have ended : plain.1.ending id now t = woven.1.ending id now t := alike.ending forward id t
    dsimp only
    rw [ended]
  | add player delta => rw [accepted₁, accepted₂]
  | flush now => cases plainly
  | addAll deltas => cases plainly

theorem Alike.shifted_add (alike : Alike clock plain woven) (player id : PlayerId) (delta : Int64)
    (credit : 0 ≤ delta.toInt) (accepted : Accepted plain (.add player delta)) :
    Shifted clock (plain.1.add plain.2 player delta).2.1.started[id]?
      (woven.1.add woven.2 player delta).2.1.started[id]? := by
  change (plain.1.add plain.2 player delta).1 = _ at accepted
  rcases alike.shifted player with ⟨closed₁, closed₂⟩ | ⟨first, second, opened₁, opened₂, order, begun⟩
  · rw [add_of_closed _ _ _ _ closed₁, add_of_closed _ _ _ _ closed₂]
    exact alike.shifted id
  · rw [add_of_open _ _ _ _ _ opened₁] at accepted ⊢
    rw [add_of_open _ _ _ _ _ opened₂]
    cases shifted : shift? first delta with
    | none =>
      rw [shifted] at accepted
      cases accepted
    | some moved =>
      obtain ⟨after, taken, low, high⟩ := shift?_of_later first second delta moved credit order shifted
      rw [taken]
      dsimp only
      rw [Std.ExtTreeMap.getElem?_insert, Std.ExtTreeMap.getElem?_insert]
      by_cases same : compare player id = .eq
      · rw [if_pos same, if_pos same]
        exact .inr ⟨moved, after, rfl, rfl, low, by omega⟩
      · rw [if_neg same, if_neg same]
        exact alike.shifted id

theorem Alike.shifted_perform (alike : Alike clock plain woven) (call : Call) (plainly : Plain call)
    (forward : clock.toInt ≤ (call.instant clock).toInt) (accepted : Accepted plain call) (id : PlayerId) :
    Shifted (call.instant clock) (Sessions.perform plain call).2.1.started[id]?
      (Sessions.perform woven call).2.1.started[id]? := by
  unfold Sessions.perform
  cases call with
  | start player now =>
    dsimp only [Call.instant] at *
    rw [started_start, started_start, Std.ExtTreeMap.getElem?_insert, Std.ExtTreeMap.getElem?_insert]
    by_cases same : compare player id = .eq
    · rw [if_pos same, if_pos same]
      exact .inr ⟨now, now, rfl, rfl, by omega, by omega⟩
    · rw [if_neg same, if_neg same]
      exact (alike.shifted id).later forward
  | stop player now =>
    dsimp only [Call.instant] at *
    rw [started_stop, started_stop, Std.ExtTreeMap.getElem?_erase, Std.ExtTreeMap.getElem?_erase]
    by_cases same : compare player id = .eq
    · rw [if_pos same, if_pos same]
      exact .inl ⟨rfl, rfl⟩
    · rw [if_neg same, if_neg same]
      exact (alike.shifted id).later forward
  | add player delta => exact alike.shifted_add player id delta plainly accepted
  | flush now => cases plainly
  | addAll deltas => cases plainly

theorem Alike.perform (alike : Alike clock plain woven) (call : Call) (plainly : Plain call)
    (forward : clock.toInt ≤ (call.instant clock).toInt)
    (sound₁ : LawfulLedger.Sound plain.2) (sound₂ : LawfulLedger.Sound woven.2)
    (accepted : Accepted plain call) (unclipped : Unclipped plain call) (granted : Granted woven call) :
    Alike (call.instant clock) (Sessions.perform plain call).2 (Sessions.perform woven call).2 := by
  have taken := alike.accepted call plainly accepted granted
  have room := alike.unclipped call forward unclipped taken
  refine ⟨pending_perform plain call alike.nothing₁ accepted, pending_perform woven call alike.nothing₂ taken,
    alike.shifted_perform call plainly forward accepted, fun id t => ?_⟩
  rw [worth_perform plain call id t sound₁ unclipped accepted.whole,
    worth_perform woven call id t sound₂ room taken.whole, alike.total id t,
    alike.gain call plainly forward accepted taken id t]

theorem Alike.run {before after : List Call} (interleaved : Woven before after)
    (plainly : ∀ call ∈ before, Plain call) (last : Int64) :
    ∀ (clock : Int64) (plain woven : Sessions × σ), Alike clock plain woven →
      LawfulLedger.Sound plain.2 → LawfulLedger.Sound woven.2 → Forward clock last after →
      Throughout Accepted plain before → Throughout Unclipped plain before → Throughout Granted woven after →
      Alike last (Sessions.run plain before) (Sessions.run woven after) := by
  induction interleaved with
  | done =>
    intro clock plain woven alike sound₁ sound₂ forward accepted unclipped granted
    have order := Int64.le_iff_toInt_le.mp forward
    exact ⟨alike.nothing₁, alike.nothing₂, fun id => (alike.shifted id).later order, alike.total⟩
  | keep call later ih =>
    intro clock plain woven alike sound₁ sound₂ forward accepted unclipped granted
    have order := Int64.le_iff_toInt_le.mp forward.1
    have step := alike.perform call (plainly call (by simp)) order sound₁ sound₂ accepted.1 unclipped.1 granted.1
    have rest := ih fun other member => plainly other (List.mem_cons_of_mem _ member)
    exact rest _ _ _ step (ledger_perform sound_kept plain call sound₁) (ledger_perform sound_kept woven call sound₂)
      forward.2 accepted.2 unclipped.2 granted.2
  | flush now later ih =>
    intro clock plain woven alike sound₁ sound₂ forward accepted unclipped granted
    have order := Int64.le_iff_toInt_le.mp forward.1
    have step := alike.flush order sound₂ granted.1
    exact ih plainly now plain _ step sound₁ (ledger_perform sound_kept woven (.flush now) sound₂)
      forward.2 accepted unclipped granted.2

theorem Alike.readable (alike : Alike clock plain woven) (forward : clock.toInt ≤ now.toInt) (id : PlayerId)
    (readable : Readable plain id now) : Readable woven id now := by
  have measured := alike.measured forward id readable.1
  have same := alike.seconds forward id readable.1
  have none₁ : plain.1.parked id = 0 := by simp [parked, alike.nothing₁]
  have none₂ : woven.1.parked id = 0 := by simp [parked, alike.nothing₂]
  have total := alike.total id 0
  have between : LawfulLedger.balance plain.2 id ≤ LawfulLedger.balance woven.2 id ∧
      0 ≤ (woven.1.live id now).toInt := by
    unfold worth saved at total
    rcases alike.shifted id with ⟨closed₁, closed₂⟩ | ⟨first, second, opened₁, opened₂, order, begun⟩
    · rw [accrued_of_none _ _ _ closed₁, accrued_of_none _ _ _ closed₂] at total
      rw [live_of_none _ _ _ closed₂]
      exact ⟨by omega, by simp⟩
    · rw [accrued_of_some _ _ _ _ opened₁, accrued_of_some _ _ _ _ opened₂] at total
      have owed := (measured second opened₂).toInt_owedSeconds
      have floor := seconds_of_nonneg (now.toInt - second.toInt) (by omega)
      rw [live_of_some _ _ _ _ opened₂]
      exact ⟨by omega, by omega⟩
  unfold Readable saved at *
  obtain ⟨-, stored, sum, all⟩ := readable
  refine ⟨measured, stored.between all (by omega) (by omega), ?_, ?_⟩
  · exact stored.between all (by omega) (by omega)
  · exact stored.between all (by omega) (by omega)

theorem Alike.closed (alike : Alike now plain woven) (id : PlayerId) (sound₁ : LawfulLedger.Sound plain.2)
    (sound₂ : LawfulLedger.Sound woven.2) (measured : plain.1.Measured id now)
    (accepted₁ : (plain.1.close plain.2 now).1 = .ok ()) (accepted₂ : (woven.1.close woven.2 now).1 = .ok ()) :
    LawfulLedger.balance (plain.1.close plain.2 now).2.2 id =
      LawfulLedger.balance (woven.1.close woven.2 now).2.2 id := by
  have fits₁ := fits_live_of_settled plain.1 id now alike.nothing₁
  have fits₂ := fits_live_of_settled woven.1 id now alike.nothing₂
  rw [balance_closed plain.1 plain.2 now id sound₁ fits₁ accepted₁,
    balance_closed woven.1 woven.2 now id sound₂ fits₂ accepted₂]
  exact alike.seconds (Int.le_refl _) id measured

theorem Alike.balance (alike : Alike clock plain woven) (id : PlayerId)
    (stopped : plain.1.isAccumulating id = false) :
    LawfulLedger.balance plain.2 id = LawfulLedger.balance woven.2 id := by
  have total := alike.total id 0
  have none₁ : plain.1.parked id = 0 := by simp [parked, alike.nothing₁]
  have none₂ : woven.1.parked id = 0 := by simp [parked, alike.nothing₂]
  rw [isAccumulating_eq] at stopped
  rcases alike.shifted id with ⟨closed₁, closed₂⟩ | ⟨first, second, opened₁, opened₂, -⟩
  · unfold worth saved at total
    rw [accrued_of_none _ _ _ closed₁, accrued_of_none _ _ _ closed₂] at total
    omega
  · rw [opened₁] at stopped
    cases stopped

/--
Flushes put into a run of starts, stops and credits, in the order of the clock, change nothing that can be told from
it: at any instant from the last call on, the same sessions are open and every reading is the same, and closing both
runs there, or having stopped every session, leaves the same seconds in both ledgers. The two runs are any two of
which one is the other with flushes, so the same holds wherever they match on the way.
-/
theorem flushes_transparent (ledger : σ) (before after : List Call) (clock now : Int64)
    (sound : LawfulLedger.Sound ledger) (isOpen : LawfulLedger.IsOpen ledger)
    (interleaved : Woven before after) (plainly : ∀ call ∈ before, Plain call) (forward : Forward clock now after)
    (accepted : Throughout Accepted (empty, ledger) before) (unclipped : Throughout Unclipped (empty, ledger) before)
    (granted : Throughout Granted (empty, ledger) after) :
    let plain := run (empty, ledger) before
    let woven := run (empty, ledger) after
    (∀ id, plain.1.isAccumulating id = woven.1.isAccumulating id) ∧
    (∀ id, Readable plain id now → ∃ seconds,
      plain.1.seconds plain.2 id now = .ok seconds ∧ woven.1.seconds woven.2 id now = .ok seconds) ∧
    ((plain.1.close plain.2 now).1 = .ok () → (woven.1.close woven.2 now).1 = .ok () →
      ∀ id, plain.1.Measured id now → LawfulLedger.balance (plain.1.close plain.2 now).2.2 id =
        LawfulLedger.balance (woven.1.close woven.2 now).2.2 id) ∧
    ((∀ id, plain.1.isAccumulating id = false) →
      ∀ id, LawfulLedger.balance plain.2 id = LawfulLedger.balance woven.2 id) := by
  intro plain woven
  have fresh : Alike clock (empty, ledger) (empty, ledger) :=
    ⟨rfl, rfl, fun id => .inl ⟨by simp [empty], by simp [empty]⟩, fun id t => rfl⟩
  have alike : Alike now plain woven :=
    Alike.run interleaved plainly now clock _ _ fresh sound sound forward accepted unclipped granted
  have sound₁ : LawfulLedger.Sound plain.2 := ledger_run sound_kept _ before sound
  have sound₂ : LawfulLedger.Sound woven.2 := ledger_run sound_kept _ after sound
  have open₁ : LawfulLedger.IsOpen plain.2 := ledger_run isOpen_kept _ before isOpen
  have open₂ : LawfulLedger.IsOpen woven.2 := ledger_run isOpen_kept _ after isOpen
  have order := Int.le_refl now.toInt
  refine ⟨alike.isAccumulating, fun id readable => ?_, fun accepted₁ accepted₂ id measured => ?_,
    fun stopped id => ?_⟩
  · exact seconds_congr plain woven id now open₁ open₂ readable (alike.readable order id readable)
      (alike.seconds order id readable.1)
  · exact alike.closed id sound₁ sound₂ measured accepted₁ accepted₂
  · exact alike.balance id (stopped id)

/-- The flushes have put a second of the open session into the ledger, yet the reading is the same. -/
theorem flushes_transparent_to_open_session :
    let player : PlayerId := ⟨7⟩
    let ledger := TimeFile.inWorkingDirectory []
    let before : List Call := [.start player 0, .add player 3, .start player 4500]
    let after : List Call :=
      [.start player 0, .flush 1500, .add player 3, .flush 2999, .start player 4500, .flush 6250]
    let plain := run (empty, ledger) before
    let woven := run (empty, ledger) after
    LawfulLedger.balance plain.2 player = 7 ∧ LawfulLedger.balance woven.2 player = 8 ∧
      (plain.1.seconds plain.2 player 9000).toOption = some 11 ∧
      plain.1.seconds plain.2 player 9000 = woven.1.seconds woven.2 player 9000 ∧
      LawfulLedger.balance (plain.1.close plain.2 9000).2.2 player =
        LawfulLedger.balance (woven.1.close woven.2 9000).2.2 player := by
  intro player ledger before after
  have isOpen : LawfulLedger.IsOpen ledger := by
    show (TimeFile.inWorkingDirectory []).1.isOpen = true
    decide +kernel
  have interleaved : Woven before after :=
    .keep _ (.flush _ (.keep _ (.flush _ (.keep _ (.flush _ .done)))))
  have plainly : ∀ call ∈ before, Plain call := by simp [before, Plain]
  have forward : Forward 0 9000 after := by
    simp only [after, Forward, Call.instant]
    decide
  obtain ⟨-, readings, closes, -⟩ := flushes_transparent ledger before after 0 9000 trivial isOpen interleaved plainly
    forward (by decide +kernel) (by decide +kernel) (by decide +kernel)
  have readable : Readable (run (empty, ledger) before) player 9000 := by decide +kernel
  obtain ⟨seconds, read₁, read₂⟩ := readings player readable
  have closed₁ : ((run (empty, ledger) before).1.close (run (empty, ledger) before).2 9000).1.isOk = true := by
    decide +kernel
  have closed₂ : ((run (empty, ledger) after).1.close (run (empty, ledger) after).2 9000).1.isOk = true := by
    decide +kernel
  have balances := closes (isOk_iff.mp closed₁) (isOk_iff.mp closed₂) player readable.1
  exact ⟨by decide +kernel, by decide +kernel, by decide +kernel, read₁.trans read₂.symm, balances⟩

end Playtime.Sessions
