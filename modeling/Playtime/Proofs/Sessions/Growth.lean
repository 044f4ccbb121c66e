import Playtime.Proofs.Ledger.Unreliable
import Playtime.Proofs.Sessions.Batches
import Playtime.Proofs.Sessions.FlushTransparency
import Playtime.Proofs.Sessions.Logging

namespace Playtime.Sessions

variable {σ : Type} [Ledger σ]

def Gainful (batch : List (PlayerId × Int64)) : Prop := ∀ entry ∈ batch, 0 ≤ entry.2.toInt

instance (batch : List (PlayerId × Int64)) : Decidable (Gainful batch) :=
  inferInstanceAs (Decidable (∀ _ ∈ _, _))

theorem gainful_single {id : PlayerId} {delta : Int64} (gain : 0 ≤ delta.toInt) : Gainful [(id, delta)] := by
  intro entry member
  obtain rfl := List.mem_singleton.mp member
  exact gain

def Raising : Call → Prop
  | .start _ _ | .stop _ _ | .flush _ => True
  | .add _ delta => 0 ≤ delta.toInt
  | .addAll deltas => Gainful deltas

instance (call : Call) : Decidable (Raising call) :=
  match call with
  | .start _ _ | .stop _ _ | .flush _ => .isTrue trivial
  | .add _ delta => inferInstanceAs (Decidable (0 ≤ delta.toInt))
  | .addAll deltas => inferInstanceAs (Decidable (Gainful deltas))

instance decidableForward (clock last : Int64) (calls : List Call) : Decidable (Forward clock last calls) :=
  match calls with
  | [] => inferInstanceAs (Decidable (clock ≤ last))
  | call :: later =>
    have := decidableForward (call.instant clock) last later
    inferInstanceAs (Decidable (_ ∧ _))

/-- Every session has begun, and nobody owes any seconds. -/
structure Solvent (clock : Int64) (sessions : Sessions) : Prop where
  begun (id : PlayerId) : ∀ started ∈ sessions.started[id]?, started.toInt ≤ clock.toInt
  pending (id : PlayerId) : 0 ≤ sessions.parked id

theorem solvent_empty (clock : Int64) : Solvent clock empty :=
  ⟨fun id started known => by simp [empty] at known, fun id => by simp [parked, empty]⟩

theorem owedSeconds_mono {early late now later : Int64} (order : early.toInt ≤ late.toInt)
    (forward : now.toInt ≤ later.toInt) : (owedSeconds late now).toInt ≤ (owedSeconds early later).toInt := by
  have first : (subSat now late).toInt = max leastInt64 (min greatestInt64 (now.toInt - late.toInt)) := toInt_clip _
  have second : (subSat later early).toInt = max leastInt64 (min greatestInt64 (later.toInt - early.toInt)) :=
    toInt_clip _
  rw [toInt_owedSeconds, toInt_owedSeconds]
  apply Int.tdiv_le_tdiv (by decide)
  omega

theorem owedSeconds_self (now : Int64) : owedSeconds now now = 0 := by
  apply Int64.toInt_inj.mp
  have fits : Fits (now.toInt - now.toInt) := by simp [fits_iff]
  rw [fits.toInt_owedSeconds]
  simp

theorem owedSeconds_nonneg {started now : Int64} (begun : started.toInt ≤ now.toInt) :
    0 ≤ (owedSeconds started now).toInt := by
  have least := owedSeconds_mono begun (Int.le_refl now.toInt)
  rwa [owedSeconds_self] at least

theorem live_mono {before after : Sessions} {id : PlayerId} {now later : Int64} (forward : now.toInt ≤ later.toInt)
    (starts : ∀ started, before.started[id]? = some started →
      ∃ moved, after.started[id]? = some moved ∧ moved.toInt ≤ started.toInt)
    (closed : before.started[id]? = none → after.started[id]? = none) :
    (before.live id now).toInt ≤ (after.live id later).toInt := by
  cases session : before.started[id]? with
  | none =>
    rw [live_of_none before id now session, live_of_none after id later (closed session)]
  | some started =>
    obtain ⟨moved, found, order⟩ := starts started session
    rw [live_of_some before id started now session, live_of_some after id moved later found]
    exact owedSeconds_mono order forward

theorem toInt_parked_park (sessions : Sessions) (id other : PlayerId) (seconds : Int64)
    (pending : 0 ≤ sessions.parked id) (gain : 0 ≤ seconds.toInt) :
    (sessions.park id seconds).parked other =
      if id = other then min greatestInt64 (sessions.parked id + seconds.toInt) else sessions.parked other := by
  have clipped : (addSat (sessions.pending.getD id 0) seconds).toInt =
      max leastInt64 (min greatestInt64 (sessions.parked id + seconds.toInt)) := toInt_clip _
  show ((sessions.pending.enter (id, seconds)).getD other 0).toInt = _
  rw [getD_enter]
  by_cases same : id = other
  · subst same
    rw [if_pos rfl, if_pos rfl, clipped]
    unfold leastInt64 greatestInt64
    omega
  · rw [if_neg same, if_neg same]
    rfl

namespace Solvent

variable {clock now : Int64} {sessions : Sessions}

theorem later (solvent : Solvent clock sessions) (forward : clock.toInt ≤ now.toInt) : Solvent now sessions :=
  ⟨fun id started known => (solvent.begun id started known).trans forward, solvent.pending⟩

theorem live_nonneg (solvent : Solvent now sessions) (id : PlayerId) : 0 ≤ (sessions.live id now).toInt := by
  cases session : sessions.started[id]? with
  | none => simp [live_of_none sessions id now session]
  | some started =>
    rw [live_of_some sessions id started now session]
    exact owedSeconds_nonneg (solvent.begun id started session)

theorem toInt_due (solvent : Solvent now sessions) (id : PlayerId) :
    ((sessions.due now).getD id 0).toInt = min greatestInt64 ((sessions.live id now).toInt + sessions.parked id) := by
  have owed := solvent.live_nonneg id
  have pending := solvent.pending id
  have clipped : (addSat (sessions.live id now) (sessions.pending.getD id 0)).toInt =
      max leastInt64 (min greatestInt64 ((sessions.live id now).toInt + sessions.parked id)) := toInt_clip _
  rw [getD_due, clipped]
  unfold leastInt64 greatestInt64
  omega

theorem gainful_due (solvent : Solvent now sessions) : Gainful (sessions.due now).toList := by
  rintro ⟨id, seconds⟩ member
  have found := Std.ExtTreeMap.mem_toList_iff_getElem?_eq_some.mp member
  have due := solvent.toInt_due id
  have owed := solvent.live_nonneg id
  have pending := solvent.pending id
  rw [Std.ExtTreeMap.getD_eq_getD_getElem?, found] at due
  unfold greatestInt64 at due
  dsimp only [Option.getD_some] at due ⊢
  omega

theorem gainful_liveBatch (solvent : Solvent now sessions) (id : PlayerId) : Gainful (sessions.liveBatch id now) := by
  unfold liveBatch
  split
  · intro entry member
    cases member
  · exact gainful_single (solvent.live_nonneg id)

theorem insert (solvent : Solvent now sessions) (id : PlayerId) :
    Solvent now { sessions with started := sessions.started.insert id now } := by
  refine ⟨fun other started known => ?_, solvent.pending⟩
  rw [Std.ExtTreeMap.getElem?_insert] at known
  split at known
  · cases known
    exact Int.le_refl _
  · exact solvent.begun other started known

theorem erase (solvent : Solvent now sessions) (id : PlayerId) :
    Solvent now { sessions with started := sessions.started.erase id } := by
  refine ⟨fun other started known => ?_, solvent.pending⟩
  rw [Std.ExtTreeMap.getElem?_erase] at known
  split at known
  · cases known
  · exact solvent.begun other started known

theorem advanced (solvent : Solvent now sessions) :
    Solvent now ⟨sessions.started.map fun _ started => advance started now, ∅⟩ := by
  refine ⟨fun id started known => ?_, fun id => by rw [parked_of_empty]⟩
  rw [Std.ExtTreeMap.getElem?_map] at known
  obtain ⟨earlier, session, rfl⟩ := Option.map_eq_some_iff.mp known
  exact (advance_between earlier now (solvent.begun id earlier session)).2

theorem park (solvent : Solvent now sessions) (id : PlayerId) (seconds : Int64) (gain : 0 ≤ seconds.toInt) :
    Solvent now (sessions.park id seconds) := by
  refine ⟨solvent.begun, fun other => ?_⟩
  have pending := solvent.pending id
  rw [toInt_parked_park sessions id other seconds pending gain]
  split
  · unfold greatestInt64
    omega
  · exact solvent.pending other

theorem settle (solvent : Solvent now sessions) (ledger : σ) (id : PlayerId) (seconds : Int64)
    (gain : 0 ≤ seconds.toInt) : Solvent now (sessions.settle ledger id seconds).2.1 := by
  rcases sessions.settle_cases ledger id seconds with ⟨-, settled⟩ | ⟨-, -, settled⟩ | ⟨error, -, -, settled⟩
  · rwa [settled]
  · rwa [settled]
  · rw [settled]
    exact solvent.park id seconds gain

theorem flush (solvent : Solvent now sessions) (ledger : σ) : Solvent now (sessions.flush ledger now).2.1 := by
  have advanced := solvent.advanced
  unfold Sessions.flush
  rcases settleAll_cases ⟨sessions.started.map fun _ started => advance started now, ∅⟩ ledger (sessions.due now) with
    ⟨-, settled⟩ | ⟨-, -, settled⟩ | ⟨error, -, -, settled⟩
  · rwa [settled]
  · rwa [settled]
  · rw [settled]
    refine ⟨fun id started known => ?_, fun id => ?_⟩
    · rw [parkAll_eq] at known
      exact advanced.begun id started known
    · have due := solvent.toInt_due id
      have owed := solvent.live_nonneg id
      have pending := solvent.pending id
      rw [parked_parkAll, due]
      unfold greatestInt64
      omega

end Solvent

theorem secondsFor_nonneg (id : PlayerId) (batch : List (PlayerId × Int64)) (gainful : Gainful batch) :
    0 ≤ secondsFor id batch := by
  induction batch with
  | nil => exact Int.le_refl _
  | cons entry batch ih =>
    have head := gainful entry (by simp)
    have tail := ih fun other member => gainful other (List.mem_cons_of_mem _ member)
    unfold secondsFor
    split <;> omega

theorem absorbAll_of_gainful (sessions : Sessions) (deltas : List (PlayerId × Int64)) (gainful : Gainful deltas) :
    (∃ taken, Gainful taken ∧ Backdated sessions (sessions.absorbAll deltas).2 taken) ∧
      ∀ left, (sessions.absorbAll deltas).1 = .ok left → Gainful left := by
  rcases sessions.absorbAll_cases deltas with
    ⟨absorbed, back, all⟩ | ⟨taken, id, delta, rest, absorbed, rfl, back, -, all⟩
  · rw [all]
    refine ⟨⟨deltas, gainful, back⟩, fun left same => ?_⟩
    cases same
    exact fun entry member => gainful entry (List.mem_of_mem_filter member)
  · rw [all]
    refine ⟨⟨taken, fun entry member => gainful entry (List.mem_append_left _ member), back⟩, fun left same => ?_⟩
    cases same

section Taking

variable {before after : Sessions} {taken : List (PlayerId × Int64)} (back : Backdated before after taken)
include back

theorem Backdated.parked (id : PlayerId) : after.parked id = before.parked id := by
  unfold Sessions.parked
  rw [back.pending]

theorem Backdated.earlier (gainful : Gainful taken) (id : PlayerId) (started : Int64)
    (session : before.started[id]? = some started) :
    ∃ moved, after.started[id]? = some moved ∧ moved.toInt ≤ started.toInt := by
  have starts := back.starts id
  have gain := secondsFor_nonneg id taken gainful
  rw [session] at starts
  obtain ⟨moved, found, exact⟩ := Option.map_eq_some_iff.mp starts
  dsimp only at exact
  exact ⟨moved, found, by omega⟩

theorem Backdated.none (id : PlayerId) (closed : before.started[id]? = none) : after.started[id]? = none := by
  have starts := back.starts id
  rw [closed] at starts
  exact Option.map_eq_none_iff.mp starts

theorem Backdated.solvent {now : Int64} (gainful : Gainful taken) (solvent : Solvent now before) :
    Solvent now after := by
  refine ⟨fun id started known => ?_, fun id => by rw [back.parked]; exact solvent.pending id⟩
  cases session : before.started[id]? with
  | none =>
    rw [back.none id session] at known
    cases known
  | some earlier =>
    obtain ⟨moved, found, order⟩ := back.earlier gainful id earlier session
    cases found.symm.trans known
    exact order.trans (solvent.begun id earlier session)

end Taking

def KeptByGains (property : σ → Prop) : Prop :=
  ∀ ledger deltas, Gainful deltas → property ledger → property (Ledger.creditAll ledger deltas).2

theorem KeptByGains.credited {property : σ → Prop} (kept : KeptByGains property) {ledger : σ}
    {batch : List (PlayerId × Int64)} (gainful : Gainful batch) (holds : property ledger) :
    property (Sessions.credited ledger batch) := by
  cases batch with
  | nil => exact holds
  | cons entry batch => exact kept ledger _ gainful holds

namespace Solvent

variable {clock now : Int64} {sessions : Sessions}

theorem gainful_handOver (solvent : Solvent clock sessions) (call : Call)
    (forward : clock.toInt ≤ (call.instant clock).toInt) (raising : Raising call) (batch : List (PlayerId × Int64))
    (handed : (handOver sessions call).1 = .ok batch) : Gainful batch := by
  have begun := solvent.later forward
  cases call with
  | start id now =>
    cases handed
    exact begun.gainful_liveBatch id
  | stop id now =>
    cases handed
    exact begun.gainful_liveBatch id
  | flush now =>
    cases handed
    exact begun.gainful_due
  | add id delta => exact (absorbAll_of_gainful sessions _ (gainful_single raising)).2 batch handed
  | addAll deltas => exact (absorbAll_of_gainful sessions deltas raising).2 batch handed

theorem addAll (solvent : Solvent now sessions) (ledger : σ) (deltas : List (PlayerId × Int64))
    (gainful : Gainful deltas) : Solvent now (sessions.addAll ledger deltas).2.1 := by
  obtain ⟨⟨taken, some, back⟩, -⟩ := absorbAll_of_gainful sessions deltas gainful
  have after := back.solvent some solvent
  rw [addAll_eq]
  generalize sessions.absorbAll deltas = result at *
  obtain ⟨_ | left, absorbed⟩ := result <;> exact after

end Solvent

variable [LawfulLedger σ]

namespace Solvent

variable {clock now : Int64} {state : Sessions × σ}

theorem ledger_perform {property : σ → Prop} (kept : KeptByGains property) (solvent : Solvent clock state.1)
    (call : Call) (forward : clock.toInt ≤ (call.instant clock).toInt) (raising : Raising call)
    (holds : property state.2) : property (perform state call).2.2 := by
  have gainful := solvent.gainful_handOver call forward raising
  rw [ledger_eq]
  split
  · exact holds
  · next batch handed => exact kept.credited (gainful batch handed) holds

theorem perform (solvent : Solvent clock state.1) (call : Call)
    (forward : clock.toInt ≤ (call.instant clock).toInt) (raising : Raising call) :
    Solvent (call.instant clock) (Sessions.perform state call).2.1 := by
  have begun := solvent.later forward
  cases call with
  | start id now => exact (begun.insert id).settle state.2 id _ (begun.live_nonneg id)
  | stop id now => exact (begun.erase id).settle state.2 id _ (begun.live_nonneg id)
  | flush now => exact begun.flush state.2
  | add id delta =>
    show Solvent clock (state.1.add state.2 id delta).2.1
    rw [add_eq_addAll]
    exact begun.addAll state.2 [(id, delta)] (gainful_single raising)
  | addAll deltas => exact begun.addAll state.2 deltas raising

end Solvent

/-- A ledger in which every player has some seconds or more. -/
def Holds (least : PlayerId → Int) (ledger : σ) : Prop :=
  LawfulLedger.Sound ledger ∧ ∀ id, least id ≤ LawfulLedger.balance ledger id

theorem holds_kept (least : PlayerId → Int) : KeptByGains (Holds (σ := σ) least) := by
  intro ledger deltas gainful holds
  refine ⟨LawfulLedger.sound_creditAll ledger deltas holds.1, fun id => ?_⟩
  have stored := holds.2 id
  have gain := secondsFor_nonneg id deltas gainful
  cases outcome : (Ledger.creditAll ledger deltas).1 with
  | ok =>
    rw [LawfulLedger.balance_accepted ledger deltas holds.1 outcome id]
    omega
  | error error =>
    rw [LawfulLedger.balance_refused ledger deltas error outcome id]
    exact stored

def reading (state : Sessions × σ) (id : PlayerId) (now : Int64) : Int :=
  min greatestInt64 (saved state id + (state.1.live id now).toInt)

theorem toInt_seconds (state : Sessions × σ) (id : PlayerId) (now seconds : Int64) (solvent : Solvent now state.1)
    (stored : 0 ≤ LawfulLedger.balance state.2 id) (read : state.1.seconds state.2 id now = .ok seconds) :
    seconds.toInt = reading state id now := by
  have owed := solvent.live_nonneg id
  have pending := solvent.pending id
  unfold Sessions.seconds at read
  split at read
  · cases read
  · next found known =>
    cases read
    have balance := LawfulLedger.balance_of_seconds? state.2 id found known
    have first : (addSat (found.getD 0) (state.1.live id now)).toInt =
        max leastInt64 (min greatestInt64 ((found.getD 0).toInt + (state.1.live id now).toInt)) := toInt_clip _
    have second : (addSat (addSat (found.getD 0) (state.1.live id now)) (state.1.pending.getD id 0)).toInt =
        max leastInt64 (min greatestInt64 ((addSat (found.getD 0) (state.1.live id now)).toInt +
          state.1.parked id)) := toInt_clip _
    rw [second, first, balance]
    unfold reading saved leastInt64 greatestInt64
    omega

theorem reading_later (state : Sessions × σ) (id : PlayerId) {now later : Int64} (forward : now.toInt ≤ later.toInt) :
    reading state id now ≤ reading state id later := by
  have grows : (state.1.live id now).toInt ≤ (state.1.live id later).toInt :=
    live_mono forward (fun started session => ⟨started, session, Int.le_refl _⟩) fun closed => closed
  unfold reading
  omega

section Steps

variable {clock now : Int64} {state : Sessions × σ}
variable (solvent : Solvent now state.1) (holds : Holds (fun _ => 0) state.2)
include solvent holds

theorem saved_settled (started : Std.ExtTreeMap PlayerId Int64 compare) (player id : PlayerId) :
    min greatestInt64 (saved state id + if player = id then (state.1.live player now).toInt else 0) ≤
      saved (settle ⟨started, state.1.pending⟩ state.2 player (state.1.live player now)).2 id := by
  have owed := solvent.live_nonneg player
  have pending : 0 ≤ parked ⟨started, state.1.pending⟩ player := solvent.pending player
  have stored : 0 ≤ LawfulLedger.balance state.2 id := holds.2 id
  by_cases accepted : (settle ⟨started, state.1.pending⟩ state.2 player (state.1.live player now)).1 = .ok ()
  · rw [saved_settle ⟨started, state.1.pending⟩ state.2 player id _ holds.1 fun failed => absurd accepted failed]
    exact Int.min_le_right _ _
  rcases settle_cases ⟨started, state.1.pending⟩ state.2 player (state.1.live player now) with
    ⟨-, settled⟩ | ⟨-, -, settled⟩ | ⟨error, -, refused, settled⟩
  · exact absurd (by rw [settled]) accepted
  · exact absurd (by rw [settled]) accepted
  · rw [LawfulLedger.credit_eq] at refused settled
    have kept := LawfulLedger.balance_refused state.2 _ error refused id
    have same : parked ⟨started, state.1.pending⟩ = state.1.parked := rfl
    rw [settled]
    dsimp only [saved]
    rw [kept, toInt_parked_park _ player id _ pending owed, same]
    rw [same] at pending
    by_cases mine : player = id
    · subst mine
      simp only [if_true]
      omega
    · simp only [if_neg mine]
      omega

theorem reading_settled (started : Std.ExtTreeMap PlayerId Int64 compare) (player id : PlayerId)
    (live : (Sessions.live ⟨started, state.1.pending⟩ id now).toInt =
      if player = id then 0 else (state.1.live id now).toInt) :
    reading state id now ≤
      reading (settle ⟨started, state.1.pending⟩ state.2 player (state.1.live player now)).2 id now := by
  have credited := saved_settled solvent holds started player id
  have owed := solvent.live_nonneg id
  have starts := started_settle ⟨started, state.1.pending⟩ state.2 player (state.1.live player now)
  have same := live_congr _ _ id now starts
  unfold reading
  rw [same, live]
  by_cases mine : player = id
  · subst mine
    simp only [if_true] at *
    omega
  · simp only [if_neg mine] at *
    omega

theorem reading_start (player id : PlayerId) :
    reading state id now ≤ reading (state.1.start state.2 player now).2 id now := by
  refine reading_settled solvent holds (state.1.started.insert player now) player id ?_
  unfold Sessions.live
  rw [Std.ExtTreeMap.getElem?_insert]
  by_cases same : player = id
  · simp [same, owedSeconds_self]
  · simp [same]

theorem reading_stop (player id : PlayerId) :
    reading state id now ≤ reading (state.1.stop state.2 player now).2 id now := by
  refine reading_settled solvent holds (state.1.started.erase player) player id ?_
  unfold Sessions.live
  rw [Std.ExtTreeMap.getElem?_erase]
  by_cases same : player = id
  · simp [same]
  · simp [same]

theorem reading_flush (id : PlayerId) : reading state id now ≤ reading (state.1.flush state.2 now).2 id now := by
  have settled := saved_settleAll (state.1.started.map fun _ started => advance started now) state.2
    (state.1.due now) id holds.1
  have left := (solvent.flush state.2).live_nonneg id
  have stored : 0 ≤ LawfulLedger.balance state.2 id := holds.2 id
  change saved (state.1.flush state.2 now).2 id = _ at settled
  rw [solvent.toInt_due] at settled
  unfold reading
  rw [settled]
  unfold saved
  omega

end Steps

theorem reading_addAll {state : Sessions × σ} (now : Int64) (sound : LawfulLedger.Sound state.2)
    (deltas : List (PlayerId × Int64)) (gainful : Gainful deltas) (id : PlayerId) :
    reading state id now ≤ reading (state.1.addAll state.2 deltas).2 id now := by
  obtain ⟨⟨taken, some, back⟩, rest⟩ := absorbAll_of_gainful state.1 deltas gainful
  have grows := live_mono (Int.le_refl now.toInt) (back.earlier some id) (back.none id)
  have parked := back.parked id
  have least : Holds (LawfulLedger.balance state.2) state.2 := ⟨sound, fun id => Int.le_refl _⟩
  rw [addAll_eq]
  generalize state.1.absorbAll deltas = result at *
  obtain ⟨outcome | left, absorbed⟩ := result
  · dsimp only [reading, saved] at *
    omega
  · have credited := ((holds_kept _).credited (rest left rfl) least).2 id
    dsimp only [reading, saved] at *
    omega

/-- No call makes a reading fall, not even one whose write is refused. -/
theorem reading_perform {clock : Int64} {state : Sessions × σ} (solvent : Solvent clock state.1)
    (holds : Holds (fun _ => 0) state.2) (call : Call) (forward : clock.toInt ≤ (call.instant clock).toInt)
    (raising : Raising call) (id : PlayerId) :
    reading state id (call.instant clock) ≤ reading (perform state call).2 id (call.instant clock) := by
  have begun := solvent.later forward
  cases call with
  | start player now => exact reading_start begun holds player id
  | stop player now => exact reading_stop begun holds player id
  | flush now => exact reading_flush begun holds id
  | add player delta =>
    show _ ≤ reading (state.1.add state.2 player delta).2 id clock
    rw [add_eq_addAll]
    exact reading_addAll clock holds.1 [(player, delta)] (gainful_single raising) id
  | addAll deltas => exact reading_addAll clock holds.1 deltas raising id

section Runs

variable {at₁ : Int64 → σ → σ} {clock last : Int64} {state : Sessions × σ} {calls : List (Int64 × Call)}

theorem Solvent.runAt (solvent : Solvent clock state.1) (forward : Forward clock last (calls.map Prod.snd))
    (raising : ∀ entry ∈ calls, Raising entry.2) : Solvent last (runAt at₁ state calls).1 := by
  induction calls generalizing state clock with
  | nil => exact solvent.later (Int64.le_iff_toInt_le.mp forward)
  | cons entry calls ih =>
    obtain ⟨time, call⟩ := entry
    have order := Int64.le_iff_toInt_le.mp forward.1
    have raises := raising (time, call) (by simp)
    have begun : Solvent clock (state.1, at₁ time state.2).1 := solvent
    have step := begun.perform call order raises
    exact ih step forward.2 fun entry member => raising entry (List.mem_cons_of_mem _ member)

theorem Solvent.ledger_runAt {property : σ → Prop} (kept : KeptByGains property)
    (clocked : ∀ time ledger, property ledger → property (at₁ time ledger)) (solvent : Solvent clock state.1)
    (forward : Forward clock last (calls.map Prod.snd)) (raising : ∀ entry ∈ calls, Raising entry.2)
    (holds : property state.2) : property (Sessions.runAt at₁ state calls).2 := by
  induction calls generalizing state clock with
  | nil => exact holds
  | cons entry calls ih =>
    obtain ⟨time, call⟩ := entry
    have order := Int64.le_iff_toInt_le.mp forward.1
    have raises := raising (time, call) (by simp)
    have begun : Solvent clock (state.1, at₁ time state.2).1 := solvent
    have step := begun.perform call order raises
    have after := begun.ledger_perform kept call order raises (clocked time state.2 holds)
    exact ih step forward.2 (fun entry member => raising entry (List.mem_cons_of_mem _ member)) after

theorem Timeless.holds (timeless : Timeless at₁) (least : PlayerId → Int) (time : Int64) (ledger : σ)
    (holds : Holds least ledger) : Holds least (at₁ time ledger) :=
  ⟨timeless.sound time holds.1, fun id => by rw [timeless.balance]; exact holds.2 id⟩

theorem Timeless.reading (timeless : Timeless at₁) (state : Sessions × σ) (time : Int64) (id : PlayerId)
    (now : Int64) : Sessions.reading (state.1, at₁ time state.2) id now = Sessions.reading state id now := by
  unfold Sessions.reading saved
  rw [timeless.balance]

theorem reading_runAt (timeless : Timeless at₁) (solvent : Solvent clock state.1)
    (holds : Holds (fun _ => 0) state.2) (forward : Forward clock last (calls.map Prod.snd))
    (raising : ∀ entry ∈ calls, Raising entry.2) (id : PlayerId) :
    reading state id clock ≤ reading (runAt at₁ state calls) id last := by
  induction calls generalizing state clock with
  | nil => exact reading_later state id (Int64.le_iff_toInt_le.mp forward)
  | cons entry calls ih =>
    obtain ⟨time, call⟩ := entry
    have order := Int64.le_iff_toInt_le.mp forward.1
    have raises := raising (time, call) (by simp)
    have begun : Solvent clock (state.1, at₁ time state.2).1 := solvent
    have stored : Holds (fun _ => 0) (state.1, at₁ time state.2).2 := timeless.holds _ time state.2 holds
    have later := ih (begun.perform call order raises)
      (begun.ledger_perform (holds_kept _) call order raises stored) forward.2
      fun entry member => raising entry (List.mem_cons_of_mem _ member)
    calc reading state id clock
        ≤ reading state id (call.instant clock) := reading_later state id order
      _ = reading (state.1, at₁ time state.2) id (call.instant clock) := (timeless.reading state time id _).symm
      _ ≤ reading (perform (state.1, at₁ time state.2) call).2 id (call.instant clock) :=
        reading_perform begun stored call order raises id
      _ ≤ _ := later

end Runs

theorem gainful_asked (at₁ : Int64 → σ → σ) {state : Sessions × σ} {clock last : Int64}
    {calls : List (Int64 × Call)} (solvent : Solvent clock state.1)
    (forward : Forward clock last (calls.map Prod.snd)) (raising : ∀ entry ∈ calls, Raising entry.2) :
    Gainful (asked at₁ state calls) := by
  have kept : KeptByGains fun logged : Logged σ => Gainful logged.asked := by
    intro logged deltas gainful all entry member
    rcases List.mem_append.mp member with earlier | new
    · exact all entry earlier
    · exact gainful entry new
  have clocked (time : Int64) (logged : Logged σ) (all : Gainful logged.asked) :
      Gainful (Logged.under at₁ time logged).asked := all
  have nothing : Gainful (Logged.mk state.2 []).asked := fun entry member => by cases member
  have begun : Solvent clock (state.1, Logged.mk state.2 []).1 := solvent
  exact begun.ledger_runAt kept clocked forward raising nothing

theorem seconds_iff (state : Sessions × σ) (id : PlayerId) (now : Int64) (isOpen : LawfulLedger.IsOpen state.2) :
    (∃ seconds, state.1.seconds state.2 id now = .ok seconds) ↔ Fits (LawfulLedger.balance state.2 id) := by
  constructor
  · rintro ⟨seconds, read⟩
    unfold Sessions.seconds at read
    split at read
    · cases read
    · next stored known =>
      rw [← LawfulLedger.balance_of_seconds? state.2 id stored known]
      exact fits_toInt _
  · intro fits
    obtain ⟨stored, known⟩ := LawfulLedger.seconds?_of_isOpen state.2 id isOpen fits
    exact ⟨_, by rw [Sessions.seconds, known]⟩

/--
Without debits and under a clock that never runs back, no total falls from one reading to any later one, whatever
writes the ledger refuses in between and whatever is clipped. Sessions have begun and credits are for no less than
nothing at any time, and so is all that the ledger is asked for.
-/
theorem totals_never_fall {at₁ : Int64 → σ → σ} (timeless : Timeless at₁) (ledger : σ) (first middle last : Int64)
    (earlier later : List (Int64 × Call)) (sound : LawfulLedger.Sound ledger) (isOpen : LawfulLedger.IsOpen ledger)
    (stored : ∀ id, 0 ≤ LawfulLedger.balance ledger id)
    (raising₁ : ∀ entry ∈ earlier, Raising entry.2) (raising₂ : ∀ entry ∈ later, Raising entry.2)
    (forward₁ : Forward first middle (earlier.map Prod.snd)) (forward₂ : Forward middle last (later.map Prod.snd)) :
    let before := runAt at₁ (empty, ledger) earlier
    let after := runAt at₁ before later
    Solvent last after.1 ∧ Gainful (asked at₁ (empty, ledger) earlier) ∧ Gainful (asked at₁ before later) ∧
      (∀ id, 0 ≤ LawfulLedger.balance before.2 id ∧
        LawfulLedger.balance before.2 id ≤ LawfulLedger.balance after.2 id) ∧
      ∀ id, ((∃ seconds, after.1.seconds after.2 id last = .ok seconds) ↔ Fits (LawfulLedger.balance after.2 id)) ∧
        ∀ seconds, after.1.seconds after.2 id last = .ok seconds → ∃ fewer,
          before.1.seconds before.2 id middle = .ok fewer ∧ 0 ≤ fewer.toInt ∧ fewer.toInt ≤ seconds.toInt := by
  intro before after
  have fresh : Solvent first (empty, ledger).1 := solvent_empty first
  have solvent₁ : Solvent middle before.1 := fresh.runAt forward₁ raising₁
  have solvent₂ : Solvent last after.1 := solvent₁.runAt forward₂ raising₂
  have holds₁ : Holds (fun _ => 0) before.2 :=
    fresh.ledger_runAt (holds_kept _) (timeless.holds _) forward₁ raising₁ ⟨sound, stored⟩
  have holds₂ : Holds (LawfulLedger.balance before.2) after.2 :=
    solvent₁.ledger_runAt (holds_kept _) (timeless.holds _) forward₂ raising₂ ⟨holds₁.1, fun id => Int.le_refl _⟩
  have open₁ : LawfulLedger.IsOpen before.2 := isOpen_runAt timeless (empty, ledger) earlier isOpen
  have open₂ : LawfulLedger.IsOpen after.2 := isOpen_runAt timeless before later open₁
  refine ⟨solvent₂, gainful_asked at₁ fresh forward₁ raising₁, gainful_asked at₁ solvent₁ forward₂ raising₂,
    fun id => ⟨holds₁.2 id, holds₂.2 id⟩, fun id => ⟨seconds_iff after id last open₂, fun seconds read => ?_⟩⟩
  have floor : 0 ≤ LawfulLedger.balance before.2 id := holds₁.2 id
  have rises : LawfulLedger.balance before.2 id ≤ LawfulLedger.balance after.2 id := holds₂.2 id
  have fits := (seconds_iff after id last open₂).mp ⟨seconds, read⟩
  have nothing : Fits 0 := by decide
  obtain ⟨fewer, reread⟩ := (seconds_iff before id middle open₁).mpr (nothing.between fits floor rises)
  have now₁ := toInt_seconds before id middle fewer solvent₁ floor reread
  have now₂ := toInt_seconds after id last seconds solvent₂ (floor.trans rises) read
  have grows : reading before id middle ≤ reading after id last :=
    reading_runAt timeless solvent₁ holds₁ forward₂ raising₂ id
  have owed := solvent₁.live_nonneg id
  have pending := solvent₁.pending id
  refine ⟨fewer, reread, ?_, by omega⟩
  rw [now₁]
  unfold reading saved greatestInt64
  omega

/-- Two writes fail, and the seconds that wait for the next one do not fit any more. -/
theorem totals_never_fall_through_failures :
    let player : PlayerId := ⟨7⟩
    let untimed : Int64 → Unreliable (TimeFile × Disk) → Unreliable (TimeFile × Disk) := fun _ unreliable => unreliable
    let ledger : Unreliable (TimeFile × Disk) :=
      ⟨TimeFile.inWorkingDirectory [], [some .fileFailure, none, some .fileFailure]⟩
    let earlier : List (Int64 × Call) := [(0, .start player 0), (0, .stop player 5000)]
    let later : List (Int64 × Call) := [(0, .addAll [(player, 9223372036854775800), (⟨8⟩, 0)]),
      (0, .start player 6000), (0, .add player 2), (0, .flush 9500)]
    let before := runAt untimed (empty, ledger) earlier
    let after := runAt untimed before later
    before.1.seconds before.2 player 5000 = .ok 5 ∧ before.1.parked player = 5 ∧
      after.1.seconds after.2 player 9999 = .ok 9223372036854775807 ∧ after.1.parked player = 10 ∧
      asked untimed before later = [(player, 9223372036854775800), (⟨8⟩, 0), (player, 10)] ∧
      Gainful (asked untimed before later) := by
  intro player untimed ledger earlier later before after
  have timeless : Timeless untimed := ⟨fun _ sound => sound, fun _ isOpen => isOpen, fun _ _ _ => rfl⟩
  have isOpen : LawfulLedger.IsOpen ledger := by
    show (TimeFile.inWorkingDirectory []).1.isOpen = true
    decide
  have nothing (id : PlayerId) : LawfulLedger.balance ledger id = 0 := by
    show TimeFile.kept (TimeFile.inWorkingDirectory []).1.members id = 0
    simp [TimeFile.kept, TimeFile.inWorkingDirectory]
  obtain ⟨-, -, gainful, -, readings⟩ := totals_never_fall timeless ledger 0 5000 9999 earlier later trivial isOpen
    (fun id => (nothing id).ge) (by decide +kernel) (by decide +kernel) (by decide +kernel) (by decide +kernel)
  have last : after.1.seconds after.2 player 9999 = .ok 9223372036854775807 := by decide +kernel
  obtain ⟨fewer, first, -⟩ := (readings player).2 _ last
  have known : before.1.seconds before.2 player 5000 = .ok 5 := by decide +kernel
  cases first.symm.trans known
  exact ⟨first, by decide +kernel, last, by decide +kernel, by decide +kernel, gainful⟩

end Playtime.Sessions
