import Playtime.Proofs.Ledger.Lawful

namespace Playtime

def Totals.enter (totals : Totals) (entry : PlayerId × Int64) : Totals :=
  totals.insert entry.1 (addSat (totals.getD entry.1 0) entry.2)

theorem getD_enter (totals : Totals) (entry : PlayerId × Int64) (id : PlayerId) :
    (totals.enter entry).getD id 0 =
      if entry.1 = id then addSat (totals.getD id 0) entry.2 else totals.getD id 0 := by
  unfold Totals.enter
  rw [Std.ExtTreeMap.getD_insert]
  by_cases same : entry.1 = id
  · subst same
    simp
  · simp [same]

theorem getD_enterAll_of_absent (entries : List (PlayerId × Int64)) (totals : Totals) (id : PlayerId)
    (absent : ∀ entry ∈ entries, entry.1 ≠ id) :
    (entries.foldl Totals.enter totals).getD id 0 = totals.getD id 0 := by
  induction entries generalizing totals with
  | nil => rfl
  | cons entry entries ih =>
    rw [List.foldl_cons, ih _ fun other member => absent other (List.mem_cons_of_mem _ member), getD_enter,
      if_neg (absent entry (by simp))]

theorem getD_enterAll_of_mem (entries : List (PlayerId × Int64)) (totals : Totals) (id : PlayerId)
    (seconds : Int64) (distinct : entries.Pairwise fun first second => ¬ compare first.1 second.1 = .eq)
    (member : (id, seconds) ∈ entries) :
    (entries.foldl Totals.enter totals).getD id 0 = addSat (totals.getD id 0) seconds := by
  induction entries generalizing totals with
  | nil => cases member
  | cons entry entries ih =>
    obtain ⟨apart, distinct⟩ := List.pairwise_cons.mp distinct
    rw [List.foldl_cons]
    rcases List.mem_cons.mp member with rfl | member
    · rw [getD_enterAll_of_absent, getD_enter, if_pos rfl]
      intro other inside same
      exact apart other inside (by rw [same]; exact Std.ReflCmp.compare_self)
    · rw [ih _ distinct member, getD_enter, if_neg]
      intro same
      exact apart _ member (by rw [same]; exact Std.ReflCmp.compare_self)

theorem getD_merge (totals others : Totals) (id : PlayerId) :
    (totals.merge others).getD id 0 = addSat (totals.getD id 0) (others.getD id 0) := by
  show (others.toList.foldl Totals.enter totals).getD id 0 = _
  rw [Std.ExtTreeMap.getD_eq_getD_getElem? (t := others)]
  cases found : others[id]? with
  | some seconds =>
    have member := Std.ExtTreeMap.mem_toList_iff_getElem?_eq_some.mpr found
    exact getD_enterAll_of_mem _ _ _ _ Std.ExtTreeMap.distinct_keys_toList member
  | none =>
    rw [getD_enterAll_of_absent]
    · exact (addSat_zero _).symm
    · intro entry member same
      have known := Std.ExtTreeMap.mem_toList_iff_getElem?_eq_some.mp member
      rw [same, found] at known
      cases known

namespace Sessions

variable {σ : Type} [Ledger σ]

theorem getElem?_owed (sessions : Sessions) (now : Int64) (id : PlayerId) :
    (sessions.owed now)[id]? = (sessions.started[id]?).map fun started => owedSeconds started now :=
  Std.ExtTreeMap.getElem?_map

theorem getD_due (sessions : Sessions) (now : Int64) (id : PlayerId) :
    (sessions.due now).getD id 0 = addSat (sessions.live id now) (sessions.pending.getD id 0) := by
  unfold due live
  rw [getD_merge, Std.ExtTreeMap.getD_filter', getElem?_owed]
  cases sessions.started[id]? with
  | none => rfl
  | some started =>
    by_cases nothing : owedSeconds started now = 0
    · simp [nothing, Option.filter]
    · simp [nothing, Option.filter]

def parked (sessions : Sessions) (id : PlayerId) : Int := (sessions.pending.getD id 0).toInt

theorem parked_of_empty (started : Std.ExtTreeMap PlayerId Int64 compare) (id : PlayerId) :
    parked ⟨started, ∅⟩ id = 0 := by
  simp [parked]

theorem parked_park (sessions : Sessions) (id other : PlayerId) (seconds : Int64)
    (fits : Fits (sessions.parked id + seconds.toInt)) :
    (sessions.park id seconds).parked other = sessions.parked other + if id = other then seconds.toInt else 0 := by
  show ((sessions.pending.enter (id, seconds)).getD other 0).toInt = _
  rw [getD_enter]
  by_cases same : id = other
  · subst same
    simp only [if_true]
    exact fits.toInt_addSat
  · simp [same, parked]

theorem parkAll_eq (sessions : Sessions) (entries : List (PlayerId × Int64)) :
    sessions.parkAll entries = ⟨sessions.started, entries.foldl Totals.enter sessions.pending⟩ := by
  induction entries generalizing sessions with
  | nil => rfl
  | cons entry entries ih => exact ih (sessions.park entry.1 entry.2)

theorem parked_parkAll (started : Std.ExtTreeMap PlayerId Int64 compare) (batch : Totals) (id : PlayerId) :
    (parkAll ⟨started, ∅⟩ batch.toList).parked id = (batch.getD id 0).toInt := by
  have merged := getD_merge ∅ batch id
  rw [parkAll_eq]
  show ((Totals.merge ∅ batch).getD id 0).toInt = _
  rw [merged, Std.ExtTreeMap.getD_empty, zero_addSat]

/-- What one session owes is nothing, or it is credited, or it is parked because the ledger has refused it. -/
theorem settle_cases (sessions : Sessions) (ledger : σ) (id : PlayerId) (seconds : Int64) :
    (seconds = 0 ∧ sessions.settle ledger id seconds = (.ok (), sessions, ledger)) ∨
    (seconds ≠ 0 ∧ (Ledger.credit ledger id seconds).1 = .ok () ∧
      sessions.settle ledger id seconds = (.ok (), sessions, (Ledger.credit ledger id seconds).2)) ∨
    ∃ error, seconds ≠ 0 ∧ (Ledger.credit ledger id seconds).1 = .error error ∧
      sessions.settle ledger id seconds =
        (.error error, sessions.park id seconds, (Ledger.credit ledger id seconds).2) := by
  unfold settle
  by_cases nothing : seconds = 0
  · exact .inl ⟨nothing, if_pos nothing⟩
  · rw [if_neg nothing]
    rcases Ledger.credit ledger id seconds with ⟨error | _, after⟩
    · exact .inr (.inr ⟨error, nothing, rfl, rfl⟩)
    · exact .inr (.inl ⟨nothing, rfl, rfl⟩)

theorem settleAll_cases (sessions : Sessions) (ledger : σ) (batch : Totals) :
    (batch.toList = [] ∧ sessions.settleAll ledger batch = (.ok (), sessions, ledger)) ∨
    (batch.toList ≠ [] ∧ (Ledger.creditAll ledger batch.toList).1 = .ok () ∧
      sessions.settleAll ledger batch = (.ok (), sessions, (Ledger.creditAll ledger batch.toList).2)) ∨
    ∃ error, batch.toList ≠ [] ∧ (Ledger.creditAll ledger batch.toList).1 = .error error ∧
      sessions.settleAll ledger batch =
        (.error error, sessions.parkAll batch.toList, (Ledger.creditAll ledger batch.toList).2) := by
  unfold settleAll
  rw [← Std.ExtTreeMap.isEmpty_toList]
  by_cases empty : batch.toList = []
  · exact .inl ⟨empty, if_pos (List.isEmpty_iff.mpr empty)⟩
  · rw [if_neg fun none => empty (List.isEmpty_iff.mp none)]
    rcases Ledger.creditAll ledger batch.toList with ⟨error | _, after⟩
    · exact .inr (.inr ⟨error, empty, rfl, rfl⟩)
    · exact .inr (.inl ⟨empty, rfl, rfl⟩)

theorem started_settle (sessions : Sessions) (ledger : σ) (id : PlayerId) (seconds : Int64) :
    (sessions.settle ledger id seconds).2.1.started = sessions.started := by
  rcases sessions.settle_cases ledger id seconds with ⟨-, settled⟩ | ⟨-, -, settled⟩ | ⟨error, -, -, settled⟩ <;>
    exact settled ▸ rfl

theorem started_settleAll (sessions : Sessions) (ledger : σ) (batch : Totals) :
    (sessions.settleAll ledger batch).2.1.started = sessions.started := by
  rcases sessions.settleAll_cases ledger batch with ⟨-, settled⟩ | ⟨-, -, settled⟩ | ⟨error, -, -, settled⟩
  · rw [settled]
  · rw [settled]
  · rw [settled, parkAll_eq]

theorem sessions_settle (sessions : Sessions) (ledger : σ) (id : PlayerId) (seconds : Int64)
    (accepted : (sessions.settle ledger id seconds).1 = .ok ()) :
    (sessions.settle ledger id seconds).2.1 = sessions := by
  rcases sessions.settle_cases ledger id seconds with ⟨-, settled⟩ | ⟨-, -, settled⟩ | ⟨error, -, -, settled⟩
  · rw [settled]
  · rw [settled]
  · rw [settled] at accepted
    cases accepted

theorem sessions_settleAll (sessions : Sessions) (ledger : σ) (batch : Totals)
    (accepted : (sessions.settleAll ledger batch).1 = .ok ()) :
    (sessions.settleAll ledger batch).2.1 = sessions := by
  rcases sessions.settleAll_cases ledger batch with ⟨-, settled⟩ | ⟨-, -, settled⟩ | ⟨error, -, -, settled⟩
  · rw [settled]
  · rw [settled]
  · rw [settled] at accepted
    cases accepted

def KeptByCredits (property : σ → Prop) : Prop :=
  ∀ ledger deltas, property ledger → property (Ledger.creditAll ledger deltas).2

theorem ledger_settleAll {property : σ → Prop} (kept : KeptByCredits property) (sessions : Sessions) (ledger : σ)
    (batch : Totals) (holds : property ledger) : property (sessions.settleAll ledger batch).2.2 := by
  have step := kept ledger batch.toList holds
  rcases sessions.settleAll_cases ledger batch with ⟨-, settled⟩ | ⟨-, -, settled⟩ | ⟨error, -, -, settled⟩
  · rwa [settled]
  · rwa [settled]
  · rwa [settled]

variable [LawfulLedger σ]

/-- The seconds of a player that no session has any more: those in the ledger and those pending. -/
def saved (state : Sessions × σ) (id : PlayerId) : Int :=
  LawfulLedger.balance state.2 id + state.1.parked id

theorem ledger_settle {property : σ → Prop} (kept : KeptByCredits property) (sessions : Sessions) (ledger : σ)
    (id : PlayerId) (seconds : Int64) (holds : property ledger) :
    property (sessions.settle ledger id seconds).2.2 := by
  have step := kept ledger [(id, seconds)] holds
  rw [← LawfulLedger.credit_eq] at step
  rcases sessions.settle_cases ledger id seconds with ⟨-, settled⟩ | ⟨-, -, settled⟩ | ⟨error, -, -, settled⟩
  · rwa [settled]
  · rwa [settled]
  · rwa [settled]

theorem saved_settle (sessions : Sessions) (ledger : σ) (id other : PlayerId) (seconds : Int64)
    (sound : LawfulLedger.Sound ledger)
    (fits : (sessions.settle ledger id seconds).1 ≠ .ok () → Fits (sessions.parked id + seconds.toInt)) :
    saved (sessions.settle ledger id seconds).2 other =
      saved (sessions, ledger) other + if id = other then seconds.toInt else 0 := by
  have accepted := LawfulLedger.balance_accepted ledger [(id, seconds)] sound
  have refused := LawfulLedger.balance_refused ledger [(id, seconds)]
  simp only [← LawfulLedger.credit_eq, secondsFor_singleton] at accepted refused
  rcases sessions.settle_cases ledger id seconds with
    ⟨nothing, settled⟩ | ⟨-, taken, settled⟩ | ⟨error, -, failed, settled⟩
  · rw [settled]
    simp [nothing]
  · have step := accepted taken other
    rw [settled]
    dsimp only [saved]
    omega
  · have step := refused error failed other
    have room := parked_park sessions id other seconds (fits (by rw [settled]; simp))
    rw [settled]
    dsimp only [saved]
    omega

theorem saved_settleAll (started : Std.ExtTreeMap PlayerId Int64 compare) (ledger : σ) (batch : Totals)
    (id : PlayerId) (sound : LawfulLedger.Sound ledger) :
    saved (settleAll ⟨started, ∅⟩ ledger batch).2 id =
      LawfulLedger.balance ledger id + (batch.getD id 0).toInt := by
  have accepted := LawfulLedger.balance_accepted ledger batch.toList sound
  have refused := LawfulLedger.balance_refused ledger batch.toList
  simp only [secondsFor_toList] at accepted
  have none := parked_of_empty started id
  rcases settleAll_cases ⟨started, ∅⟩ ledger batch with
    ⟨empty, settled⟩ | ⟨-, taken, settled⟩ | ⟨error, -, failed, settled⟩
  · have zero := secondsFor_toList id batch
    rw [empty] at zero
    rw [settled, ← zero]
    exact congrArg (LawfulLedger.balance ledger id + ·) none
  · have step := accepted taken id
    rw [settled]
    dsimp only [saved]
    omega
  · have step := refused error failed id
    have all := parked_parkAll started batch id
    rw [settled]
    dsimp only [saved]
    omega

end Sessions

end Playtime
