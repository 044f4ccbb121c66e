import Playtime.Proofs.Site.Deeds

namespace Playtime

namespace Sessions

variable {σ : Type}

structure Matches (related : σ → σ → Prop) (result result' : Except StorageError Unit × Sessions × σ) : Prop where
  outcome : result'.1 = result.1
  sessions : result'.2.1 = result.2.1
  ledger : related result.2.2 result'.2.2

variable {related : σ → σ → Prop} {ledger other : σ}

theorem Matches.of_same (outcome : Except StorageError Unit) (sessions : Sessions) (alike : related ledger other) :
    Matches related (outcome, sessions, ledger) (outcome, sessions, other) := ⟨rfl, rfl, alike⟩

variable [Ledger σ]

/-- Related ledgers answer every batch alike and are related still. -/
def InStep (related : σ → σ → Prop) : Prop :=
  ∀ ledger other deltas, related ledger other →
    (Ledger.creditAll other deltas).1 = (Ledger.creditAll ledger deltas).1 ∧
      related (Ledger.creditAll ledger deltas).2 (Ledger.creditAll other deltas).2

theorem settleAll_matches (step : InStep related) (sessions : Sessions) (batch : Totals)
    (alike : related ledger other) :
    Matches related (sessions.settleAll ledger batch) (sessions.settleAll other batch) := by
  obtain ⟨outcome, after⟩ := step ledger other batch.toList alike
  unfold settleAll
  split
  · exact .of_same _ _ alike
  · generalize Ledger.creditAll ledger batch.toList = result at *
    generalize Ledger.creditAll other batch.toList = result' at *
    obtain ⟨credited, ledger⟩ := result
    obtain ⟨credited', other⟩ := result'
    cases outcome
    cases credited <;> exact .of_same _ _ after

variable [LawfulLedger σ]

theorem credit_matches (step : InStep related) (id : PlayerId) (delta : Int64) (alike : related ledger other) :
    (Ledger.credit other id delta).1 = (Ledger.credit ledger id delta).1 ∧
      related (Ledger.credit ledger id delta).2 (Ledger.credit other id delta).2 := by
  rw [LawfulLedger.credit_eq, LawfulLedger.credit_eq]
  exact step ledger other [(id, delta)] alike

theorem settle_matches (step : InStep related) (sessions : Sessions) (id : PlayerId) (seconds : Int64)
    (alike : related ledger other) :
    Matches related (sessions.settle ledger id seconds) (sessions.settle other id seconds) := by
  obtain ⟨outcome, after⟩ := credit_matches step id seconds alike
  unfold settle
  split
  · exact .of_same _ _ alike
  · generalize Ledger.credit ledger id seconds = result at *
    generalize Ledger.credit other id seconds = result' at *
    obtain ⟨credited, ledger⟩ := result
    obtain ⟨credited', other⟩ := result'
    cases outcome
    cases credited <;> exact .of_same _ _ after

theorem perform_matches (step : InStep related) (sessions : Sessions) (call : Call) (alike : related ledger other) :
    Matches related (perform (sessions, ledger) call) (perform (sessions, other) call) := by
  cases call with
  | start id now => exact settle_matches step _ _ _ alike
  | stop id now => exact settle_matches step _ _ _ alike
  | flush now => exact settleAll_matches step _ _ alike
  | add id delta =>
    obtain ⟨outcome, after⟩ := credit_matches step id delta alike
    show Matches related (sessions.add ledger id delta) (sessions.add other id delta)
    unfold add
    split
    · exact .of_same _ _ alike
    · exact .of_same _ _ alike
    · exact ⟨outcome, rfl, after⟩
  | addAll deltas =>
    show Matches related (sessions.addAll ledger deltas) (sessions.addAll other deltas)
    unfold addAll
    split
    · exact .of_same _ _ alike
    · exact .of_same _ _ alike
    · next direct absorbed _ _ =>
      obtain ⟨outcome, after⟩ := step ledger other direct alike
      exact ⟨outcome, rfl, after⟩

theorem use_matches (step : InStep related)
    (closes : ∀ ledger other, related ledger other → related (Ledger.close ledger) (Ledger.close other))
    (sessions : Sessions) (what : Use) (alike : related ledger other) :
    (use (sessions, other) what).1 = (use (sessions, ledger) what).1 ∧
      related (use (sessions, ledger) what).2 (use (sessions, other) what).2 := by
  cases what with
  | call call =>
    have matched := perform_matches step sessions call alike
    exact ⟨matched.sessions, matched.ledger⟩
  | close now =>
    have settled := settleAll_matches step empty (sessions.due now) alike
    exact ⟨settled.sessions, closes _ _ settled.ledger⟩
  | credit id delta => exact ⟨rfl, (credit_matches step id delta alike).2⟩
  | creditAll deltas => exact ⟨rfl, (step ledger other deltas alike).2⟩
  | closeLedger => exact ⟨rfl, closes _ _ alike⟩

end Sessions

namespace Backend

def recorded (state : Backend × Host) (statistic : Sql.Statistic) : Backend × Host :=
  match state.1.timeStore? with
  | some store => (state.1, (store.storeStatistic state.2 statistic).2)
  | none => state

/-- Whatever is done through two related backends leaves them related, and their ledgers answer alike. -/
structure Parallel (related : Backend × Host → Backend × Host → Prop) : Prop where
  credits : Sessions.InStep related
  closes (state other : Backend × Host) (alike : related state other) :
    related (Ledger.close state) (Ledger.close other)
  names (state other : Backend × Host) (call : NameCall) (alike : related state other) :
    related (act state call).2 (act other call).2
  closesNames (state other : Backend × Host) (alike : related state other) :
    related (state.1.closeNames, state.2) (other.1.closeNames, other.2)
  records (state other : Backend × Host) (statistic : Sql.Statistic) (alike : related state other) :
    related (recorded state statistic) (recorded other statistic)

structure Keeps (property : Backend × Host → Prop) : Prop where
  credits : Sessions.KeptByCredits property
  closes (state : Backend × Host) (holds : property state) : property (Ledger.close state)
  names (state : Backend × Host) (call : NameCall) (holds : property state) : property (act state call).2
  closesNames (state : Backend × Host) (holds : property state) : property (state.1.closeNames, state.2)
  records (state : Backend × Host) (statistic : Sql.Statistic) (holds : property state) :
    property (recorded state statistic)

end Backend

namespace Deed

theorem act_record (state : Sessions × Backend × Host) (statistic : Sql.Statistic) :
    Deed.act state (.record statistic) = (state.1, Backend.recorded state.2 statistic) := by
  obtain ⟨sessions, backend, host⟩ := state
  cases backend <;> rfl

theorem act_parallel {related : Backend × Host → Backend × Host → Prop} (parallel : Backend.Parallel related)
    (sessions : Sessions) {state other : Backend × Host} (alike : related state other) (deed : Deed) :
    (deed.act (sessions, other)).1 = (deed.act (sessions, state)).1 ∧
      related (deed.act (sessions, state)).2 (deed.act (sessions, other)).2 := by
  cases deed with
  | use what => exact Sessions.use_matches parallel.credits parallel.closes sessions what alike
  | name call => exact ⟨rfl, parallel.names state other call alike⟩
  | closeNames => exact ⟨rfl, parallel.closesNames state other alike⟩
  | record statistic =>
    rw [act_record, act_record]
    exact ⟨rfl, parallel.records state other statistic alike⟩

theorem act_keeps {property : Backend × Host → Prop} (keeps : Backend.Keeps property)
    (state : Sessions × Backend × Host) (holds : property state.2) (deed : Deed) : property (deed.act state).2 := by
  cases deed with
  | use what => exact Sessions.ledger_use keeps.credits keeps.closes state what holds
  | name call => exact keeps.names state.2 call holds
  | closeNames => exact keeps.closesNames state.2 holds
  | record statistic =>
    rw [act_record]
    exact keeps.records state.2 statistic holds

end Deed

end Playtime
