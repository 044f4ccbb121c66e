import Playtime.Proofs.Ledger.SharedStores
import Playtime.Proofs.Sessions.Calls
import Playtime.Proofs.Sessions.Sums

namespace Playtime.Sessions

variable {σ τ : Type} [Ledger σ] [Ledger τ]

def liveBatch (sessions : Sessions) (id : PlayerId) (now : Int64) : List (PlayerId × Int64) :=
  if sessions.live id now = 0 then [] else [(id, sessions.live id now)]

/-- What a call hands to the ledger, unless a session refuses its part, and the sessions once that is credited. -/
def handOver (sessions : Sessions) : Call → Except StorageError (List (PlayerId × Int64)) × Sessions
  | .start id now => (.ok (sessions.liveBatch id now), { sessions with started := sessions.started.insert id now })
  | .stop id now => (.ok (sessions.liveBatch id now), { sessions with started := sessions.started.erase id })
  | .flush now =>
    (.ok (sessions.due now).toList, ⟨sessions.started.map fun _ started => advance started now, ∅⟩)
  | .add id delta => sessions.absorbAll [(id, delta)]
  | .addAll deltas => sessions.absorbAll deltas

def Takes (ledger : σ) : List (PlayerId × Int64) → Prop
  | [] => True
  | entry :: batch => (Ledger.creditAll ledger (entry :: batch)).1 = .ok ()

instance (ledger : σ) (batch : List (PlayerId × Int64)) : Decidable (Takes ledger batch) :=
  match batch with
  | [] => .isTrue trivial
  | _ :: _ => decidable_of_iff _ isOk_iff

def credited (ledger : σ) : List (PlayerId × Int64) → σ
  | [] => ledger
  | entry :: batch => (Ledger.creditAll ledger (entry :: batch)).2

def Served (state : Sessions × σ) (call : Call) : Prop :=
  ∀ batch ∈ (handOver state.1 call).1.toOption, Takes state.2 batch

instance (state : Sessions × σ) (call : Call) : Decidable (Served state call) :=
  inferInstanceAs (Decidable (∀ _ ∈ _, _))

section Clocks

variable (at₁ : Int64 → σ → σ) (at₂ : Int64 → τ → τ)

def runAt (state : Sessions × σ) : List (Int64 × Call) → Sessions × σ
  | [] => state
  | (clock, call) :: later => runAt (perform (state.1, at₁ clock state.2) call).2 later

def outcomesAt (state : Sessions × σ) : List (Int64 × Call) → List (Except StorageError Unit)
  | [] => []
  | (clock, call) :: later =>
    (perform (state.1, at₁ clock state.2) call).1 :: outcomesAt (perform (state.1, at₁ clock state.2) call).2 later

def ServedAt (state : Sessions × σ) : List (Int64 × Call) → Prop
  | [] => True
  | (clock, call) :: later =>
    Served (state.1, at₁ clock state.2) call ∧ ServedAt (perform (state.1, at₁ clock state.2) call).2 later

instance decidableServedAt (state : Sessions × σ) (calls : List (Int64 × Call)) :
    Decidable (ServedAt at₁ state calls) :=
  match calls with
  | [] => .isTrue trivial
  | (clock, call) :: later =>
    have := decidableServedAt (perform (state.1, at₁ clock state.2) call).2 later
    inferInstanceAs (Decidable (_ ∧ _))

theorem ServedAt.of_prefix {state : Sessions × σ} {made calls : List (Int64 × Call)} (part : made <+: calls)
    (served : ServedAt at₁ state calls) : ServedAt at₁ state made := by
  obtain ⟨later, rfl⟩ := part
  induction made generalizing state with
  | nil => trivial
  | cons entry made ih => exact ⟨served.1, ih served.2⟩

end Clocks

theorem creditAll_of_takes (ledger : σ) (entry : PlayerId × Int64) (batch : List (PlayerId × Int64))
    (taken : Takes ledger (entry :: batch)) :
    Ledger.creditAll ledger (entry :: batch) = (.ok (), credited ledger (entry :: batch)) :=
  Prod.ext taken rfl

theorem takes_of_ne_nil {ledger : σ} {batch : List (PlayerId × Int64)} (some : batch ≠ []) :
    Takes ledger batch ↔ (Ledger.creditAll ledger batch).1 = .ok () := by
  cases batch with
  | nil => exact absurd rfl some
  | cons entry rest => exact .rfl

theorem credited_of_ne_nil {ledger : σ} {batch : List (PlayerId × Int64)} (some : batch ≠ []) :
    credited ledger batch = (Ledger.creditAll ledger batch).2 := by
  cases batch with
  | nil => exact absurd rfl some
  | cons entry rest => rfl

theorem settleAll_eq (sessions : Sessions) (ledger : σ) (batch : Totals) :
    (sessions.settleAll ledger batch).2.2 = credited ledger batch.toList := by
  rcases sessions.settleAll_cases ledger batch with ⟨empty, settled⟩ | ⟨some, -, settled⟩ | ⟨error, some, -, settled⟩
  · rw [settled, empty]
    rfl
  · rw [settled, credited_of_ne_nil some]
  · rw [settled, credited_of_ne_nil some]

theorem settleAll_eq_ok_iff (sessions : Sessions) (ledger : σ) (batch : Totals) :
    (sessions.settleAll ledger batch).1 = .ok () ↔ Takes ledger batch.toList := by
  rcases sessions.settleAll_cases ledger batch with
    ⟨empty, settled⟩ | ⟨some, taken, settled⟩ | ⟨error, some, failed, settled⟩
  · rw [settled, empty]
    exact ⟨fun _ => trivial, fun _ => rfl⟩
  · rw [settled, takes_of_ne_nil some, taken]
  · rw [settled, takes_of_ne_nil some, failed]

theorem settleAll_of_takes (sessions : Sessions) (ledger : σ) (batch : Totals) (taken : Takes ledger batch.toList) :
    sessions.settleAll ledger batch = (.ok (), sessions, credited ledger batch.toList) := by
  have accepted := (sessions.settleAll_eq_ok_iff ledger batch).mpr taken
  have kept := sessions.sessions_settleAll ledger batch accepted
  exact Prod.ext accepted (Prod.ext kept (sessions.settleAll_eq ledger batch))

theorem addAll_of_takes (sessions : Sessions) (ledger : σ) (deltas : List (PlayerId × Int64))
    (taken : ∀ left, (sessions.absorbAll deltas).1 = .ok left → Takes ledger left) :
    sessions.addAll ledger deltas =
      match sessions.absorbAll deltas with
      | (.error error, after) => (.error error, after, ledger)
      | (.ok left, after) => (.ok (), after, credited ledger left) := by
  unfold addAll
  generalize sessions.absorbAll deltas = split at *
  obtain ⟨outcome, after⟩ := split
  cases outcome with
  | error error => rfl
  | ok left =>
    cases left with
    | nil => rfl
    | cons entry left =>
      dsimp only
      rw [creditAll_of_takes ledger entry left (taken _ rfl)]

variable [LawfulLedger σ] [LawfulLedger τ]

theorem settle_of_takes (sessions after : Sessions) (ledger : σ) (id : PlayerId) (now : Int64)
    (taken : Takes ledger (sessions.liveBatch id now)) :
    after.settle ledger id (sessions.live id now) = (.ok (), after, credited ledger (sessions.liveBatch id now)) := by
  unfold liveBatch settle at *
  by_cases nothing : sessions.live id now = 0
  · rw [if_pos nothing, if_pos nothing]
    rfl
  · rw [if_neg nothing] at taken
    rw [if_neg nothing, if_neg nothing, LawfulLedger.credit_eq, creditAll_of_takes ledger _ _ taken]

theorem add_eq_addAll (sessions : Sessions) (ledger : σ) (id : PlayerId) (delta : Int64) :
    sessions.add ledger id delta = sessions.addAll ledger [(id, delta)] := by
  unfold add addAll absorbAll absorbAll
  rw [LawfulLedger.credit_eq]
  cases sessions.absorb id delta with
  | error error => rfl
  | ok absorbed => cases absorbed <;> rfl

/-- A call whose batch the ledger takes changes sessions and ledger each on its own. -/
theorem perform_of_served (state : Sessions × σ) (call : Call) (served : Served state call) :
    perform state call =
      match handOver state.1 call with
      | (.error error, after) => (.error error, after, state.2)
      | (.ok batch, after) => (.ok (), after, credited state.2 batch) := by
  have taken : ∀ batch, (handOver state.1 call).1 = .ok batch → Takes state.2 batch := by
    intro batch handed
    exact served batch (by rw [handed]; rfl)
  cases call with
  | start id now => exact settle_of_takes state.1 _ state.2 id now (taken _ rfl)
  | stop id now => exact settle_of_takes state.1 _ state.2 id now (taken _ rfl)
  | flush now => exact settleAll_of_takes _ state.2 _ (taken _ rfl)
  | add id delta => exact (add_eq_addAll state.1 state.2 id delta).trans (addAll_of_takes state.1 state.2 _ taken)
  | addAll deltas => exact addAll_of_takes state.1 state.2 deltas taken

theorem balance_credited (ledger : σ) (batch : List (PlayerId × Int64)) (sound : LawfulLedger.Sound ledger)
    (taken : Takes ledger batch) (id : PlayerId) :
    LawfulLedger.balance (credited ledger batch) id = LawfulLedger.balance ledger id + secondsFor id batch := by
  cases batch with
  | nil => exact (Int.add_zero _).symm
  | cons entry batch => exact LawfulLedger.balance_accepted ledger (entry :: batch) sound taken id

structure Abreast (first : Sessions × σ) (second : Sessions × τ) : Prop where
  sessions : first.1 = second.1
  balance (id : PlayerId) : LawfulLedger.balance first.2 id = LawfulLedger.balance second.2 id

variable {first : Sessions × σ} {second : Sessions × τ}

theorem Abreast.perform (abreast : Abreast first second) (call : Call)
    (sound₁ : LawfulLedger.Sound first.2) (sound₂ : LawfulLedger.Sound second.2)
    (served₁ : Served first call) (served₂ : Served second call) :
    (Sessions.perform first call).1 = (Sessions.perform second call).1 ∧
      Abreast (Sessions.perform first call).2 (Sessions.perform second call).2 := by
  obtain ⟨sessions, ledger₁⟩ := first
  obtain ⟨others, ledger₂⟩ := second
  obtain ⟨same, balance⟩ := abreast
  dsimp only at *
  subst same
  rw [perform_of_served _ call served₁, perform_of_served _ call served₂]
  unfold Served at *
  dsimp only at *
  generalize sessions.handOver call = handed at *
  obtain ⟨outcome, after⟩ := handed
  cases outcome with
  | error error => exact ⟨rfl, rfl, balance⟩
  | ok batch =>
    refine ⟨rfl, rfl, fun id => ?_⟩
    dsimp only
    rw [balance_credited ledger₁ batch sound₁ (served₁ batch rfl), balance_credited ledger₂ batch sound₂
      (served₂ batch rfl), balance]

structure Timeless (at₁ : Int64 → σ → σ) : Prop where
  sound {ledger : σ} (clock : Int64) (sound : LawfulLedger.Sound ledger) : LawfulLedger.Sound (at₁ clock ledger)
  isOpen {ledger : σ} (clock : Int64) (isOpen : LawfulLedger.IsOpen ledger) : LawfulLedger.IsOpen (at₁ clock ledger)
  balance (ledger : σ) (clock : Int64) (id : PlayerId) :
    LawfulLedger.balance (at₁ clock ledger) id = LawfulLedger.balance ledger id

variable {at₁ : Int64 → σ → σ} {at₂ : Int64 → τ → τ}

theorem Abreast.run (abreast : Abreast first second) (timeless₁ : Timeless at₁) (timeless₂ : Timeless at₂)
    (calls : List (Int64 × Call)) (sound₁ : LawfulLedger.Sound first.2) (sound₂ : LawfulLedger.Sound second.2)
    (served₁ : ServedAt at₁ first calls) (served₂ : ServedAt at₂ second calls) :
    outcomesAt at₁ first calls = outcomesAt at₂ second calls ∧
      Abreast (runAt at₁ first calls) (runAt at₂ second calls) := by
  induction calls generalizing first second with
  | nil => exact ⟨rfl, abreast⟩
  | cons entry later ih =>
    obtain ⟨clock, call⟩ := entry
    have met : Abreast (first.1, at₁ clock first.2) (second.1, at₂ clock second.2) :=
      ⟨abreast.sessions, fun id => by rw [timeless₁.balance, timeless₂.balance, abreast.balance]⟩
    have step := met.perform call (timeless₁.sound clock sound₁) (timeless₂.sound clock sound₂) served₁.1 served₂.1
    have rest := ih step.2 (ledger_perform sound_kept _ call (timeless₁.sound clock sound₁))
      (ledger_perform sound_kept _ call (timeless₂.sound clock sound₂)) served₁.2 served₂.2
    exact ⟨congrArg₂ _ step.1 rest.1, rest.2⟩

theorem isOpen_runAt (timeless : Timeless at₁) (state : Sessions × σ) (calls : List (Int64 × Call))
    (isOpen : LawfulLedger.IsOpen state.2) : LawfulLedger.IsOpen (runAt at₁ state calls).2 := by
  induction calls generalizing state with
  | nil => exact isOpen
  | cons entry later ih => exact ih _ (ledger_perform isOpen_kept _ entry.2 (timeless.isOpen entry.1 isOpen))

theorem Abreast.seconds (abreast : Abreast first second) (id : PlayerId) (now : Int64)
    (isOpen₁ : LawfulLedger.IsOpen first.2) (isOpen₂ : LawfulLedger.IsOpen second.2)
    (fits : Fits (LawfulLedger.balance first.2 id)) :
    ∃ seconds, first.1.seconds first.2 id now = .ok seconds ∧ second.1.seconds second.2 id now = .ok seconds := by
  obtain ⟨stored₁, read₁⟩ := LawfulLedger.seconds?_of_isOpen first.2 id isOpen₁ fits
  obtain ⟨stored₂, read₂⟩ := LawfulLedger.seconds?_of_isOpen second.2 id isOpen₂ (abreast.balance id ▸ fits)
  have balance₁ := LawfulLedger.balance_of_seconds? first.2 id stored₁ read₁
  have balance₂ := LawfulLedger.balance_of_seconds? second.2 id stored₂ read₂
  have same : stored₁.getD 0 = stored₂.getD 0 :=
    Int64.toInt_inj.mp (by rw [balance₁, balance₂, abreast.balance id])
  refine ⟨_, by rw [Sessions.seconds, read₁], ?_⟩
  rw [Sessions.seconds, read₂, ← abreast.sessions, same]

def filedAt (_ : Int64) (state : TimeFile × Disk) : TimeFile × Disk := state

def tabledAt (clock : Int64) (state : Sql.Store × Host) : Sql.Store × Host := (state.1, state.2.showing clock)

theorem timeless_filedAt : Timeless filedAt := ⟨fun _ sound => sound, fun _ isOpen => isOpen, fun _ _ _ => rfl⟩

theorem timeless_tabledAt : Timeless tabledAt := ⟨fun _ sound => sound, fun _ isOpen => isOpen, fun _ _ _ => rfl⟩

/--
Sessions over an empty file and sessions over a database without intervals answer the same calls alike and tell the
same times after each of them, as long as neither ledger refuses a write. What the wall clock shows when the database
records an interval makes no difference, nor does the order in which either goes through what is not saved, unless
something is clipped on the way.
-/
theorem file_and_database_tell_same_times (times : TimeFile) (disk : Disk) (store : Sql.Store) (host : Host)
    (tables : Sql.Tables) (calls : List (Int64 × Call))
    (isOpen₁ : times.isOpen = true) (empty₁ : times.members = ∅)
    (isOpen₂ : store.isOpen = true) (held : store.tables? host = some tables) (empty₂ : tables.intervals = [])
    (served₁ : ServedAt filedAt (Sessions.empty, times, disk) calls)
    (served₂ : ServedAt tabledAt (Sessions.empty, store, host) calls) :
    outcomesAt filedAt (Sessions.empty, times, disk) calls = outcomesAt tabledAt (Sessions.empty, store, host) calls ∧
    ∀ made, made <+: calls →
      let filed := runAt filedAt (Sessions.empty, times, disk) made
      let tabled := runAt tabledAt (Sessions.empty, store, host) made
      (∀ id, filed.1.isAccumulating id = tabled.1.isAccumulating id) ∧
      (∀ orders now, filed.1.unsaved orders now = tabled.1.unsaved orders now) ∧
      (∀ orders orders' now, AddUp (filed.1.unsavedParts orders now) → AddUp (tabled.1.unsavedParts orders' now) →
        filed.1.unsaved orders now = tabled.1.unsaved orders' now) ∧
      ∀ id now, ∃ seconds,
        filed.1.seconds filed.2 id now = .ok seconds ∧ tabled.1.seconds tabled.2 id now = .ok seconds := by
  have open₁ : LawfulLedger.IsOpen (times, disk) := isOpen₁
  have open₂ : LawfulLedger.IsOpen (store, host) := ⟨isOpen₂, by rw [held]; rfl⟩
  have sound₁ : LawfulLedger.Sound (times, disk) := trivial
  have sound₂ : LawfulLedger.Sound (store, host) := by
    intro others found row member
    rw [held] at found
    cases found
    rw [empty₂] at member
    cases member
  have abreast : Abreast (Sessions.empty, times, disk) (Sessions.empty, store, host) := by
    refine ⟨rfl, fun id => ?_⟩
    show TimeFile.kept times.members id = store.kept host id
    have filed : TimeFile.kept times.members id = 0 := by simp [TimeFile.kept, empty₁]
    have tabled : store.kept host id = 0 := by
      simp [Sql.Store.kept, held, Sql.Tables.kept, Sql.Tables.secondsOf?_of_no_intervals tables id.toBytes empty₂]
    rw [filed, tabled]
  refine ⟨(abreast.run timeless_filedAt timeless_tabledAt calls sound₁ sound₂ served₁ served₂).1,
    fun made part => ?_⟩
  have reached := (abreast.run timeless_filedAt timeless_tabledAt made sound₁ sound₂ (served₁.of_prefix _ part)
    (served₂.of_prefix _ part)).2
  refine ⟨fun id => by rw [reached.sessions], fun orders now => by rw [reached.sessions],
    fun orders orders' now adds adds' => ?_, fun id now => ?_⟩
  · rw [← reached.sessions] at adds' ⊢
    exact unsaved_reordered adds adds'
  · exact reached.seconds id now (isOpen_runAt timeless_filedAt _ made open₁)
      (isOpen_runAt timeless_tabledAt _ made open₂) (fits_toInt _)

/-- A debit is recorded fifty years after a credit, and one credit is more than a session can be moved by. -/
theorem file_and_database_tell_same_times_of_debit :
    let player : PlayerId := ⟨7⟩
    let other : PlayerId := ⟨8⟩
    let files := TimeFile.inWorkingDirectory []
    let store : Sql.Store := ⟨0, "ot_", 0, true⟩
    let host : Host := ⟨.empty, [(∅ : Sql.Database).createTables "ot_"], 0⟩
    let calls : List (Int64 × Call) := [(0, .start player 1000), (0, .addAll [(player, 60), (other, 100), (⟨9⟩, 0)]),
      (1600000000000, .add other (-140)), (5000, .flush 3500), (5000, .add player 9223372036854775807)]
    ServedAt filedAt (Sessions.empty, files) calls ∧ ServedAt tabledAt (Sessions.empty, store, host) calls ∧
      let filed := runAt filedAt (Sessions.empty, files) calls
      let tabled := runAt tabledAt (Sessions.empty, store, host) calls
      filed.1.seconds filed.2 player 9000 = .ok 68 ∧ tabled.1.seconds tabled.2 player 9000 = .ok 68 ∧
        filed.1.seconds filed.2 other 9000 = .ok (-40) ∧ tabled.1.seconds tabled.2 other 9000 = .ok (-40) := by
  intro player other files store host calls
  have served₁ : ServedAt filedAt (Sessions.empty, files) calls := by decide +kernel
  have served₂ : ServedAt tabledAt (Sessions.empty, store, host) calls := by decide +kernel
  have held : store.tables? host = some .empty := by decide +kernel
  obtain ⟨-, told⟩ := file_and_database_tell_same_times files.1 files.2 store host .empty calls rfl rfl rfl held rfl
    served₁ served₂
  obtain ⟨-, -, -, same⟩ := told calls (List.prefix_refl calls)
  refine ⟨served₁, served₂, ?_⟩
  intro filed tabled
  obtain ⟨first, read₁, reread₁⟩ := same player 9000
  obtain ⟨second, read₂, reread₂⟩ := same other 9000
  have known₁ : filed.1.seconds filed.2 player 9000 = .ok 68 := by decide +kernel
  have known₂ : filed.1.seconds filed.2 other 9000 = .ok (-40) := by decide +kernel
  cases read₁.symm.trans known₁
  cases read₂.symm.trans known₂
  exact ⟨read₁, reread₁, read₂, reread₂⟩

end Playtime.Sessions
