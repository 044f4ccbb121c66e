import Playtime.Proofs.Ledger.Lawful
import Playtime.Sql.Store

namespace Playtime.Sql

theorem sum_append (first second : List IntervalRow) :
    IntervalRow.sum (first ++ second) = IntervalRow.sum first + IntervalRow.sum second := by
  induction first with
  | nil => simp [IntervalRow.sum]
  | cons row first ih =>
    simp only [List.cons_append, IntervalRow.sum, ih]
    omega

namespace Tables

/-- Every interval belongs to a player row, so that a new row starts without any. -/
def Owned (tables : Tables) : Prop := ∀ row ∈ tables.intervals, row.player < tables.players.length

def kept (tables : Tables) (key : Key) : Int := (tables.secondsOf? key).getD 0

theorem secondsOf?_of_row (tables : Tables) (key : Key) (player : Nat)
    (row : (tables.players.findIdx? fun row => row.key = key) = some player) :
    tables.secondsOf? key = sum? (tables.intervalsOf player) := by
  unfold secondsOf?
  rw [row]

theorem secondsOf?_of_no_row (tables : Tables) (key : Key)
    (absent : (tables.players.findIdx? fun row => row.key = key) = none) : tables.secondsOf? key = none := by
  unfold secondsOf?
  rw [absent]

theorem getD_sum? (rows : List IntervalRow) : (sum? rows).getD 0 = IntervalRow.sum rows := by
  unfold sum?
  split
  · next none =>
    rw [List.isEmpty_iff.mp none]
    rfl
  · rfl

theorem Owned.ensurePlayer {tables : Tables} (owned : tables.Owned) (key : Key) :
    (tables.ensurePlayer key).Owned := by
  unfold Tables.ensurePlayer
  split
  · exact owned
  · intro row member
    have inside := owned row member
    simp only [List.length_append, List.length_singleton]
    omega

theorem row_of_ensurePlayer (tables : Tables) (key : Key) :
    ∃ player, ((tables.ensurePlayer key).players.findIdx? fun row => row.key = key) = some player := by
  apply Option.isSome_iff_exists.mp
  rw [List.findIdx?_isSome]
  unfold Tables.ensurePlayer
  split
  · assumption
  · simp

theorem secondsOf?_ensurePlayer (tables : Tables) (key other : Key) (owned : tables.Owned) :
    (tables.ensurePlayer key).secondsOf? other = tables.secondsOf? other := by
  unfold Tables.ensurePlayer
  split
  · rfl
  · next absent =>
    cases known : tables.players.findIdx? fun row => row.key = other with
    | some player =>
      rw [secondsOf?_of_row _ _ player known,
        secondsOf?_of_row _ _ player (by simp [List.findIdx?_append, known])]
      rfl
    | none =>
      rw [secondsOf?_of_no_row _ _ known]
      by_cases same : key = other
      · -- The new row's number is past the number of every row that has an interval.
        rw [secondsOf?_of_row _ _ tables.players.length (by simp [List.findIdx?_append, known, same])]
        have none : tables.intervals.filter (fun row => row.player = tables.players.length) = [] := by
          rw [List.filter_eq_nil_iff]
          intro row member
          have inside := owned row member
          simp only [decide_eq_true_eq]
          omega
        unfold intervalsOf
        dsimp only
        rw [none]
        rfl
      · exact secondsOf?_of_no_row _ _ (by simp [List.findIdx?_append, known, same])

theorem Owned.insertInterval {tables : Tables} (owned : tables.Owned) (key : Key) (world : Nat)
    (joined left : Timestamp) : (tables.insertInterval key world joined left).Owned := by
  unfold Tables.insertInterval
  split
  · exact owned
  · next player known =>
    intro row member
    rcases List.mem_append.mp member with member | member
    · exact owned row member
    · rw [List.mem_singleton.mp member]
      exact (List.findIdx?_eq_some_iff_getElem.mp known).1

theorem secondsOf?_insertInterval (tables : Tables) (key other : Key) (world player : Nat) (joined left : Timestamp)
    (known : (tables.players.findIdx? fun row => row.key = key) = some player) :
    (tables.insertInterval key world joined left).secondsOf? other =
      if key = other then some (tables.kept other + (left.seconds - joined.seconds)) else tables.secondsOf? other := by
  unfold Tables.insertInterval
  rw [known]
  dsimp only
  cases found : tables.players.findIdx? fun row => row.key = other with
  | none =>
    have apart : key ≠ other := by
      intro same
      rw [same, found] at known
      cases known
    rw [secondsOf?_of_no_row tables _ found, secondsOf?_of_no_row _ _ (by exact found), if_neg apart]
  | some place =>
    obtain ⟨_, held, _⟩ := List.findIdx?_eq_some_iff_getElem.mp known
    obtain ⟨_, sought, _⟩ := List.findIdx?_eq_some_iff_getElem.mp found
    rw [kept, secondsOf?_of_row tables _ place found, secondsOf?_of_row _ _ place (by exact found), getD_sum?]
    unfold intervalsOf
    dsimp only
    rw [List.filter_append]
    by_cases same : key = other
    · have meets : player = place := by
        rw [same, found] at known
        exact (Option.some.inj known).symm
      rw [if_pos same, meets]
      simp [sum?, sum_append, IntervalRow.sum, IntervalRow.seconds]
    · have apart : player ≠ place := by
        intro meets
        subst meets
        simp only [decide_eq_true_eq] at held sought
        exact same (held.symm.trans sought)
      simp [same, apart]

end Tables

namespace Store

def lengthFor (id : PlayerId) (left : Int) : List (PlayerId × Timestamp) → Int
  | [] => 0
  | (other, joined) :: rest => (if other = id then left - joined.seconds else 0) + lengthFor id left rest

theorem owned_record (tables : Tables) (world : Nat) (left : Timestamp)
    (intervals : List (PlayerId × Timestamp)) (owned : tables.Owned) :
    (record tables world left intervals).Owned := by
  induction intervals generalizing tables with
  | nil => exact owned
  | cons entry rest ih => exact ih _ ((owned.ensurePlayer _).insertInterval _ _ _ _)

theorem lengthFor_of_absent (id : PlayerId) (left : Int) (intervals : List (PlayerId × Timestamp))
    (absent : id ∉ intervals.map Prod.fst) : lengthFor id left intervals = 0 := by
  induction intervals with
  | nil => rfl
  | cons entry rest ih =>
    rw [List.map_cons, List.mem_cons, not_or] at absent
    obtain ⟨apart, absent⟩ := absent
    rw [lengthFor, if_neg (Ne.symm apart), ih absent]
    rfl

theorem secondsOf?_record (tables : Tables) (world : Nat) (left : Timestamp) (id : PlayerId)
    (intervals : List (PlayerId × Timestamp)) (owned : tables.Owned) :
    (record tables world left intervals).secondsOf? id.toBytes =
      if id ∈ intervals.map Prod.fst then some (tables.kept id.toBytes + lengthFor id left.seconds intervals)
      else tables.secondsOf? id.toBytes := by
  induction intervals generalizing tables with
  | nil => simp [record]
  | cons entry rest ih =>
    obtain ⟨other, joined⟩ := entry
    obtain ⟨player, known⟩ := tables.row_of_ensurePlayer other.toBytes
    have step := Tables.secondsOf?_insertInterval _ _ id.toBytes world player joined left known
    rw [Tables.kept, Tables.secondsOf?_ensurePlayer _ _ _ owned] at step
    simp only [PlayerId.toBytes_inj] at step
    have later := ih _ ((owned.ensurePlayer other.toBytes).insertInterval other.toBytes world joined left)
    rw [Tables.kept, step] at later
    rw [record, later, lengthFor, Tables.kept]
    by_cases mine : other = id
    · subst mine
      by_cases again : other ∈ rest.map Prod.fst
      · simp only [again, if_true, List.map_cons, List.mem_cons, true_or, Option.getD_some, Int.add_assoc]
      · have nothing := lengthFor_of_absent other left.seconds rest again
        simp only [again, nothing, if_true, if_false, List.map_cons, List.mem_cons, true_or, Int.add_zero]
    · simp only [mine, Ne.symm mine, if_false, List.map_cons, List.mem_cons, false_or, Int.zero_add]

theorem kept_record (tables : Tables) (world : Nat) (left : Timestamp) (id : PlayerId)
    (intervals : List (PlayerId × Timestamp)) (owned : tables.Owned) :
    (record tables world left intervals).kept id.toBytes =
      tables.kept id.toBytes + lengthFor id left.seconds intervals := by
  rw [Tables.kept, secondsOf?_record tables world left id intervals owned]
  split
  · rfl
  · next absent =>
    rw [lengthFor_of_absent id left.seconds intervals absent, Int.add_zero]
    rfl

theorem seconds_ofUnix? {seconds : Int} {time : Timestamp} (read : Timestamp.ofUnix? seconds = some time) :
    time.seconds = seconds := by
  unfold Timestamp.ofUnix? at read
  split at read
  · cases read
    rfl
  · cases read

theorem seconds_joined {id : PlayerId} {delta left : Int64} {time : Timestamp}
    (accepted : joined id delta left = .ok time) : time.seconds = left.toInt - delta.toInt := by
  unfold joined at accepted
  split at accepted
  · cases accepted
  · next early read =>
    split at accepted
    · cases accepted
    · cases accepted
      exact seconds_ofUnix? read

theorem lengthFor_joinedAll (id : PlayerId) (left : Int64) (deltas : List (PlayerId × Int64))
    (intervals : List (PlayerId × Timestamp)) (accepted : joinedAll left deltas = .ok intervals) :
    lengthFor id left.toInt intervals = secondsFor id deltas := by
  induction deltas generalizing intervals with
  | nil =>
    cases accepted
    rfl
  | cons entry rest ih =>
    obtain ⟨other, delta⟩ := entry
    unfold joinedAll at accepted
    split at accepted
    · next zero =>
      have tail := ih intervals accepted
      simp only [secondsFor, zero, Int64.toInt_zero, ite_self]
      omega
    · split at accepted
      · cases accepted
      · next first step =>
        cases others : joinedAll left rest with
        | error error =>
          rw [others] at accepted
          cases accepted
        | ok later =>
          rw [others] at accepted
          cases accepted
          have head := seconds_joined step
          have tail := ih later others
          simp only [lengthFor, secondsFor, head, tail]
          split <;> omega

theorem tables?_setDatabase (store : Store) (host : Host) (database : Database) (tables changed : Tables)
    (known : host.database? store.database = some database) (held : database.tables? store.stem = some tables) :
    store.tables? (host.setDatabase store.database (database.setTables store.stem changed)) = some changed := by
  unfold Host.database? at known
  obtain ⟨inside, _⟩ := List.getElem?_eq_some_iff.mp known
  unfold Database.tables? at held
  obtain ⟨deployment, present, _⟩ := Option.map_eq_some_iff.mp held
  simp [tables?, Host.database?, Host.setDatabase, Database.tables?, Database.setTables, inside, present]

theorem write_accepted (store : Store) (host : Host) (change : Tables → Except StorageError Tables)
    (accepted : (store.write host change).1 = .ok ()) :
    ∃ tables changed, store.tables? host = some tables ∧ change tables = .ok changed ∧
      store.tables? (store.write host change).2 = some changed := by
  unfold write at *
  split at accepted
  · split at accepted
    · cases accepted
    · next database known =>
      split at accepted
      · cases accepted
      · next tables held =>
        split at accepted
        · cases accepted
        · next changed step =>
          refine ⟨tables, changed, ?_, step, ?_⟩
          · simp [tables?, known, held]
          · simp only [*, if_true]
            exact tables?_setDatabase store host database tables changed known held
  · cases accepted

theorem write_refused (store : Store) (host : Host) (change : Tables → Except StorageError Tables)
    (error : StorageError) (refused : (store.write host change).1 = .error error) :
    (store.write host change).2 = host := by
  unfold write at *
  split
  · split
    · rfl
    · split
      · rfl
      · split
        · rfl
        · simp [*] at refused
  · rfl

theorem creditAll_refused (store : Store) (host : Host) (deltas : List (PlayerId × Int64)) (error : StorageError)
    (refused : (store.creditAll host deltas).1 = .error error) : (store.creditAll host deltas).2 = host :=
  store.write_refused host _ error refused

def kept (store : Store) (host : Host) (id : PlayerId) : Int :=
  match store.tables? host with
  | some tables => tables.kept id.toBytes
  | none => 0

def Sound (store : Store) (host : Host) : Prop := ∀ tables, store.tables? host = some tables → tables.Owned

theorem creditAll_accepted (store : Store) (host : Host) (deltas : List (PlayerId × Int64))
    (sound : store.Sound host) (accepted : (store.creditAll host deltas).1 = .ok ()) :
    ∃ tables changed, store.tables? host = some tables ∧
      store.tables? (store.creditAll host deltas).2 = some changed ∧ changed.Owned ∧
      ∀ id, changed.kept id.toBytes = tables.kept id.toBytes + secondsFor id deltas := by
  obtain ⟨tables, changed, before, step, after⟩ := write_accepted store host _ accepted
  refine ⟨tables, changed, before, after, ?_⟩
  have owned := sound tables before
  split at step
  · cases step
  · next empty =>
    cases step
    refine ⟨owned, fun id => ?_⟩
    have none := lengthFor_joinedAll id host.seconds deltas [] empty
    simp only [lengthFor] at none
    omega
  · cases step
  · next intervals left _ accepted read =>
    cases step
    refine ⟨owned_record _ _ _ _ owned, fun id => ?_⟩
    rw [kept_record _ _ _ _ _ owned, seconds_ofUnix? read, lengthFor_joinedAll id host.seconds deltas _ accepted]

theorem tables?_creditAll_isSome (store : Store) (host : Host) (deltas : List (PlayerId × Int64)) :
    (store.tables? (store.creditAll host deltas).2).isSome = (store.tables? host).isSome := by
  cases outcome : (store.creditAll host deltas).1 with
  | ok =>
    obtain ⟨tables, changed, before, _, after⟩ := write_accepted store host _ outcome
    unfold creditAll
    rw [before, after]
    rfl
  | error error => rw [creditAll_refused store host deltas error outcome]

theorem seconds?_eq_ok (store : Store) (host : Host) (id : PlayerId) (stored : Option Int64)
    (read : store.seconds? host id = .ok stored) : (stored.getD 0).toInt = store.kept host id := by
  unfold seconds? Store.read at read
  unfold kept Tables.kept
  split at read
  · split at read
    · cases read
    · next tables held =>
      rw [held]
      dsimp only at read ⊢
      split at read
      · next absent =>
        cases read
        rw [absent]
        rfl
      · next exact present =>
        rw [present]
        unfold sum at read
        split at read
        · next seconds fits =>
          cases read
          exact (int64?_eq_some_iff _ _).mp fits
        · cases read
  · cases read

theorem seconds?_of_fits (store : Store) (host : Host) (id : PlayerId) (isOpen : store.isOpen = true)
    (known : (store.tables? host).isSome = true) (fits : Fits (store.kept host id)) :
    ∃ stored, store.seconds? host id = .ok stored := by
  obtain ⟨tables, held⟩ := Option.isSome_iff_exists.mp known
  unfold kept Tables.kept at fits
  rw [held] at fits
  unfold seconds? Store.read
  rw [if_pos isOpen, held]
  dsimp only at *
  cases exact : tables.secondsOf? id.toBytes with
  | none => exact ⟨none, rfl⟩
  | some seconds =>
    rw [exact] at fits
    have inside : int64? seconds = some (Int64.ofInt seconds) := if_pos fits
    unfold sum
    dsimp only
    rw [inside]
    exact ⟨some (Int64.ofInt seconds), rfl⟩

instance : LawfulLedger (Store × Host) where
  Sound state := state.1.Sound state.2
  IsOpen state := state.1.isOpen = true ∧ (state.1.tables? state.2).isSome = true
  balance state id := state.1.kept state.2 id
  credit_eq _ _ _ := rfl
  sound_creditAll state deltas sound := by
    show state.1.Sound (state.1.creditAll state.2 deltas).2
    cases outcome : (state.1.creditAll state.2 deltas).1 with
    | ok =>
      obtain ⟨_, changed, _, after, owned, _⟩ := creditAll_accepted state.1 state.2 deltas sound outcome
      intro tables held
      rw [after] at held
      cases held
      exact owned
    | error error =>
      rw [creditAll_refused state.1 state.2 deltas error outcome]
      exact sound
  sound_close _ sound := sound
  isOpen_creditAll state deltas := by
    show state.1.isOpen = true ∧ (state.1.tables? (state.1.creditAll state.2 deltas).2).isSome = true ↔ _
    rw [tables?_creditAll_isSome]
  balance_accepted state deltas sound accepted id := by
    obtain ⟨tables, changed, before, after, _, sums⟩ := creditAll_accepted state.1 state.2 deltas sound accepted
    show state.1.kept (state.1.creditAll state.2 deltas).2 id = state.1.kept state.2 id + secondsFor id deltas
    unfold kept
    rw [before, after]
    exact sums id
  balance_refused state deltas error refused id := by
    show state.1.kept (state.1.creditAll state.2 deltas).2 id = state.1.kept state.2 id
    rw [creditAll_refused state.1 state.2 deltas error refused]
  balance_close _ _ := rfl
  balance_of_seconds? state id stored read := seconds?_eq_ok state.1 state.2 id stored read
  seconds?_of_isOpen state id isOpen fits := seconds?_of_fits state.1 state.2 id isOpen.1 isOpen.2 fits

end Store

end Playtime.Sql
