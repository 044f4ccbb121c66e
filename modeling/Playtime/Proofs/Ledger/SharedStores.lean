import Playtime.Proofs.Ledger.Deployments

namespace Playtime

def Host.showing (host : Host) (clock : Int64) : Host := { host with clock }

namespace Sql

inductive StoreCall where
  | load (source : Source) (opening server world : String)
  | credit (number : Nat) (clock : Int64) (id : PlayerId) (delta : Int64)
  | creditAll (number : Nat) (clock : Int64) (deltas : List (PlayerId × Int64))

abbrev Stores := Host × List Store

namespace Stores

def write (state : Stores) (number : Nat) (clock : Int64) (change : Store → Host → Except StorageError Unit × Host) :
    Except StorageError Unit × Stores :=
  match state.2[number]? with
  | none => (.error .closed, state) -- There is no such store.
  | some store =>
    match change store (state.1.showing clock) with
    | (outcome, host) => (outcome, host, state.2)

def load (state : Stores) (source : Source) (opening server world : String) : Except StorageError Unit × Stores :=
  match Store.load state.1 source opening server world with
  | (.error error, host) => (.error error, host, state.2)
  | (.ok store, host) => (.ok (), host, state.2 ++ [store])

def perform (state : Stores) : StoreCall → Except StorageError Unit × Stores
  | .load source opening server world => state.load source opening server world
  | .credit number clock id delta => state.write number clock fun store host => store.credit host id delta
  | .creditAll number clock deltas => state.write number clock fun store host => store.creditAll host deltas

def run (state : Stores) : List StoreCall → Stores
  | [] => state
  | call :: later => run (state.perform call).2 later

def credit? : StoreCall → Option (Nat × Int64 × List (PlayerId × Int64))
  | .load _ _ _ _ => none
  | .credit number clock id delta => some (number, clock, [(id, delta)])
  | .creditAll number clock deltas => some (number, clock, deltas)

/-- What a call adds to the tables at a place, which is nothing if it is refused. -/
def added (place : TablePlace) (state : Stores) (call : StoreCall) : List (PlayerId × Int64) :=
  match credit? call with
  | none => []
  | some (number, _, deltas) =>
    if (state.perform call).1.isOk = true ∧ state.2[number]?.map Store.place = some place then deltas else []

def recorded (place : TablePlace) (state : Stores) : List StoreCall → List (PlayerId × Int64)
  | [] => []
  | call :: later => added place state call ++ recorded place (state.perform call).2 later

/-- The wall clock shows no year of five digits when a credit is made. -/
def Timely : StoreCall → Prop
  | .load _ _ _ _ => True
  | .credit _ clock _ _ | .creditAll _ clock _ => (unixSeconds clock).toInt ≤ lastSecond

instance (call : StoreCall) : Decidable (Timely call) :=
  match call with
  | .load _ _ _ _ => .isTrue trivial
  | .credit _ _ _ _ | .creditAll _ _ _ => inferInstanceAs (Decidable (_ ≤ _))

theorem Timely.ofUnix? {call : StoreCall} {number : Nat} {clock : Int64} {deltas : List (PlayerId × Int64)}
    (timely : Timely call) (credit : credit? call = some (number, clock, deltas)) :
    (Timestamp.ofUnix? (unixSeconds clock).toInt).isSome = true := by
  have last : (unixSeconds clock).toInt ≤ lastSecond := by
    cases call with
    | load source opening server world => cases credit
    | credit => cases credit; exact timely
    | creditAll => cases credit; exact timely
  have first : firstSecond ≤ (unixSeconds clock).toInt := le_trans (by decide) (unixSeconds_nonneg clock)
  unfold Timestamp.ofUnix?
  rw [dif_pos ⟨first, last⟩]
  rfl

structure Keeps (place : TablePlace) (state : Stores) (batch : List (PlayerId × Int64)) : Prop where
  opened : ∀ store ∈ state.2, store.isOpen = true ∧ (store.tables? state.1).isSome = true
  accounts : ((tablesAt? state.1 place).getD .empty).Accounts batch

variable {place : TablePlace} {state : Stores} {batch : List (PlayerId × Int64)}

theorem Keeps.load (keeps : Keeps place state batch) (source : Source) (opening server world : String) :
    Keeps place (state.load source opening server world).2 batch := by
  unfold Stores.load
  rcases load_cases state.1 source opening server world with
    ⟨error, failed, same⟩ | ⟨store, loaded, isOpen, -, -, -, same⟩
  · generalize Store.load state.1 source opening server world = result at *
    obtain ⟨outcome, host⟩ := result
    cases failed
    dsimp only at *
    refine ⟨fun store member => ?_, ?_⟩
    · rw [Store.tables?_eq, same]
      exact keeps.opened store member
    · rw [same]
      exact keeps.accounts
  · generalize Store.load state.1 source opening server world = result at *
    obtain ⟨outcome, host⟩ := result
    cases loaded
    dsimp only at *
    have held (other : TablePlace) (known : (tablesAt? state.1 other).isSome = true ∨ store.place = other) :
        (tablesAt? host other).isSome = true := by
      rw [same]
      split
      · rfl
      · next apart => exact known.resolve_right apart
    refine ⟨fun other member => ?_, ?_⟩
    · rw [Store.tables?_eq]
      rcases List.mem_append.mp member with inside | last
      · obtain ⟨stillOpen, known⟩ := keeps.opened other inside
        exact ⟨stillOpen, held other.place (.inl known)⟩
      · rw [List.mem_singleton.mp last]
        exact ⟨isOpen, held store.place (.inr rfl)⟩
    · rw [same]
      split
      · exact keeps.accounts.register server world
      · exact keeps.accounts

theorem Keeps.creditAll {host : Host} {stores : List Store} (keeps : Keeps place (host, stores) batch) (store : Store)
    (deltas : List (PlayerId × Int64)) (timely : (Timestamp.ofUnix? host.seconds.toInt).isSome = true) :
    Keeps place ((store.creditAll host deltas).2, stores)
      (batch ++ if (store.creditAll host deltas).1.isOk = true ∧ store.place = place then deltas else []) := by
  cases outcome : (store.creditAll host deltas).1 with
  | error error =>
    rw [store.creditAll_refused host deltas error outcome, if_neg (by simp [Except.isOk, Except.toBool]),
      List.append_nil]
    exact keeps
  | ok =>
    have others (other : TablePlace) (elsewhere : store.place ≠ other) :
        tablesAt? (store.creditAll host deltas).2 other = tablesAt? host other :=
      store.write_other host _ other elsewhere
    refine ⟨fun other member => ⟨(keeps.opened other member).1, ?_⟩, ?_⟩
    · have known := (keeps.opened other member).2
      rw [Store.tables?_eq] at known ⊢
      by_cases same : store.place = other.place
      · rwa [← same, ← Store.tables?_eq, Store.tables?_creditAll_isSome, Store.tables?_eq, same]
      · rwa [others other.place same]
    · by_cases same : store.place = place
      · subst same
        obtain ⟨changed, after, accounts⟩ := store.creditAll_accounts host deltas batch timely keeps.accounts outcome
        rw [if_pos ⟨rfl, rfl⟩, ← Store.tables?_eq, after]
        exact accounts
      · rw [if_neg fun both => same both.2, List.append_nil, others place same]
        exact keeps.accounts

theorem Keeps.write (keeps : Keeps place state batch) (number : Nat) (clock : Int64)
    (deltas : List (PlayerId × Int64)) (timely : (Timestamp.ofUnix? (unixSeconds clock).toInt).isSome = true) :
    let result := state.write number clock fun store host => store.creditAll host deltas
    Keeps place result.2
      (batch ++ if result.1.isOk = true ∧ state.2[number]?.map Store.place = some place then deltas else []) := by
  intro result
  unfold result Stores.write
  cases found : state.2[number]? with
  | none =>
    rw [if_neg (by simp), List.append_nil]
    exact keeps
  | some store =>
    -- The clock is no part of the tables.
    have started : Keeps place (state.1.showing clock, state.2) batch := ⟨keeps.opened, keeps.accounts⟩
    simp only [Option.map_some, Option.some.injEq]
    exact started.creditAll store deltas timely

theorem Keeps.perform (keeps : Keeps place state batch) (call : StoreCall) (timely : Timely call) :
    Keeps place (state.perform call).2 (batch ++ added place state call) := by
  cases call with
  | load source opening server world =>
    rw [added, credit?, List.append_nil]
    exact keeps.load source opening server world
  | credit number clock id delta =>
    exact keeps.write number clock [(id, delta)] (timely.ofUnix? rfl)
  | creditAll number clock deltas =>
    exact keeps.write number clock deltas (timely.ofUnix? rfl)

theorem Keeps.run (keeps : Keeps place state batch) (calls : List StoreCall) (timely : ∀ call ∈ calls, Timely call) :
    Keeps place (state.run calls) (batch ++ recorded place state calls) := by
  induction calls generalizing state batch with
  | nil =>
    rw [recorded, List.append_nil]
    exact keeps
  | cons call calls ih =>
    rw [recorded, ← List.append_assoc]
    have others : ∀ other ∈ calls, Timely other := fun other member => timely other (List.mem_cons_of_mem _ member)
    exact ih (keeps.perform call (timely call (by simp))) others

/--
A credit through a store is taken if every interval that it adds begins in a year of four digits. Otherwise an entry
whose interval does not is refused, and nothing is changed.
-/
structure Judged (state : Stores) (call : StoreCall) (clock : Int64) (deltas : List (PlayerId × Int64)) : Prop where
  taken : (∀ entry ∈ deltas, entry.2 = 0 ∨ Store.InCalendar (unixSeconds clock) entry.2) →
    (state.perform call).1 = .ok ()
  refused : (∃ entry ∈ deltas, entry.2 ≠ 0 ∧ ¬ Store.InCalendar (unixSeconds clock) entry.2) →
    ∃ entry ∈ deltas, (entry.2 ≠ 0 ∧ ¬ Store.InCalendar (unixSeconds clock) entry.2) ∧
      state.perform call = (.error (.outOfRange entry.1 entry.2), state.1.showing clock, state.2)

theorem Keeps.judged (keeps : Keeps place state batch) (call : StoreCall) (timely : Timely call) (number : Nat)
    (clock : Int64) (deltas : List (PlayerId × Int64)) (store : Store)
    (credit : credit? call = some (number, clock, deltas)) (found : state.2[number]? = some store) :
    Judged state call clock deltas := by
  have made : state.perform call = ((store.creditAll (state.1.showing clock) deltas).1,
      (store.creditAll (state.1.showing clock) deltas).2, state.2) := by
    cases call with
    | load source opening server world => cases credit
    | credit number clock id delta =>
      cases credit
      rw [Stores.perform, Stores.write, found]
      rfl
    | creditAll number clock deltas =>
      cases credit
      rw [Stores.perform, Stores.write, found]
  obtain ⟨isOpen, known⟩ := keeps.opened store (List.mem_of_getElem? found)
  have held : (store.tables? (state.1.showing clock)).isSome = true := known
  have timely' : (Timestamp.ofUnix? (state.1.showing clock).seconds.toInt).isSome = true := timely.ofUnix? credit
  rcases Store.creditAll_cases isOpen held timely' deltas with
    ⟨admitted, accepted⟩ | ⟨entry, member, misfit, refused⟩
  · refine ⟨fun _ => by rw [made]; exact accepted, ?_⟩
    rintro ⟨entry, member, some, outside⟩
    exact absurd (admitted entry member) (not_or.mpr ⟨some, outside⟩)
  · refine ⟨fun all => absurd (all entry member) misfit, fun _ => ⟨entry, member, not_or.mp misfit, ?_⟩⟩
    rw [made, refused, store.creditAll_refused (state.1.showing clock) deltas _ refused]

theorem disk_load (state : Stores) (source : Source) (opening server world : String) :
    (state.load source opening server world).2.1.disk = (connect state.1 source).2.disk := by
  rw [← disk_storeLoad state.1 source opening server world]
  unfold Stores.load
  split <;> next opened => rw [opened]

theorem disk_write (state : Stores) (number : Nat) (clock : Int64) (deltas : List (PlayerId × Int64)) :
    (state.write number clock fun store host => store.creditAll host deltas).2.1.disk = state.1.disk := by
  unfold Stores.write
  split
  · rfl
  · exact disk_creditAll _ (state.1.showing clock) deltas

theorem linked_run {state : Stores} {path : List String} {number : Nat} (linked : Linked state.1.disk path number)
    (calls : List StoreCall) : Linked (state.run calls).1.disk path number := by
  induction calls generalizing state with
  | nil => exact linked
  | cons call calls ih =>
    apply ih
    cases call with
    | load source opening server world =>
      rw [perform, disk_load]
      exact linked.connect source
    | credit number clock id delta =>
      show Linked (state.write number clock fun store host => store.creditAll host [(id, delta)]).2.1.disk _ _
      rwa [disk_write]
    | creditAll number clock deltas =>
      rw [perform, disk_write]
      exact linked

theorem place_of_one_file (state : Stores) (between : List StoreCall) (path : List String)
    (opening server world server' world' : String) (first second : Store)
    (opened : (Store.load state.1 (.file path) opening server world).1 = .ok first)
    (again : (Store.load ((state.load (.file path) opening server world).2.run between).1 (.file path) opening server'
      world').1 = .ok second) : second.place = first.place := by
  obtain ⟨number, stem⟩ := load_ok opened
  obtain ⟨number', stem'⟩ := load_ok again
  have linked := linked_of_connect number
  rw [← disk_load state (.file path) opening server world] at linked
  rw [connect_of_linked (linked_run linked between)] at number'
  have database : first.database = second.database := Except.ok.inj number'
  have spelling : first.stem = second.stem := Option.some.inj (stem.symm.trans stem')
  rw [Store.place, Store.place, database, spelling]

/--
Stores of any servers and worlds, opened at any point of a run, credit at any times. Each credit is judged by its own
intervals alone, and all stores that share tables read out what has been accepted for these tables, whichever of them
recorded it and whenever. Stores that are opened on one file under one name share their tables.
-/
theorem shared_ledger_exact (host : Host) (place : TablePlace) (calls : List StoreCall)
    (fresh : ∀ tables, tablesAt? host place = some tables → tables.Keyed ∧ tables.intervals = [])
    (timely : ∀ call ∈ calls, Timely call) :
    (∀ before call later number clock deltas store, calls = before ++ call :: later →
      credit? call = some (number, clock, deltas) → (run (host, []) before).2[number]? = some store →
      Judged (run (host, []) before) call clock deltas) ∧
    (∀ store ∈ (run (host, []) calls).2, store.place = place →
      store.Shows (run (host, []) calls).1 (recorded place (host, []) calls)) ∧
    ∀ path opening server world between server' world' first second,
      let opened := (run (host, []) calls).load (.file path) opening server world
      (Store.load (run (host, []) calls).1 (.file path) opening server world).1 = .ok first →
      (Store.load (opened.2.run between).1 (.file path) opening server' world').1 = .ok second →
      second.place = first.place := by
  have started : Keeps place (host, []) [] := by
    refine ⟨nofun, ?_⟩
    cases known : tablesAt? host place with
    | none => exact .of_no_intervals ⟨List.nodup_nil, nofun⟩ rfl
    | some tables =>
      obtain ⟨keyed, none⟩ := fresh tables known
      exact .of_no_intervals keyed none
  refine ⟨?_, ?_, fun path opening server world between server' world' first second =>
    place_of_one_file (run (host, []) calls) between path opening server world server' world' first second⟩
  · rintro before call later number clock deltas store rfl credit found
    have kept := started.run before fun other member => timely other (List.mem_append_left _ member)
    exact kept.judged call (timely call (by simp)) number clock deltas store credit found
  · rintro store member rfl
    have kept := started.run calls timely
    obtain ⟨isOpen, known⟩ := kept.opened store member
    obtain ⟨tables, held⟩ := Option.isSome_iff_exists.mp known
    have accounts := kept.accounts
    rw [← Store.tables?_eq, held] at accounts
    exact Store.shows_of_accounts isOpen held accounts

/--
Two stores of one file, of different servers and worlds. Each credits the same player, one when the clock stands before
1970 and the other a debit dated half a century later; a zero leaves no trace, and a batch with an interval before
year 0 is refused as a whole.
-/
theorem shared_ledger_exact_for_two :
    let player : PlayerId := ⟨7⟩
    let other : PlayerId := ⟨8⟩
    let file := Source.file ["data.db"]
    let calls : List StoreCall := [.load file "ot_" "lobby" "world", .credit 0 (-1000) player 3600,
      .load file "ot_" "arena" "desert", .creditAll 1 1600000000000 [(player, -600), (other, 0)],
      .creditAll 0 5000 [(other, 30), (player, 70000000000)]]
    let state := run (⟨.empty, [], 0⟩, []) calls
    let batch := recorded (0, "ot_") (⟨.empty, [], 0⟩, []) calls
    batch = [(player, 3600), (player, -600), (other, 0)] ∧ state.2.length = 2 ∧
      ∀ store ∈ state.2, store.seconds? state.1 player = .ok (some 3000) ∧ store.seconds? state.1 other = .ok none ∧
        ∃ totals, store.totals state.1 = .ok totals ∧ ∀ id, totals[id]? = if player = id then some 3000 else none := by
  intro player other file calls state batch
  have timely : ∀ call ∈ calls, Timely call := by decide +kernel
  have places : ∀ store ∈ state.2, store.place = (0, "ot_") := by decide +kernel
  have entries : batch = [(player, 3600), (player, -600), (other, 0)] := by decide +kernel
  obtain ⟨-, shows, -⟩ := shared_ledger_exact ⟨.empty, [], 0⟩ (0, "ot_") calls nofun timely
  refine ⟨entries, by decide +kernel, fun store member => ?_⟩
  have shown : store.Shows state.1 batch := shows store member (places store member)
  rw [entries] at shown
  have sums (id : PlayerId) :
      secondsFor id [(player, 3600), (player, -600), (other, 0)] = if player = id then 3000 else 0 := by
    by_cases mine : player = id <;> simp [secondsFor, mine]
  have first := shown.seconds player (by decide +kernel)
  have second := shown.seconds other (by decide +kernel)
  obtain ⟨totals, read, known, -⟩ := shown.totals fun id => by rw [sums]; split <;> decide
  refine ⟨first.trans (by decide +kernel), second.trans (by decide +kernel), totals, read, fun id => ?_⟩
  rw [known, creditedTo, sums]
  by_cases mine : player = id <;> simp [mine]

end Stores

end Sql

end Playtime
