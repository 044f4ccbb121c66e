import Playtime.Proofs.Ledger.Listed
import Playtime.Proofs.Ledger.SharedStores

namespace Playtime

theorem secondsFor_of_perm (id : PlayerId) {first second : List (PlayerId × Int64)} (perm : first.Perm second) :
    secondsFor id first = secondsFor id second := by
  induction perm with
  | nil => rfl
  | cons entry _ ih => rw [secondsFor, secondsFor, ih]
  | swap => simp only [secondsFor]; omega
  | trans _ _ ih ih' => exact ih.trans ih'

namespace TimeFile

theorem mem_addAll {times changed : FlatObject.Members Int64} {deltas : List (PlayerId × Int64)}
    (added : addAll times deltas = .ok changed) (text : String) :
    text ∈ changed ↔ text ∈ times ∨ ∃ entry ∈ deltas, entry.1.toText = text := by
  induction deltas generalizing times with
  | nil =>
    cases added
    simp
  | cons entry rest ih =>
    unfold addAll at added
    split at added
    · cases added
    · next first step =>
      unfold addTo at step
      split at step
      · cases step
        rw [ih added, Std.ExtTreeMap.mem_insert, Std.LawfulEqOrd.compare_eq_iff_eq, List.exists_mem_cons_iff]
        grind
      · cases step

theorem getElem?_addAll_of_foreign {times changed : FlatObject.Members Int64} {deltas : List (PlayerId × Int64)}
    (added : addAll times deltas = .ok changed) {text : String} (foreign : ∀ id : PlayerId, text ≠ id.toText) :
    changed[text]? = times[text]? := by
  induction deltas generalizing times with
  | nil =>
    cases added
    rfl
  | cons entry rest ih =>
    unfold addAll at added
    split at added
    · cases added
    · next first step =>
      unfold addTo at step
      split at step
      · cases step
        have apart : ¬ compare entry.1.toText text = .eq := fun same =>
          foreign entry.1 (Std.LawfulEqOrd.eq_of_compare same).symm
        rw [ih added, Std.ExtTreeMap.getElem?_insert, if_neg apart]
      · cases step

theorem members_creditAll {file : TimeFile} {disk : Disk} {deltas : List (PlayerId × Int64)}
    (accepted : (file.creditAll disk deltas).1 = .ok ()) :
    (∀ id : PlayerId, id.toText ∈ (file.creditAll disk deltas).2.1.members ↔ id.toText ∈ file.members ∨
      (∃ entry ∈ deltas, entry.1 = id) ∧ ∃ other ∈ deltas, other.2 ≠ 0) ∧
    ∀ text : String, (∀ id : PlayerId, text ≠ id.toText) →
      (file.creditAll disk deltas).2.1.members[text]? = file.members[text]? := by
  unfold creditAll at *
  split
  · next zeros =>
    refine ⟨fun id => ⟨.inl, fun known => known.resolve_right ?_⟩, fun _ _ => rfl⟩
    rintro ⟨-, other, member, some⟩
    exact some (by simpa using List.all_eq_true.mp zeros other member)
  · next some =>
    rw [if_neg some] at accepted
    obtain ⟨members, changed, after⟩ := FlatFile.write_accepted file disk _ accepted
    rw [after]
    have credited : ∃ other ∈ deltas, other.2 ≠ 0 := by simpa using some
    refine ⟨fun id => ?_, fun text foreign => getElem?_addAll_of_foreign changed foreign⟩
    simp only [mem_addAll changed, PlayerId.toText_inj, credited, and_true]

theorem refusal_iff {file : TimeFile} (isOpen : file.isOpen = true) (disk : Disk) {deltas : List (PlayerId × Int64)}
    (distinct : (deltas.map Prod.fst).Nodup) :
    (∃ id delta, (file.creditAll disk deltas).1 = .error (.outOfRange id delta)) ↔
      ∃ entry ∈ deltas, ¬ Fits (kept file.members entry.1 + entry.2.toInt) := by
  unfold creditAll
  split
  · next zeros =>
    refine ⟨nofun, ?_⟩
    rintro ⟨entry, member, misfit⟩
    have zero : entry.2 = 0 := by simpa using List.all_eq_true.mp zeros entry member
    rw [zero, Int64.toInt_zero, Int.add_zero] at misfit
    exact absurd (fits_toInt _) misfit
  · unfold FlatFile.write
    rw [if_pos isOpen]
    dsimp only
    rcases addAll_cases file.members deltas distinct with ⟨admitted, changed, added⟩ | ⟨entry, member, misfit, refused⟩
    · rw [added]
      refine ⟨fun refused => ?_, fun ⟨entry, member, misfit⟩ => absurd (admitted entry member) misfit⟩
      -- The disk may fail, but it does so for reasons of its own.
      obtain ⟨id, delta, refused⟩ := refused
      dsimp only at refused
      split at refused
      · cases refused
      · cases refused
    · rw [refused]
      exact ⟨fun _ => ⟨entry, member, misfit⟩, fun _ => ⟨_, _, rfl⟩⟩

end TimeFile

namespace Sql.Store

def Lists (store : Store) (host : Host) (id : PlayerId) : Prop :=
  ∃ tables, store.tables? host = some tables ∧ (tables.secondsOf? id.toBytes).isSome = true

theorem lists_creditAll {store : Store} {host : Host} {deltas : List (PlayerId × Int64)} (sound : store.Sound host)
    (accepted : (store.creditAll host deltas).1 = .ok ()) (id : PlayerId) :
    store.Lists (store.creditAll host deltas).2 id ↔
      store.Lists host id ∨ ∃ entry ∈ deltas, entry.1 = id ∧ entry.2 ≠ 0 := by
  obtain ⟨tables, changed, before, step, after⟩ := write_accepted store host _ accepted
  have lists (tables : Tables) (host : Host) (held : store.tables? host = some tables) :
      store.Lists host id ↔ (tables.secondsOf? id.toBytes).isSome = true := by
    simp [Lists, held]
  have after : store.tables? (store.creditAll host deltas).2 = some changed := after
  rw [lists changed _ after, lists tables _ before]
  split at step
  · cases step
  · next empty =>
    cases step
    simp [← mem_joinedAll id host.seconds deltas [] empty]
  · cases step
  · next intervals left _ begun read =>
    cases step
    rw [secondsOf?_record _ _ _ _ _ (sound tables before), ← mem_joinedAll id host.seconds deltas _ begun]
    split
    · next credited => simp [credited]
    · next idle => simp [idle]

theorem refusal_iff {store : Store} {host : Host} (isOpen : store.isOpen = true)
    (known : (store.tables? host).isSome = true) (deltas : List (PlayerId × Int64)) :
    (∃ id delta, (store.creditAll host deltas).1 = .error (.outOfRange id delta)) ↔
      ∃ entry ∈ deltas, ¬ (entry.2 = 0 ∨ InCalendar host.seconds entry.2) := by
  obtain ⟨tables, held⟩ := Option.isSome_iff_exists.mp known
  unfold creditAll
  rw [write_of_known isOpen held]
  rcases joinedAll_cases host.seconds deltas with ⟨admitted, intervals, accepted⟩ | ⟨entry, member, misfit, refused⟩
  · rw [accepted]
    refine ⟨fun ⟨id, delta, refused⟩ => ?_, fun ⟨entry, member, misfit⟩ => absurd (admitted entry member) misfit⟩
    split at refused
    · cases ‹Except.ok intervals = .error _›
    · cases refused
    · cases refused
    · cases refused
  · rw [refused]
    exact ⟨fun _ => ⟨entry, member, misfit⟩, fun _ => ⟨_, _, rfl⟩⟩

theorem seconds?_of_lists {store : Store} {host : Host} (isOpen : store.isOpen = true) (id : PlayerId)
    (lists : store.Lists host id) : store.seconds? host id = (sum (store.kept host id)).map some := by
  obtain ⟨tables, held, present⟩ := lists
  obtain ⟨exact, known⟩ := Option.isSome_iff_exists.mp present
  rw [kept, held, seconds?, Store.read, if_pos isOpen, held]
  dsimp only
  rw [Tables.kept, known]
  rfl

theorem seconds?_of_not_lists {store : Store} {host : Host} (isOpen : store.isOpen = true)
    (known : (store.tables? host).isSome = true) (id : PlayerId) (unlisted : ¬ store.Lists host id) :
    store.seconds? host id = .ok none := by
  obtain ⟨tables, held⟩ := Option.isSome_iff_exists.mp known
  have none : tables.secondsOf? id.toBytes = none := by
    rw [← Option.not_isSome_iff_eq_none]
    exact fun present => unlisted ⟨tables, held, present⟩
  rw [seconds?, Store.read, if_pos isOpen, held]
  dsimp only
  rw [none]

theorem secondsOf?_of_alike {store other : Store} {host after : Host} {tables changed : Tables}
    (held : store.tables? host = some tables) (held' : other.tables? after = some changed) {id : PlayerId}
    (balance : other.kept after id = store.kept host id) (lists : other.Lists after id ↔ store.Lists host id) :
    changed.secondsOf? id.toBytes = tables.secondsOf? id.toBytes := by
  rw [kept, kept, held, held'] at balance
  simp only [Lists, held, held', Option.some.injEq, exists_eq_left'] at lists
  dsimp only [Tables.kept] at balance
  cases first : tables.secondsOf? id.toBytes <;> cases second : changed.secondsOf? id.toBytes <;>
    simp_all

end Sql.Store

namespace Backend

open LawfulLedger (Sound IsOpen balance)

/-- The ledger has an entry for the player, be it of zero seconds. -/
def Present : Backend × Host → PlayerId → Prop
  | (files _ times, _), id => id.toText ∈ times.members
  | (relational store, host), id | (mixed _ store, host), id => store.Lists host id

def TimesRegular : Backend × Host → Prop
  | (files _ _, _) => True
  | (relational store, host) | (mixed _ store, host) =>
    ∀ tables, store.tables? host = some tables → tables.Owned ∧ tables.Keyed

variable {state after last : Backend × Host} {deltas later : List (PlayerId × Int64)} {id : PlayerId}

theorem TimesRegular.sound (regular : TimesRegular state) : Sound state := by
  obtain ⟨backend, host⟩ := state
  cases backend with
  | files names times => exact trivial
  | relational store => exact fun tables held => (regular tables held).1
  | mixed names store => exact fun tables held => (regular tables held).1

theorem timesRegular_creditAll (regular : TimesRegular state) (deltas : List (PlayerId × Int64)) :
    TimesRegular (Ledger.creditAll state deltas).2 := by
  have table (store : Sql.Store) (host : Host)
      (regular : ∀ tables, store.tables? host = some tables → tables.Owned ∧ tables.Keyed) (tables : Sql.Tables)
      (held : store.tables? (store.creditAll host deltas).2 = some tables) : tables.Owned ∧ tables.Keyed :=
    ⟨LawfulLedger.sound_creditAll (store, host) deltas (fun tables held => (regular tables held).1) tables held,
      store.keyed_creditAll host deltas (fun tables held => (regular tables held).2) tables held⟩
  obtain ⟨backend, host⟩ := state
  cases backend with
  | files names times => exact trivial
  | relational store => exact table store host regular
  | mixed names store => exact table store host regular

def Enters (backend : Backend) (deltas : List (PlayerId × Int64)) (id : PlayerId) : Prop :=
  ∃ entry ∈ deltas, entry.1 = id ∧ (entry.2 ≠ 0 ∨ backend.timeStore? = none ∧ ∃ other ∈ deltas, other.2 ≠ 0)

def foreign? : Backend → String → Option Int64
  | files _ times, text => times.members[text]?
  | relational _, _ | mixed _ _, _ => none

/-- What an accepted batch, or several, have made of a ledger. -/
structure Credited (state after : Backend × Host) (deltas : List (PlayerId × Int64)) (enters : PlayerId → Prop) :
    Prop where
  isOpen : TimesOpen after ↔ TimesOpen state
  regular : TimesRegular after
  kind : after.1.timeStore? = state.1.timeStore?
  foreign (text : String) (foreign : ∀ id : PlayerId, text ≠ id.toText) : after.1.foreign? text = state.1.foreign? text
  balance (id : PlayerId) : balance after id = balance state id + secondsFor id deltas
  present (id : PlayerId) : Present after id ↔ Present state id ∨ enters id
  keyed (keyed : ListedLedger.Keyed state) : ListedLedger.Keyed after

theorem credited_creditAll (regular : TimesRegular state) (accepted : (Ledger.creditAll state deltas).1 = .ok ()) :
    Credited state (Ledger.creditAll state deltas).2 deltas (state.1.Enters deltas) where
  isOpen := LawfulLedger.isOpen_creditAll state deltas
  regular := timesRegular_creditAll regular deltas
  kind := by
    obtain ⟨backend, host⟩ := state
    cases backend <;> rfl
  foreign text foreign := by
    obtain ⟨backend, host⟩ := state
    cases backend with
    | files names times => exact (TimeFile.members_creditAll accepted).2 text foreign
    | relational store => rfl
    | mixed names store => rfl
  balance := LawfulLedger.balance_accepted state deltas regular.sound accepted
  keyed := ListedLedger.keyed_creditAll state deltas
  present id := by
    have sound := regular.sound
    obtain ⟨backend, host⟩ := state
    cases backend with
    | files names times =>
      refine ((TimeFile.members_creditAll accepted).1 id).trans (or_congr_right ?_)
      constructor
      · rintro ⟨⟨entry, member, mine⟩, credited⟩
        exact ⟨entry, member, mine, .inr ⟨rfl, credited⟩⟩
      · rintro ⟨entry, member, mine, some | ⟨-, credited⟩⟩
        · exact ⟨⟨entry, member, mine⟩, entry, member, some⟩
        · exact ⟨⟨entry, member, mine⟩, credited⟩
    | relational store =>
      refine (Sql.Store.lists_creditAll sound accepted id).trans (or_congr_right ?_)
      simp [Enters, timeStore?]
    | mixed names store =>
      refine (Sql.Store.lists_creditAll sound accepted id).trans (or_congr_right ?_)
      simp [Enters, timeStore?]

theorem Credited.trans {enters entersToo : PlayerId → Prop} (first : Credited state after deltas enters)
    (second : Credited after last later entersToo) :
    Credited state last (deltas ++ later) fun id => enters id ∨ entersToo id where
  isOpen := second.isOpen.trans first.isOpen
  regular := second.regular
  kind := second.kind.trans first.kind
  foreign text foreign := (second.foreign text foreign).trans (first.foreign text foreign)
  balance id := by rw [second.balance, first.balance, secondsFor_append, Int.add_assoc]
  present id := by rw [second.present, first.present, or_assoc]
  keyed keyed := second.keyed (first.keyed keyed)

theorem credited_showing (regular : TimesRegular state) (clock : Int64) :
    Credited state (state.1, state.2.showing clock) [] fun _ => False := by
  obtain ⟨backend, host⟩ := state
  cases backend <;> exact
    ⟨.rfl, regular, rfl, fun _ _ => rfl, fun _ => (Int.add_zero _).symm, fun _ => (or_iff_left not_false).symm, id⟩

theorem seconds?_of_present (isOpen : TimesOpen state) {id : PlayerId} (present : Present state id) :
    Ledger.seconds? state id = (Sql.Store.sum (balance state id)).map some := by
  obtain ⟨backend, host⟩ := state
  cases backend with
  | files names times =>
    obtain ⟨seconds, known⟩ := Option.isSome_iff_exists.mp (Std.ExtTreeMap.isSome_getElem?_iff_mem.mpr present)
    have kept : balance (files names times, host) id = seconds.toInt := by
      show TimeFile.kept (FlatFile.members times) id = _
      rw [TimeFile.kept, Std.ExtTreeMap.getD_eq_getD_getElem?, known, Option.getD_some]
    show TimeFile.seconds? times id = _
    rw [TimeFile.seconds?_of_isOpen isOpen, known, kept, Sql.Store.sum_of_fits (fits_toInt seconds), Int64.ofInt_toInt]
    rfl
  | relational store => exact Sql.Store.seconds?_of_lists isOpen.1 id present
  | mixed names store => exact Sql.Store.seconds?_of_lists isOpen.1 id present

theorem seconds?_of_not_present (isOpen : TimesOpen state) {id : PlayerId} (absent : ¬ Present state id) :
    Ledger.seconds? state id = .ok none := by
  obtain ⟨backend, host⟩ := state
  cases backend with
  | files names times =>
    show TimeFile.seconds? times id = _
    rw [TimeFile.seconds?_of_isOpen isOpen, Std.ExtTreeMap.getElem?_eq_none absent]
  | relational store => exact Sql.Store.seconds?_of_not_lists isOpen.1 isOpen.2 id absent
  | mixed names store => exact Sql.Store.seconds?_of_not_lists isOpen.1 isOpen.2 id absent

theorem seconds?_eq_none_iff (isOpen : TimesOpen state) (id : PlayerId) :
    Ledger.seconds? state id = .ok none ↔ ¬ Present state id := by
  refine ⟨fun read present => ?_, seconds?_of_not_present isOpen⟩
  rw [seconds?_of_present isOpen present] at read
  cases outcome : Sql.Store.sum (balance state id) <;> simp [outcome, Except.map] at read

variable {other : Backend × Host}

theorem seconds?_alike (isOpen : TimesOpen state) (isOpen' : TimesOpen other) {id : PlayerId}
    (balances : balance other id = balance state id) (present : Present other id ↔ Present state id) :
    Ledger.seconds? other id = Ledger.seconds? state id := by
  by_cases known : Present state id
  · rw [seconds?_of_present isOpen known, seconds?_of_present isOpen' (present.mpr known), balances]
  · rw [seconds?_of_not_present isOpen known, seconds?_of_not_present isOpen' (mt present.mp known)]

theorem totals_alike (isOpen : TimesOpen state) (isOpen' : TimesOpen other) (regular : TimesRegular state)
    (regular' : TimesRegular other) (kind : other.1.timeStore? = state.1.timeStore?)
    (foreign : ∀ text : String, (∀ id : PlayerId, text ≠ id.toText) → other.1.foreign? text = state.1.foreign? text)
    (balances : ∀ id, balance other id = balance state id) (present : ∀ id, Present other id ↔ Present state id) :
    Ledger.totals other = Ledger.totals state := by
  have table (store : Sql.Store) (host after : Host)
      (regular : ∀ tables, store.tables? host = some tables → tables.Owned ∧ tables.Keyed)
      (regular' : ∀ tables, store.tables? after = some tables → tables.Owned ∧ tables.Keyed)
      (isOpen : store.isOpen = true ∧ (store.tables? host).isSome = true) (known' : (store.tables? after).isSome = true)
      (balances : ∀ id, store.kept after id = store.kept host id)
      (lists : ∀ id, store.Lists after id ↔ store.Lists host id) : store.totals after = store.totals host := by
    obtain ⟨tables, held⟩ := Option.isSome_iff_exists.mp isOpen.2
    obtain ⟨changed, held'⟩ := Option.isSome_iff_exists.mp known'
    exact Sql.Store.totals_of_same isOpen.1 isOpen.1 held held' (regular tables held).2 (regular' changed held').2
      fun id => Sql.Store.secondsOf?_of_alike held held' (balances id) (lists id)
  obtain ⟨backend, host⟩ := state
  obtain ⟨backend', after⟩ := other
  cases backend <;> cases backend'
  case files.files names times names' times' =>
    have members : FlatFile.members times' = FlatFile.members times := by
      apply Std.ExtTreeMap.ext_getElem?
      intro text
      by_cases own : ∃ id : PlayerId, text = id.toText
      · obtain ⟨id, rfl⟩ := own
        have read : TimeFile.seconds? times' id = TimeFile.seconds? times id :=
          seconds?_alike isOpen isOpen' (balances id) (present id)
        rw [TimeFile.seconds?_of_isOpen isOpen, TimeFile.seconds?_of_isOpen isOpen'] at read
        exact Except.ok.inj read
      · exact foreign text (not_exists.mp own)
    show TimeFile.totals times' = TimeFile.totals times
    have isOpen : FlatFile.isOpen times = true := isOpen
    have isOpen' : FlatFile.isOpen times' = true := isOpen'
    rw [TimeFile.totals, TimeFile.totals, FlatFile.read, FlatFile.read, isOpen, isOpen', members]
  -- A file is not a store, and whether the names are in the store as well makes no difference.
  all_goals cases kind
  all_goals exact table _ _ _ regular regular' isOpen isOpen'.2 balances present

theorem refusal_iff (isOpen : TimesOpen state) (distinct : (deltas.map Prod.fst).Nodup) :
    (∃ id delta, (Ledger.creditAll state deltas).1 = .error (.outOfRange id delta)) ↔
      ∃ entry ∈ deltas, ¬ AdmitsTime state entry.1 entry.2 := by
  obtain ⟨backend, host⟩ := state
  cases backend with
  | files names times => exact TimeFile.refusal_iff isOpen host.disk distinct
  | relational store => exact Sql.Store.refusal_iff isOpen.1 isOpen.2 deltas
  | mixed names store => exact Sql.Store.refusal_iff isOpen.1 isOpen.2 deltas

theorem credit_refusal_iff (isOpen : TimesOpen state) (id : PlayerId) (delta : Int64) :
    (∃ other amount, (Ledger.credit state id delta).1 = .error (.outOfRange other amount)) ↔
      ¬ AdmitsTime state id delta := by
  rw [credit_single, refusal_iff isOpen (by simp), List.exists_mem_cons_iff]
  simp

theorem readings_of_refused {error : StorageError} (refused : (Ledger.creditAll state deltas).1 = .error error) :
    (∀ id, Ledger.seconds? (Ledger.creditAll state deltas).2 id = Ledger.seconds? state id) ∧
      Ledger.totals (Ledger.creditAll state deltas).2 = Ledger.totals state := by
  have table (store : Sql.Store) (host : Host) (refused : (store.creditAll host deltas).1 = .error error) :
      (store.creditAll host deltas).2 = host := store.creditAll_refused host deltas error refused
  obtain ⟨backend, host⟩ := state
  cases backend with
  | files names times =>
    have same : (TimeFile.creditAll times host.disk deltas).2.1 = times :=
      TimeFile.creditAll_refused times host.disk deltas error refused
    exact ⟨fun id => congrArg (TimeFile.seconds? · id) same, congrArg TimeFile.totals same⟩
  | relational store =>
    have same := table store host refused
    exact ⟨fun id => congrArg (store.seconds? · id) same, congrArg store.totals same⟩
  | mixed names store =>
    have same := table store host refused
    exact ⟨fun id => congrArg (store.seconds? · id) same, congrArg store.totals same⟩

theorem ready_creditAll (state : Backend × Host) (deltas : List (PlayerId × Int64)) {clock : Int64}
    (ready : TimesReady (state.1, state.2.showing clock)) : TimesReady
      ((Ledger.creditAll state deltas).2.1, (Ledger.creditAll state deltas).2.2.showing clock) := by
  have table (store : Sql.Store) (host : Host) (known : (store.tables? host).isSome = true) :
      (store.tables? (store.creditAll host deltas).2).isSome = true := by
    rwa [store.tables?_creditAll_isSome]
  obtain ⟨backend, host⟩ := state
  cases backend with
  | files names times =>
    obtain ⟨isOpen, recordable⟩ := ready
    refine ⟨(TimeFile.isOpen_creditAll times host.disk deltas).trans isOpen, ?_⟩
    show FlatFile.Recordable (TimeFile.creditAll times host.disk deltas).2.2
      (FlatFile.path (TimeFile.creditAll times host.disk deltas).2.1)
    unfold TimeFile.creditAll
    split
    · exact recordable
    · exact FlatFile.recordable_write recordable _
  | relational store => exact ⟨ready.1, table store host ready.2.1, ready.2.2⟩
  | mixed names store => exact ⟨ready.1, table store host ready.2.1, ready.2.2⟩

theorem admits_creditAll (state : Backend × Host) (deltas : List (PlayerId × Int64)) {clock : Int64} {id : PlayerId}
    {delta : Int64} (admits : AdmitsTime (state.1, state.2.showing clock) id delta)
    (same : balance (Ledger.creditAll state deltas).2 id = balance state id) : AdmitsTime
      ((Ledger.creditAll state deltas).2.1, (Ledger.creditAll state deltas).2.2.showing clock) id delta := by
  obtain ⟨backend, host⟩ := state
  cases backend with
  | files names times =>
    show Fits (balance (Ledger.creditAll (files names times, host) deltas).2 id + delta.toInt)
    rw [same]
    exact admits
  | relational store => exact admits
  | mixed names store => exact admits

/-- Makes credits one by one, each at a time of its own, up to the first that is refused. -/
def creditEach (state : Backend × Host) : List (Int64 × PlayerId × Int64) → Except StorageError Unit × Backend × Host
  | [] => (.ok (), state)
  | (clock, id, delta) :: rest =>
    match Ledger.credit (state.1, state.2.showing clock) id delta with
    | (.error error, after) => (.error error, after)
    | (.ok (), after) => creditEach after rest

theorem enters_singleton (backend : Backend) (id other : PlayerId) (delta : Int64) :
    backend.Enters [(id, delta)] other ↔ id = other ∧ delta ≠ 0 := by
  simp only [Enters, List.exists_mem_cons_iff, List.not_mem_nil, false_and, exists_false, or_false]
  grind

theorem credited_each {singles : List (Int64 × PlayerId × Int64)} (regular : TimesRegular state)
    (accepted : (creditEach state singles).1 = .ok ()) :
    Credited state (creditEach state singles).2 (singles.map Prod.snd) fun id =>
      ∃ single ∈ singles, single.2.1 = id ∧ single.2.2 ≠ 0 := by
  induction singles generalizing state with
  | nil =>
    have idle : Credited state state [] fun _ => False := credited_showing regular state.2.clock
    simpa [creditEach] using idle
  | cons single rest ih =>
    obtain ⟨clock, id, delta⟩ := single
    have shown := credited_showing regular clock
    unfold creditEach at accepted ⊢
    rw [credit_single] at accepted ⊢
    cases outcome : Ledger.creditAll (state.1, state.2.showing clock) [(id, delta)] with
    | mk result after =>
      rw [outcome] at accepted
      cases result with
      | error error => cases accepted
      | ok =>
        have first := credited_creditAll shown.regular (by rw [outcome])
        rw [outcome] at first
        have credited := (shown.trans first).trans (ih first.regular accepted)
        simpa [enters_singleton] using credited

theorem each_accepted {singles : List (Int64 × PlayerId × Int64)} (regular : TimesRegular state)
    (distinct : (singles.map fun single => single.2.1).Nodup)
    (ready : ∀ single ∈ singles, TimesReady (state.1, state.2.showing single.1))
    (admits : ∀ single ∈ singles, AdmitsTime (state.1, state.2.showing single.1) single.2.1 single.2.2) :
    (creditEach state singles).1 = .ok () := by
  induction singles generalizing state with
  | nil => rfl
  | cons single rest ih =>
    obtain ⟨clock, id, delta⟩ := single
    obtain ⟨apart, distinct⟩ := List.nodup_cons.mp distinct
    have shown := credited_showing regular clock
    have accepted : (Ledger.credit (state.1, state.2.showing clock) id delta).1 = .ok () :=
      (CheckedLedger.credit_eq_ok_iff _ id delta (ready _ List.mem_cons_self)).mpr (admits _ List.mem_cons_self)
    unfold creditEach
    rw [credit_single] at accepted ⊢
    have first := credited_creditAll shown.regular accepted
    have later (other : Int64 × PlayerId × Int64) (member : other ∈ rest) :=
      ready_creditAll (state.1, state.2.showing clock) [(id, delta)] (ready other (List.mem_cons_of_mem _ member))
    have others (other : Int64 × PlayerId × Int64) (member : other ∈ rest) := by
      apply admits_creditAll (state.1, state.2.showing clock) [(id, delta)]
        (admits other (List.mem_cons_of_mem _ member))
      rw [first.balance, secondsFor_of_absent, Int.add_zero]
      intro entry inside mine
      rw [List.mem_singleton.mp inside] at mine
      exact apart (List.mem_map.mpr ⟨other, member, mine.symm⟩)
    generalize Ledger.creditAll (state.1, state.2.showing clock) [(id, delta)] = result at *
    obtain ⟨outcome, after⟩ := result
    cases accepted
    exact ih first.regular distinct later others

/-- The player is mentioned in a batch of credits in a file, gets nothing of it and has no entry yet. -/
structure Idle (state : Backend × Host) (deltas : List (PlayerId × Int64)) (id : PlayerId) : Prop where
  filed : state.1.timeStore? = none
  nothing : (id, 0) ∈ deltas
  credited : ∃ other ∈ deltas, other.2 ≠ 0
  absent : Ledger.seconds? state id = .ok none

theorem enters_iff (isOpen : TimesOpen state) (deltas : List (PlayerId × Int64)) (id : PlayerId) :
    Present state id ∨ state.1.Enters deltas id ↔
      (Present state id ∨ ∃ entry ∈ deltas, entry.1 = id ∧ entry.2 ≠ 0) ∨ Idle state deltas id := by
  constructor
  · rintro (known | ⟨⟨other, delta⟩, member, mine, credits⟩)
    · exact .inl (.inl known)
    · cases mine
      by_cases some : delta = 0
      · subst some
        by_cases known : Present state other
        · exact .inl (.inl known)
        · obtain ⟨filed, credited⟩ := credits.resolve_left (fun differs => differs rfl)
          exact .inr ⟨filed, member, credited, seconds?_of_not_present isOpen known⟩
      · exact .inl (.inr ⟨_, member, rfl, some⟩)
  · rintro ((known | ⟨entry, member, mine, some⟩) | idle)
    · exact .inl known
    · exact .inr ⟨entry, member, mine, .inl some⟩
    · exact .inr ⟨_, idle.nothing, rfl, .inr ⟨idle.filed, idle.credited⟩⟩

theorem Idle.not_entered (idle : Idle state deltas id) (isOpen : TimesOpen state)
    (distinct : (deltas.map Prod.fst).Nodup) :
    ¬ (Present state id ∨ ∃ entry ∈ deltas, entry.1 = id ∧ entry.2 ≠ 0) := by
  rintro (known | ⟨entry, member, mine, some⟩)
  · exact (seconds?_eq_none_iff isOpen id).mp idle.absent known
  · rw [List.inj_on_of_nodup_map distinct member idle.nothing mine] at some
    exact some rfl

structure Beside (state batch each : Backend × Host) (deltas : List (PlayerId × Int64)) : Prop where
  seconds (id : PlayerId) (busy : ¬ Idle state deltas id) : Ledger.seconds? batch id = Ledger.seconds? each id
  idle (id : PlayerId) (idle : Idle state deltas id) :
    Ledger.seconds? batch id = .ok (some 0) ∧ Ledger.seconds? each id = .ok none
  totals (busy : ∀ id, ¬ Idle state deltas id) : Ledger.totals batch = Ledger.totals each
  listed (keyed : ListedLedger.Keyed state) (totals : Totals) (read : Ledger.totals each = .ok totals) :
    ∃ listed, Ledger.totals batch = .ok listed ∧
      ∀ id, (¬ Idle state deltas id → listed[id]? = totals[id]?) ∧ (Idle state deltas id → listed[id]? = some 0)

theorem beside_of_credited {batch each : Backend × Host} {singles : List (PlayerId × Int64)}
    (isOpen : TimesOpen state) (distinct : (deltas.map Prod.fst).Nodup) (perm : singles.Perm deltas)
    (first : Credited state batch deltas (state.1.Enters deltas))
    (second : Credited state each singles fun id => ∃ entry ∈ deltas, entry.1 = id ∧ entry.2 ≠ 0) :
    Beside state batch each deltas := by
  have batchOpen := first.isOpen.mpr isOpen
  have eachOpen := second.isOpen.mpr isOpen
  have balances (id : PlayerId) : balance batch id = balance each id := by
    rw [first.balance, second.balance, secondsFor_of_perm id perm]
  have present (id : PlayerId) : Present batch id ↔ Present each id ∨ Idle state deltas id := by
    rw [first.present, enters_iff isOpen, second.present]
  have alike (id : PlayerId) (busy : ¬ Idle state deltas id) : Present batch id ↔ Present each id := by
    rw [present, or_iff_left busy]
  have seconds (id : PlayerId) (busy : ¬ Idle state deltas id) :
      Ledger.seconds? batch id = Ledger.seconds? each id :=
    seconds?_alike eachOpen batchOpen (balances id) (alike id busy)
  have idle (id : PlayerId) (idle : Idle state deltas id) :
      Ledger.seconds? batch id = .ok (some 0) ∧ Ledger.seconds? each id = .ok none := by
    have absent := idle.not_entered isOpen distinct
    have nothing : balance batch id = 0 := by
      have zeros : secondsFor id deltas = 0 := by
        refine secondsFor_of_zeros id deltas fun entry member mine => ?_
        by_contra some
        exact absent (.inr ⟨entry, member, mine, some⟩)
      rw [first.balance, zeros, ← LawfulLedger.balance_of_seconds? state id none idle.absent]
      rfl
    rw [seconds?_of_present batchOpen ((present id).mpr (.inr idle)), nothing]
    exact ⟨rfl, seconds?_of_not_present eachOpen (mt (second.present id).mp absent)⟩
  refine ⟨seconds, idle, fun busy => ?_, fun keyed totals read => ?_⟩
  · exact totals_alike eachOpen batchOpen second.regular first.regular (first.kind.trans second.kind.symm)
      (fun text foreign => (first.foreign text foreign).trans (second.foreign text foreign).symm) balances
      fun id => alike id (busy id)
  · have fits (id : PlayerId) : Fits (balance each id) := by
      by_contra misfit
      rw [(ListedLedger.fails_of_misfit each id eachOpen (second.keyed keyed) misfit).1] at read
      cases read
    obtain ⟨kept, read', entries⟩ := ListedLedger.totals_of_fits each eachOpen (second.keyed keyed) fits
    cases read.symm.trans read'
    obtain ⟨listed, found, entries'⟩ :=
      ListedLedger.totals_of_fits batch batchOpen (first.keyed keyed) fun id => balances id ▸ fits id
    refine ⟨listed, found, fun id => ⟨fun busy => ?_, fun rests => ?_⟩⟩
    · have same := seconds id busy
      rw [entries, entries'] at same
      exact Except.ok.inj same
    · have zero := (idle id rests).1
      rw [entries'] at zero
      exact Except.ok.inj zero

/--
A batch of credits is refused as out of range exactly if one of its credits alone would be, and nothing is changed then.
Accepted, it leaves the readings that its credits one by one leave, in any order and at any time, but for the idle
players: those it gives an entry of zero seconds. While nothing stands in the way of writing, its credits are accepted
alone if it is accepted, and one by one if they are accepted alone.
-/
theorem batch_beside_singles (state : Backend × Host) (deltas : List (PlayerId × Int64))
    (singles : List (Int64 × PlayerId × Int64)) (isOpen : TimesOpen state) (regular : TimesRegular state)
    (distinct : (deltas.map Prod.fst).Nodup) (perm : (singles.map Prod.snd).Perm deltas) :
    let batch := Ledger.creditAll state deltas
    let each := creditEach state singles
    ((∃ id delta, batch.1 = .error (.outOfRange id delta)) ↔ ∃ entry ∈ deltas, ∃ id delta,
      (Ledger.credit state entry.1 entry.2).1 = .error (.outOfRange id delta)) ∧
    (batch.1 ≠ .ok () → (∀ id, Ledger.seconds? batch.2 id = Ledger.seconds? state id) ∧
      Ledger.totals batch.2 = Ledger.totals state) ∧
    (batch.1 = .ok () → each.1 = .ok () → Beside state batch.2 each.2 deltas) ∧
    (TimesReady state → batch.1 = .ok () → ∀ entry ∈ deltas, (Ledger.credit state entry.1 entry.2).1 = .ok ()) ∧
    ((∀ single ∈ singles, let now := (state.1, state.2.showing single.1)
      TimesReady now ∧ (Ledger.credit now single.2.1 single.2.2).1 = .ok ()) → each.1 = .ok ()) := by
  intro batch each
  have players : (singles.map fun single => single.2.1).Nodup := by
    have same := (perm.map Prod.fst).nodup_iff.mpr distinct
    rwa [List.map_map] at same
  refine ⟨?_, fun failed => ?_, fun accepted accepted' => ?_, fun ready accepted entry member => ?_, fun alone => ?_⟩
  · rw [refusal_iff isOpen distinct]
    simp only [credit_refusal_iff isOpen]
  · cases outcome : batch.1 with
    | ok => exact absurd outcome failed
    | error error => exact readings_of_refused outcome
  · have second := credited_each regular accepted'
    refine beside_of_credited isOpen distinct perm (credited_creditAll regular accepted) ?_
    have same (id : PlayerId) : (∃ single ∈ singles, single.2.1 = id ∧ single.2.2 ≠ 0) ↔
        ∃ entry ∈ deltas, entry.1 = id ∧ entry.2 ≠ 0 := by
      simp only [← perm.mem_iff, List.mem_map, exists_exists_and_eq_and]
    simpa only [same] using second
  · rw [CheckedLedger.credit_eq_ok_iff _ _ _ ready]
    rcases CheckedLedger.outcome state deltas ready distinct with ⟨admitted, -⟩ | ⟨other, -, -, refused⟩
    · exact admitted entry member
    · cases accepted.symm.trans refused
  · refine each_accepted regular players (fun single member => (alone single member).1) fun single member => ?_
    obtain ⟨ready, accepted⟩ := alone single member
    exact (CheckedLedger.credit_eq_ok_iff _ _ _ ready).mp accepted

def emptyFiles : Backend × Host :=
  (files ⟨["names.json"], ∅, true⟩ ⟨["time.json"], ∅, true⟩, ⟨.empty, [], 3600000⟩)

/-- A credit and a debit, made the other way round and an hour later, leave what their batch leaves. -/
theorem batch_beside_singles_of_debit :
    let ann : PlayerId := ⟨1⟩
    let ben : PlayerId := ⟨2⟩
    let deltas : List (PlayerId × Int64) := [(ann, 60), (ben, -5)]
    let batch := Ledger.creditAll emptyFiles deltas
    let each := creditEach emptyFiles [(3600000, ben, -5), (7200000, ann, 60)]
    batch.1 = .ok () ∧ each.1 = .ok () ∧ Ledger.seconds? batch.2 ben = .ok (some (-5)) ∧
      Ledger.seconds? batch.2 ann = Ledger.seconds? each.2 ann ∧ Ledger.totals batch.2 = Ledger.totals each.2 := by
  intro ann ben deltas batch each
  obtain ⟨-, -, beside, -, accepted⟩ := batch_beside_singles emptyFiles deltas [(3600000, ben, -5), (7200000, ann, 60)]
    rfl trivial (by decide) (.swap _ _ _)
  have ready : TimesReady emptyFiles := ⟨rfl, rfl, ⟨["time.json.tmp"], by decide +kernel, by decide +kernel⟩,
    ⟨["time.json"], by decide +kernel, by decide +kernel⟩⟩
  have done : batch.1 = .ok () := by decide +kernel
  have alone : each.1 = .ok () := by
    refine accepted ?_
    simp only [List.forall_mem_cons, List.not_mem_nil, false_implies, implies_true, and_true]
    exact ⟨⟨ready, by decide +kernel⟩, ready, by decide +kernel⟩
  have amounts : ∀ entry ∈ deltas, entry.2 ≠ 0 := by decide +kernel
  have busy (id : PlayerId) : ¬ Idle emptyFiles deltas id := fun idle => amounts _ idle.nothing rfl
  have both : Beside emptyFiles batch.2 each.2 deltas := beside done alone
  exact ⟨done, alone, by decide +kernel, both.seconds ann (busy ann), both.totals busy⟩

/-- Beside a credit, nothing at all gives a player an entry, which it does not alone. -/
theorem nothing_enters_player :
    let ann : PlayerId := ⟨1⟩
    let ben : PlayerId := ⟨2⟩
    let deltas : List (PlayerId × Int64) := [(ann, 5), (ben, 0)]
    let batch := Ledger.creditAll emptyFiles deltas
    let each := creditEach emptyFiles (deltas.map fun entry => (3600000, entry))
    batch.1 = .ok () ∧ each.1 = .ok () ∧ Ledger.seconds? batch.2 ben = .ok (some 0) ∧
      Ledger.seconds? each.2 ben = .ok none := by
  intro ann ben deltas batch each
  exact ⟨by decide +kernel, by decide +kernel, by decide +kernel, by decide +kernel⟩

end Backend

end Playtime
