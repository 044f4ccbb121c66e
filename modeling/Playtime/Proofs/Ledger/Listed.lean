import Playtime.Proofs.Ledger.Intervals

namespace Playtime

open LawfulLedger (IsOpen balance)

/-- A ledger that lists what it tells of each player. -/
class ListedLedger (σ : Type) [Ledger σ] [LawfulLedger σ] where
  Keyed : σ → Prop
  keyed_creditAll (ledger : σ) (deltas : List (PlayerId × Int64)) (keyed : Keyed ledger) :
    Keyed (Ledger.creditAll ledger deltas).2
  keyed_close (ledger : σ) (keyed : Keyed ledger) : Keyed (Ledger.close ledger)
  totals_of_fits (ledger : σ) (isOpen : IsOpen ledger) (keyed : Keyed ledger)
    (fits : ∀ id, Fits (balance ledger id)) :
    ∃ totals, Ledger.totals ledger = .ok totals ∧ ∀ id, Ledger.seconds? ledger id = .ok totals[id]?
  fails_of_misfit (ledger : σ) (id : PlayerId) (isOpen : IsOpen ledger) (keyed : Keyed ledger)
    (misfit : ¬ Fits (balance ledger id)) :
    Ledger.totals ledger = .error .databaseFailure ∧ Ledger.seconds? ledger id = .error .databaseFailure

namespace TimeFile

/-- Every key is the text of an identifier, and not another spelling of it. -/
def Canonical (times : FlatObject.Members Int64) : Prop := ∀ text ∈ times, ∃ id : PlayerId, text = id.toText

theorem Canonical.addTo {times changed : FlatObject.Members Int64} (canonical : Canonical times) (id : PlayerId)
    (delta : Int64) (added : addTo times id delta = .ok changed) : Canonical changed := by
  unfold TimeFile.addTo at added
  split at added
  · cases added
    intro text member
    rcases Std.ExtTreeMap.mem_insert.mp member with same | member
    · exact ⟨id, (Std.LawfulEqOrd.eq_of_compare same).symm⟩
    · exact canonical text member
  · cases added

theorem Canonical.addAll {times changed : FlatObject.Members Int64} (canonical : Canonical times)
    (deltas : List (PlayerId × Int64)) (added : addAll times deltas = .ok changed) : Canonical changed := by
  induction deltas generalizing times with
  | nil =>
    cases added
    exact canonical
  | cons entry deltas ih =>
    unfold TimeFile.addAll at added
    split at added
    · cases added
    · next first step => exact ih (canonical.addTo entry.1 entry.2 step) added

theorem Canonical.creditAll {file : TimeFile} (canonical : Canonical file.members) (disk : Disk)
    (deltas : List (PlayerId × Int64)) : Canonical (file.creditAll disk deltas).2.1.members := by
  cases outcome : (file.creditAll disk deltas).1 with
  | error error => rwa [creditAll_refused file disk deltas error outcome]
  | ok =>
    unfold TimeFile.creditAll at *
    split
    · exact canonical
    · next some =>
      rw [if_neg some] at outcome
      obtain ⟨members, changed, after⟩ := FlatFile.write_accepted file disk _ outcome
      rw [after]
      exact canonical.addAll deltas changed

def Readable (times : FlatObject.Members Int64) : Prop := ∀ text ∈ times, (PlayerId.ofText? text).isSome = true

instance (times : FlatObject.Members Int64) : Decidable (Readable times) :=
  decidable_of_iff (∀ text ∈ times.keys, (PlayerId.ofText? text).isSome = true)
    (by simp only [Readable, Std.ExtTreeMap.mem_keys])

def listed? (times : FlatObject.Members Int64) (id : PlayerId) : Option Int64 :=
  ((times.toList.filter fun entry => PlayerId.ofText? entry.1 = some id).getLast?).map Prod.snd

theorem fst_mem {times : FlatObject.Members Int64} {entry : String × Int64} (member : entry ∈ times.toList) :
    entry.1 ∈ times := by
  rw [← Std.ExtTreeMap.mem_keys, ← Std.ExtTreeMap.map_fst_toList_eq_keys]
  exact List.mem_map_of_mem member

theorem isSome_listed?_iff (times : FlatObject.Members Int64) (id : PlayerId) :
    (listed? times id).isSome = true ↔ ∃ text ∈ times, PlayerId.ofText? text = some id := by
  rw [listed?, Option.isSome_map, List.getLast?_isSome]
  constructor
  · intro some
    obtain ⟨entry, member⟩ := List.exists_mem_of_ne_nil _ some
    obtain ⟨member, mine⟩ := List.mem_filter.mp member
    exact ⟨entry.1, fst_mem member, of_decide_eq_true mine⟩
  · rintro ⟨text, member, mine⟩
    have found := Std.ExtTreeMap.mem_toList_iff_getElem?_eq_some.mpr (Std.ExtTreeMap.getElem?_eq_some_getElem member)
    exact List.ne_nil_of_mem (List.mem_filter.mpr ⟨found, decide_eq_true mine⟩)

theorem listed?_of_own {times : FlatObject.Members Int64} {id : PlayerId}
    (own : ∀ text ∈ times, PlayerId.ofText? text = some id → text = id.toText) :
    listed? times id = times[id.toText]? := by
  cases last : (times.toList.filter fun entry => PlayerId.ofText? entry.1 = some id).getLast? with
  | none =>
    have absent : id.toText ∉ times := by
      intro member
      have some := (isSome_listed?_iff times id).mpr ⟨id.toText, member, PlayerId.ofText?_toText id⟩
      rw [listed?, last] at some
      cases some
    rw [listed?, last, Std.ExtTreeMap.getElem?_eq_none absent]
    rfl
  | some entry =>
    obtain ⟨member, mine⟩ := List.mem_filter.mp (List.mem_of_getLast? last)
    have same := own entry.1 (fst_mem member) (of_decide_eq_true mine)
    rw [listed?, last, ← same, Std.ExtTreeMap.mem_toList_iff_getElem?_eq_some.mp member]
    rfl

theorem collect_of_readable (totals : Totals) (entries : List (String × Int64))
    (readable : ∀ entry ∈ entries, (PlayerId.ofText? entry.1).isSome = true) :
    ∃ result, collect totals entries = .ok result ∧ ∀ id, result[id]? =
      (((entries.filter fun entry => PlayerId.ofText? entry.1 = some id).getLast?).map Prod.snd).or totals[id]? := by
  induction entries generalizing totals with
  | nil => exact ⟨totals, rfl, fun id => by simp⟩
  | cons entry entries ih =>
    obtain ⟨text, seconds⟩ := entry
    obtain ⟨first, read⟩ := Option.isSome_iff_exists.mp (readable (text, seconds) (by simp))
    obtain ⟨result, collected, found⟩ :=
      ih (totals.insert first seconds) fun entry member => readable entry (List.mem_cons_of_mem _ member)
    refine ⟨result, by rw [collect, read]; exact collected, fun id => ?_⟩
    -- What the first entry says of its player counts only if no later entry is the player's.
    rw [found, Std.ExtTreeMap.getElem?_insert, List.filter_cons]
    by_cases mine : first = id
    · subst mine
      simp only [read, decide_true, if_true, Std.ReflCmp.compare_self, List.getLast?_cons]
      cases (entries.filter fun entry => PlayerId.ofText? entry.1 = some first).getLast? <;> simp
    · simp [read, mine]

theorem totals_of_readable {file : TimeFile} (isOpen : file.isOpen = true) (readable : Readable file.members) :
    ∃ totals, file.totals = .ok totals ∧ ∀ id : PlayerId, totals[id]? = listed? file.members id := by
  obtain ⟨totals, collected, found⟩ :=
    collect_of_readable ∅ file.members.toList fun entry member => readable entry.1 (fst_mem member)
  refine ⟨totals, ?_, fun id => ?_⟩
  · unfold TimeFile.totals FlatFile.read
    rw [if_pos isOpen]
    exact collected
  · rw [found, Std.ExtTreeMap.getElem?_empty, Option.or_none]
    rfl

theorem seconds?_of_isOpen {file : TimeFile} (isOpen : file.isOpen = true) (id : PlayerId) :
    file.seconds? id = .ok file.members[id.toText]? := if_pos isOpen

theorem totals_of_canonical (file : TimeFile) (isOpen : file.isOpen = true) (canonical : Canonical file.members) :
    ∃ totals, file.totals = .ok totals ∧ ∀ id, file.seconds? id = .ok totals[id]? := by
  have readable : Readable file.members := by
    intro text member
    obtain ⟨id, rfl⟩ := canonical text member
    rw [PlayerId.ofText?_toText]
    rfl
  obtain ⟨totals, read, found⟩ := totals_of_readable isOpen readable
  refine ⟨totals, read, fun id => ?_⟩
  rw [seconds?_of_isOpen isOpen, found, listed?_of_own]
  intro text member mine
  obtain ⟨other, rfl⟩ := canonical text member
  rw [PlayerId.ofText?_toText] at mine
  rw [Option.some.inj mine]

instance : ListedLedger (TimeFile × Disk) where
  Keyed state := Canonical state.1.members
  keyed_creditAll state deltas keyed := keyed.creditAll state.2 deltas
  keyed_close _ keyed := keyed
  totals_of_fits state isOpen keyed _ := totals_of_canonical state.1 isOpen keyed
  fails_of_misfit _ _ _ _ misfit := absurd (fits_toInt _) misfit

end TimeFile

namespace Sql.Store

theorem keyed_creditAll (store : Store) (host : Host) (deltas : List (PlayerId × Int64))
    (keyed : ∀ tables, store.tables? host = some tables → tables.Keyed) :
    ∀ tables, store.tables? (store.creditAll host deltas).2 = some tables → tables.Keyed := by
  cases outcome : (store.creditAll host deltas).1 with
  | error error => rwa [creditAll_refused store host deltas error outcome]
  | ok =>
    intro changed held
    obtain ⟨before, after, known, step, written⟩ := write_accepted store host _ outcome
    cases held.symm.trans written
    have start := keyed before known
    split at step
    · cases step
    · cases step
      exact start
    · cases step
    · cases step
      exact start.record _ _ _

theorem sum_of_misfit {exact : Int} (misfit : ¬ Fits exact) : sum exact = .error .databaseFailure := by
  have outside : int64? exact = none := if_neg misfit
  unfold sum
  rw [outside]

theorem sums_of_misfit (entries : List (Key × Int)) (entry : Key × Int) (member : entry ∈ entries)
    (misfit : ¬ Fits entry.2) : sums entries = .error .databaseFailure := by
  induction entries with
  | nil => cases member
  | cons first entries ih =>
    unfold sums
    by_cases fits : Fits first.2
    · have later : entry ∈ entries := by
        rcases List.mem_cons.mp member with rfl | later
        · exact absurd fits misfit
        · exact later
      rw [sum_of_fits fits, ih later]
      rfl
    · rw [sum_of_misfit fits]

theorem fails_of_misfit {store : Store} {host : Host} {tables : Tables} (isOpen : store.isOpen = true)
    (held : store.tables? host = some tables) (keyed : tables.Keyed) (id : PlayerId)
    (misfit : ¬ Fits (tables.kept id.toBytes)) :
    store.totals host = .error .databaseFailure ∧ store.seconds? host id = .error .databaseFailure := by
  unfold Tables.kept at misfit
  unfold totals seconds? Store.read
  rw [if_pos isOpen, if_pos isOpen, held]
  cases known : tables.secondsOf? id.toBytes with
  | none =>
    rw [known] at misfit
    exact absurd (fits_toInt 0) misfit
  | some exact =>
    rw [known, Option.getD_some] at misfit
    have member := (keyed.mem_totals id.toBytes exact).mpr known
    dsimp only
    rw [sums_of_misfit tables.totals _ member misfit, known]
    dsimp only
    rw [sum_of_misfit misfit]
    exact ⟨rfl, rfl⟩

theorem totals_of_same {store other : Store} {host after : Host} {tables changed : Tables}
    (isOpen : store.isOpen = true) (isOpen' : other.isOpen = true) (held : store.tables? host = some tables)
    (held' : other.tables? after = some changed) (keyed : tables.Keyed) (keyed' : changed.Keyed)
    (same : ∀ id : PlayerId, changed.secondsOf? id.toBytes = tables.secondsOf? id.toBytes) :
    other.totals after = store.totals host := by
  have kept (id : PlayerId) : changed.kept id.toBytes = tables.kept id.toBytes := by
    rw [Tables.kept, Tables.kept, same]
  by_cases fits : ∀ id : PlayerId, Fits (tables.kept id.toBytes)
  · obtain ⟨totals, read, entries, -⟩ := totals_of_keyed isOpen held keyed fits
    obtain ⟨totals', read', entries', -⟩ := totals_of_keyed isOpen' held' keyed' fun id => kept id ▸ fits id
    rw [read, read']
    congr 1
    apply Std.ExtTreeMap.ext_getElem?
    intro id
    rw [entries, entries', same]
  · obtain ⟨id, misfit⟩ := not_forall.mp fits
    rw [(fails_of_misfit isOpen held keyed id misfit).1,
      (fails_of_misfit isOpen' held' keyed' id (kept id ▸ misfit)).1]

instance : ListedLedger (Store × Host) where
  Keyed state := ∀ tables, state.1.tables? state.2 = some tables → tables.Keyed
  keyed_creditAll state deltas keyed := keyed_creditAll state.1 state.2 deltas keyed
  keyed_close _ keyed := keyed
  totals_of_fits state isOpen keyed fits := by
    obtain ⟨opened, known⟩ := isOpen
    obtain ⟨tables, held⟩ := Option.isSome_iff_exists.mp known
    have room (id : PlayerId) : Fits (tables.kept id.toBytes) := by
      have fits := fits id
      change Fits (state.1.kept state.2 id) at fits
      rwa [kept, held] at fits
    obtain ⟨totals, read, entries, -⟩ := totals_of_keyed opened held (keyed tables held) room
    refine ⟨totals, read, fun id => ?_⟩
    rw [entries]
    exact seconds?_of_held opened held id (room id)
  fails_of_misfit state id isOpen keyed misfit := by
    obtain ⟨opened, known⟩ := isOpen
    obtain ⟨tables, held⟩ := Option.isSome_iff_exists.mp known
    change ¬ Fits (state.1.kept state.2 id) at misfit
    rw [kept, held] at misfit
    exact fails_of_misfit opened held (keyed tables held) id misfit

end Sql.Store

namespace Backend

open ListedLedger (Keyed)

def KeyedTimes : Backend × Host → Prop
  | (files _ times, host) => Keyed (times, host.disk)
  | (relational store, host) => Keyed (store, host)
  | (mixed _ store, host) => Keyed (store, host)

instance : ListedLedger (Backend × Host) where
  Keyed := KeyedTimes
  keyed_creditAll state deltas keyed := by
    obtain ⟨backend, host⟩ := state
    cases backend with
    | files names times => exact ListedLedger.keyed_creditAll (times, host.disk) deltas keyed
    | relational store => exact ListedLedger.keyed_creditAll (store, host) deltas keyed
    | mixed names store => exact ListedLedger.keyed_creditAll (store, host) deltas keyed
  keyed_close state keyed := by
    obtain ⟨backend, host⟩ := state
    cases backend <;> exact keyed
  totals_of_fits state isOpen keyed fits := by
    obtain ⟨backend, host⟩ := state
    cases backend with
    | files names times => exact ListedLedger.totals_of_fits (times, host.disk) isOpen keyed fits
    | relational store => exact ListedLedger.totals_of_fits (store, host) isOpen keyed fits
    | mixed names store => exact ListedLedger.totals_of_fits (store, host) isOpen keyed fits
  fails_of_misfit state id isOpen keyed misfit := by
    obtain ⟨backend, host⟩ := state
    cases backend with
    | files names times => exact ListedLedger.fails_of_misfit (times, host.disk) id isOpen keyed misfit
    | relational store => exact ListedLedger.fails_of_misfit (store, host) id isOpen keyed misfit
    | mixed names store => exact ListedLedger.fails_of_misfit (store, host) id isOpen keyed misfit

end Backend

end Playtime
