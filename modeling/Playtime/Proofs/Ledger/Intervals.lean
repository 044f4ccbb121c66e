import Mathlib.Algebra.BigOperators.Group.List.Basic
import Mathlib.Algebra.Ring.Int.Defs
import Mathlib.Data.Set.List
import Playtime.Proofs.Ledger.Checked
import Playtime.Proofs.Names.Relational

namespace Playtime

def creditedTo (id : PlayerId) (batch : List (PlayerId × Int64)) : Option Int :=
  if ∃ entry ∈ batch, entry.1 = id ∧ entry.2 ≠ 0 then some (secondsFor id batch) else none

theorem creditedTo_nil (id : PlayerId) : creditedTo id [] = none := by simp [creditedTo]

theorem getD_creditedTo (id : PlayerId) (batch : List (PlayerId × Int64)) :
    (creditedTo id batch).getD 0 = secondsFor id batch := by
  unfold creditedTo
  split
  · rfl
  · next none =>
    refine (secondsFor_of_zeros id batch fun entry member mine => ?_).symm
    by_contra some
    exact none ⟨entry, member, mine, some⟩

theorem creditedTo_append (id : PlayerId) (first second : List (PlayerId × Int64)) :
    creditedTo id (first ++ second) =
      if ∃ entry ∈ second, entry.1 = id ∧ entry.2 ≠ 0 then some (secondsFor id first + secondsFor id second)
      else creditedTo id first := by
  unfold creditedTo
  by_cases later : ∃ entry ∈ second, entry.1 = id ∧ entry.2 ≠ 0
  · have either : ∃ entry ∈ first ++ second, entry.1 = id ∧ entry.2 ≠ 0 := by
      obtain ⟨entry, member, credited⟩ := later
      exact ⟨entry, List.mem_append_right _ member, credited⟩
    rw [if_pos either, if_pos later, secondsFor_append]
  · have zeros : ∀ entry ∈ second, entry.1 = id → entry.2 = 0 := by
      intro entry member mine
      by_contra some
      exact later ⟨entry, member, mine, some⟩
    have either : (∃ entry ∈ first ++ second, entry.1 = id ∧ entry.2 ≠ 0) ↔
        ∃ entry ∈ first, entry.1 = id ∧ entry.2 ≠ 0 := by
      constructor
      · rintro ⟨entry, member, mine, some⟩
        rcases List.mem_append.mp member with inside | inside
        · exact ⟨entry, inside, mine, some⟩
        · exact absurd (zeros entry inside mine) some
      · rintro ⟨entry, member, credited⟩
        exact ⟨entry, List.mem_append_left _ member, credited⟩
    rw [if_neg later, secondsFor_append, secondsFor_of_zeros id second zeros, Int.add_zero]
    simp only [either]

namespace Sql

namespace Store

theorem mem_joinedAll (id : PlayerId) (left : Int64) (deltas : List (PlayerId × Int64))
    (intervals : List (PlayerId × Timestamp)) (accepted : joinedAll left deltas = .ok intervals) :
    id ∈ intervals.map Prod.fst ↔ ∃ entry ∈ deltas, entry.1 = id ∧ entry.2 ≠ 0 := by
  induction deltas generalizing intervals with
  | nil =>
    cases accepted
    simp
  | cons entry rest ih =>
    obtain ⟨other, delta⟩ := entry
    unfold joinedAll at accepted
    split at accepted
    · next zero =>
      rw [ih intervals accepted]
      simp [zero]
    · next some =>
      split at accepted
      · cases accepted
      · next first step =>
        cases others : joinedAll left rest with
        | error error =>
          rw [others] at accepted
          cases accepted
        | ok later =>
          rw [others] at accepted
          cases accepted
          rw [List.map_cons, List.mem_cons, ih later others]
          simp [some, eq_comm]

end Store

namespace Tables

theorem Keyed.ensurePlayer {tables : Tables} (keyed : tables.Keyed) (id : PlayerId) :
    (tables.ensurePlayer id.toBytes).Keyed := by
  unfold Tables.ensurePlayer
  split
  · exact keyed
  · next absent =>
    exact keyed.append id none (by simpa using absent)

theorem Keyed.insertInterval {tables : Tables} (keyed : tables.Keyed) (key : Key) (world : Nat)
    (joined left : Timestamp) : (tables.insertInterval key world joined left).Keyed := by
  apply keyed.of_keys
  unfold Tables.insertInterval
  split <;> rfl

theorem Keyed.record {tables : Tables} (keyed : tables.Keyed) (world : Nat) (left : Timestamp)
    (intervals : List (PlayerId × Timestamp)) : (Store.record tables world left intervals).Keyed := by
  induction intervals generalizing tables with
  | nil => exact keyed
  | cons entry rest ih => exact ih ((keyed.ensurePlayer entry.1).insertInterval entry.1.toBytes world entry.2 left)

structure Accounts (tables : Tables) (batch : List (PlayerId × Int64)) : Prop where
  keyed : tables.Keyed
  owned : tables.Owned
  seconds (id : PlayerId) : tables.secondsOf? id.toBytes = creditedTo id batch

theorem Accounts.kept {tables : Tables} {batch : List (PlayerId × Int64)} (accounts : tables.Accounts batch)
    (id : PlayerId) : tables.kept id.toBytes = secondsFor id batch := by
  rw [Tables.kept, accounts.seconds, getD_creditedTo]

theorem secondsOf?_of_no_intervals (tables : Tables) (key : Key) (none : tables.intervals = []) :
    tables.secondsOf? key = .none := by
  cases known : tables.players.findIdx? fun row => row.key = key with
  | none => exact secondsOf?_of_no_row tables key known
  | some player =>
    rw [secondsOf?_of_row tables key player known, intervalsOf, none]
    rfl

theorem Accounts.of_no_intervals {tables : Tables} (keyed : tables.Keyed) (none : tables.intervals = []) :
    tables.Accounts [] where
  keyed := keyed
  owned row member := by
    rw [none] at member
    cases member
  seconds id := by
    rw [creditedTo_nil, secondsOf?_of_no_intervals tables id.toBytes none]

theorem Accounts.record {tables : Tables} {batch : List (PlayerId × Int64)} (accounts : tables.Accounts batch)
    (world : Nat) (seconds : Int64) (left : Timestamp) (deltas : List (PlayerId × Int64))
    (intervals : List (PlayerId × Timestamp)) (read : Timestamp.ofUnix? seconds.toInt = some left)
    (accepted : Store.joinedAll seconds deltas = .ok intervals) :
    (Store.record tables world left intervals).Accounts (batch ++ deltas) where
  keyed := accounts.keyed.record world left intervals
  owned := Store.owned_record tables world left intervals accounts.owned
  seconds id := by
    have lengths := Store.lengthFor_joinedAll id seconds deltas intervals accepted
    rw [Store.secondsOf?_record tables world left id intervals accounts.owned, creditedTo_append, accounts.kept,
      accounts.seconds, Store.seconds_ofUnix? read, lengths]
    simp only [Store.mem_joinedAll id seconds deltas intervals accepted]

theorem Keyed.row_of_getElem? {tables : Tables} (keyed : tables.Keyed) (player : Nat) (row : PlayerRow)
    (found : tables.players[player]? = some row) :
    (tables.players.findIdx? fun other => other.key = row.key) = some player := by
  obtain ⟨inside, rfl⟩ := List.getElem?_eq_some_iff.mp found
  refine List.findIdx?_eq_some_iff_getElem.mpr ⟨inside, by simp, fun earlier before same => ?_⟩
  have keys : (tables.players.map PlayerRow.key)[earlier]? = (tables.players.map PlayerRow.key)[player]? := by
    rw [List.getElem?_map, List.getElem?_map, List.getElem?_eq_getElem inside, List.getElem?_eq_getElem (by omega)]
    simpa using same
  have meets := (List.getElem?_inj (by simp; omega) keyed.distinct).mp keys
  omega

theorem Keyed.mem_totals {tables : Tables} (keyed : tables.Keyed) (key : Key) (seconds : Int) :
    (key, seconds) ∈ tables.totals ↔ tables.secondsOf? key = some seconds := by
  unfold totals
  rw [List.mem_filterMap]
  constructor
  · rintro ⟨⟨row, player⟩, member, entry⟩
    have found := List.mem_zipIdx_iff_getElem?.mp member
    obtain ⟨sum, read, same⟩ := Option.map_eq_some_iff.mp entry
    cases same
    rw [secondsOf?_of_row tables row.key player (keyed.row_of_getElem? player row found), read]
  · intro read
    cases known : tables.players.findIdx? fun row => row.key = key with
    | none =>
      rw [secondsOf?_of_no_row tables key known] at read
      cases read
    | some player =>
      obtain ⟨inside, mine, -⟩ := List.findIdx?_eq_some_iff_getElem.mp known
      rw [secondsOf?_of_row tables key player known] at read
      refine ⟨(tables.players[player], player), ?_, ?_⟩
      · exact List.mem_zipIdx_iff_getElem?.mpr (List.getElem?_eq_getElem inside)
      · dsimp only
        rw [read, ← of_decide_eq_true mine]
        rfl

theorem Keyed.nodup_totals {tables : Tables} (keyed : tables.Keyed) : (tables.totals.map Prod.fst).Nodup := by
  have rows : tables.players.zipIdx.Pairwise fun first second => first.1.key ≠ second.1.key := by
    have distinct := keyed.distinct
    rw [← List.zipIdx_map_fst 0 tables.players, List.map_map] at distinct
    exact List.pairwise_map.mp distinct
  unfold totals
  rw [List.map_filterMap]
  refine rows.filterMap _ fun first second apart key read other read' => ?_
  have mine (entry : PlayerRow × Nat) (key : Key) (read : ((sum? (tables.intervalsOf entry.2)).map fun seconds =>
      (entry.1.key, seconds)).map Prod.fst = some key) : entry.1.key = key := by
    rw [Option.map_map] at read
    obtain ⟨_, _, same⟩ := Option.map_eq_some_iff.mp read
    exact same
  rwa [mine first key read, mine second other read'] at apart

theorem sum_filterMap {α : Type} (f : α → Option Int) (entries : List α) :
    (entries.filterMap f).sum = (entries.map fun entry => (f entry).getD 0).sum := by
  induction entries with
  | nil => rfl
  | cons entry entries ih =>
    cases known : f entry with
    | none => simp [known, ih]
    | some seconds => simp [known, ih]

theorem sum_by_player (rows : List IntervalRow) (count : Nat) (owned : ∀ row ∈ rows, row.player < count) :
    ((List.range count).map fun player => IntervalRow.sum (rows.filter fun row => row.player = player)).sum =
      IntervalRow.sum rows := by
  induction rows with
  | nil => simp [IntervalRow.sum]
  | cons row rows ih =>
    have split : (fun player => IntervalRow.sum ((row :: rows).filter fun row => row.player = player)) = fun player =>
        (if player = row.player then row.seconds else 0) +
          IntervalRow.sum (rows.filter fun row => row.player = player) := by
      funext player
      by_cases mine : row.player = player
      · simp [mine, IntervalRow.sum]
      · simp [mine, Ne.symm mine]
    have inside := owned row (by simp)
    have once : (List.range count).count row.player = 1 :=
      List.count_eq_one_of_mem List.nodup_range (List.mem_range.mpr inside)
    have others := ih fun other member => owned other (List.mem_cons_of_mem _ member)
    rw [split, List.sum_map_add, others, List.sum_map_ite_eq, once, IntervalRow.sum]
    simp

theorem sum_totals (tables : Tables) (owned : tables.Owned) : (tables.totals.map Prod.snd).sum = tables.grandTotal := by
  have rows := sum_by_player tables.intervals tables.players.length owned
  rw [List.range_eq_range', ← List.zipIdx_map_snd, List.map_map] at rows
  unfold totals grandTotal
  rw [List.map_filterMap, sum_filterMap, ← rows]
  congr 2
  funext entry
  rw [Option.map_map, Function.comp_apply, ← getD_sum?]
  show ((sum? (tables.intervalsOf entry.2)).map id).getD 0 = _
  rw [Option.map_id_fun, id_eq]
  rfl

theorem Keyed.totals_eq_map {tables : Tables} (keyed : tables.Keyed) :
    ∃ pairs : List (PlayerId × Int), tables.totals = pairs.map fun pair => (pair.1.toBytes, pair.2) := by
  have keys : ∀ entry ∈ tables.totals, entry ∈ Set.range fun pair : PlayerId × Int => (pair.1.toBytes, pair.2) := by
    intro entry member
    obtain ⟨⟨row, player⟩, inside, read⟩ := List.mem_filterMap.mp member
    obtain ⟨seconds, _, rfl⟩ := Option.map_eq_some_iff.mp read
    obtain ⟨id, mine⟩ := keyed.keys row (List.mem_of_getElem? (List.mem_zipIdx_iff_getElem?.mp inside))
    exact ⟨(id, seconds), by rw [mine]⟩
  obtain ⟨pairs, listed⟩ := (Set.range_list_map _).ge keys
  exact ⟨pairs, listed.symm⟩

end Tables

namespace Store

theorem sum_of_fits {exact : Int} (fits : Fits exact) : sum exact = .ok (Int64.ofInt exact) := by
  have inside : int64? exact = some (Int64.ofInt exact) := if_pos fits
  unfold sum
  rw [inside]

theorem sums_of_fits (pairs : List (PlayerId × Int)) (fits : ∀ pair ∈ pairs, Fits pair.2) :
    sums (pairs.map fun pair => (pair.1.toBytes, pair.2)) =
      .ok (pairs.map fun pair => (pair.1.toBytes, Int64.ofInt pair.2)) := by
  induction pairs with
  | nil => rfl
  | cons pair pairs ih =>
    have others := ih fun other member => fits other (List.mem_cons_of_mem _ member)
    simp only [List.map_cons, sums, sum_of_fits (fits pair (by simp)), others]
    rfl

theorem collect_eq (start : Totals) (pairs : List (PlayerId × Int)) :
    collect start (pairs.map fun pair => (pair.1.toBytes, Int64.ofInt pair.2)) =
      .ok (start.insertMany (pairs.map fun pair => (pair.1, Int64.ofInt pair.2))) := by
  induction pairs generalizing start with
  | nil => rw [List.map_nil, List.map_nil, Std.ExtTreeMap.insertMany_nil, collect]
  | cons pair pairs ih =>
    rw [List.map_cons, List.map_cons, Std.ExtTreeMap.insertMany_cons, collect]
    unfold identifier
    rw [PlayerId.ofBytes?_toBytes]
    exact ih _

/-- What a store reads out is what a batch comes to, as far as 64 bits hold it. -/
structure Shows (store : Store) (host : Host) (batch : List (PlayerId × Int64)) : Prop where
  seconds (id : PlayerId) (fits : Fits (secondsFor id batch)) :
    store.seconds? host id = .ok ((creditedTo id batch).map Int64.ofInt)
  totals (fits : ∀ id, Fits (secondsFor id batch)) :
    ∃ totals, store.totals host = .ok totals ∧ (∀ id, totals[id]? = (creditedTo id batch).map Int64.ofInt) ∧
      (Fits (totals.toList.map fun entry => entry.2.toInt).sum →
        ∃ total, store.grandTotal host = .ok total ∧
          total.toInt = (totals.toList.map fun entry => entry.2.toInt).sum)

variable {store : Store} {host : Host} {tables : Tables} {batch : List (PlayerId × Int64)}

theorem seconds?_of_held (isOpen : store.isOpen = true) (held : store.tables? host = some tables) (id : PlayerId)
    (fits : Fits (tables.kept id.toBytes)) :
    store.seconds? host id = .ok ((tables.secondsOf? id.toBytes).map Int64.ofInt) := by
  unfold Tables.kept at fits
  unfold seconds? Store.read
  rw [if_pos isOpen, held]
  dsimp only
  cases known : tables.secondsOf? id.toBytes with
  | none => rfl
  | some seconds =>
    rw [known, Option.getD_some] at fits
    dsimp only
    rw [sum_of_fits fits]
    rfl

theorem totals_of_keyed (isOpen : store.isOpen = true) (held : store.tables? host = some tables)
    (keyed : tables.Keyed) (fits : ∀ id : PlayerId, Fits (tables.kept id.toBytes)) :
    ∃ totals, store.totals host = .ok totals ∧
      (∀ id : PlayerId, totals[id]? = (tables.secondsOf? id.toBytes).map Int64.ofInt) ∧
      (totals.toList.map fun entry => entry.2.toInt).sum = (tables.totals.map Prod.snd).sum := by
  obtain ⟨pairs, listed⟩ := keyed.totals_eq_map
  have mem (id : PlayerId) (seconds : Int) : (id, seconds) ∈ pairs ↔ tables.secondsOf? id.toBytes = some seconds := by
    rw [← keyed.mem_totals, listed, List.mem_map]
    simp [PlayerId.toBytes_inj]
  have small : ∀ pair ∈ pairs, Fits pair.2 := by
    intro pair member
    have room := fits pair.1
    unfold Tables.kept at room
    rwa [(mem pair.1 pair.2).mp member] at room
  have distinct : ((pairs.map fun pair => (pair.1, Int64.ofInt pair.2)).map Prod.fst).Nodup := by
    have keys := keyed.nodup_totals
    rw [listed, List.map_map] at keys
    rw [List.map_map]
    refine .of_map PlayerId.toBytes ?_
    rwa [List.map_map]
  refine ⟨(∅ : Totals).insertMany (pairs.map fun pair => (pair.1, Int64.ofInt pair.2)), ?_, fun id => ?_, ?_⟩
  · unfold totals Store.read
    rw [if_pos isOpen, held]
    dsimp only
    rw [listed, sums_of_fits pairs small]
    exact collect_eq ∅ pairs
  · ext seconds
    rw [getElem?_insertMany_iff _ distinct, List.mem_map, Option.map_eq_some_iff]
    constructor
    · rintro ⟨⟨other, exact⟩, member, same⟩
      cases same
      exact ⟨exact, (mem other exact).mp member, rfl⟩
    · rintro ⟨exact, credited, rfl⟩
      exact ⟨(id, exact), (mem id exact).mpr credited, rfl⟩
  · have read := ((toList_insertMany_perm _ distinct).map fun entry => entry.2.toInt).sum_eq
    rw [read, listed, List.map_map, List.map_map]
    congr 1
    apply List.map_congr_left
    intro pair member
    obtain ⟨low, high⟩ := small pair member
    exact toInt_ofInt_of_bounds pair.2 low high

theorem shows_of_accounts (isOpen : store.isOpen = true) (held : store.tables? host = some tables)
    (accounts : tables.Accounts batch) : store.Shows host batch where
  seconds id fits := by
    rw [← accounts.seconds]
    exact seconds?_of_held isOpen held id (accounts.kept id ▸ fits)
  totals fits := by
    have room (id : PlayerId) : Fits (tables.kept id.toBytes) := accounts.kept id ▸ fits id
    obtain ⟨totals, read, entries, sum⟩ := totals_of_keyed isOpen held accounts.keyed room
    simp only [accounts.seconds] at entries
    rw [tables.sum_totals accounts.owned] at sum
    refine ⟨totals, read, entries, fun room => ?_⟩
    rw [sum] at room ⊢
    refine ⟨Int64.ofInt tables.grandTotal, ?_, toInt_ofInt_of_bounds _ room.1 room.2⟩
    unfold grandTotal Store.read
    rw [if_pos isOpen, held]
    exact sum_of_fits room

end Store

end Sql

end Playtime
