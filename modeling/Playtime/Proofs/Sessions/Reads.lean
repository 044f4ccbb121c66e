import Mathlib.Algebra.BigOperators.Group.Finset.Basic
import Playtime.Proofs.Ledger.SharedStores
import Playtime.Proofs.Ledger.Unreliable
import Playtime.Proofs.Sessions.Reading
import Playtime.Proofs.Sessions.Sums

namespace Playtime

def Totals.sum (totals : Totals) : Int := (totals.values.map Int64.toInt).sum

theorem mem_enter (totals : Totals) (entry : PlayerId × Int64) (id : PlayerId) :
    id ∈ totals.enter entry ↔ id ∈ totals ∨ id = entry.1 := by
  unfold Totals.enter
  rw [Std.ExtTreeMap.mem_insert, Std.LawfulEqOrd.compare_eq_iff_eq, or_comm, eq_comm]

theorem mem_merge (totals others : Totals) (id : PlayerId) : id ∈ totals.merge others ↔ id ∈ totals ∨ id ∈ others := by
  have entered (entries : List (PlayerId × Int64)) (start : Totals) :
      id ∈ entries.foldl Totals.enter start ↔ id ∈ start ∨ id ∈ entries.map Prod.fst := by
    induction entries generalizing start with
    | nil => simp
    | cons entry entries ih => rw [List.foldl_cons, ih, mem_enter, List.map_cons, List.mem_cons, or_assoc]
  show id ∈ others.toList.foldl Totals.enter totals ↔ _
  rw [entered, Std.ExtTreeMap.map_fst_toList_eq_keys, Std.ExtTreeMap.mem_keys]

theorem values_eq_map_toList (totals : Totals) : totals.values = totals.toList.map Prod.snd := by
  obtain ⟨⟨tree⟩⟩ := totals
  induction tree using Quotient.ind with
  | _ tree =>
    show tree.inner.values = (Std.DTreeMap.Internal.Impl.Const.toList tree.inner).map Prod.snd
    rw [Std.DTreeMap.Internal.Impl.values_eq_map_snd, Std.DTreeMap.Internal.Impl.Const.toList_eq_toListModel_map,
      List.map_map]
    rfl

theorem sum_eq (totals : Totals) (players : Finset PlayerId) (covers : ∀ id ∈ totals, id ∈ players) :
    totals.sum = ∑ id ∈ players, (totals.getD id 0).toInt := by
  have inside : totals.keys.toFinset ⊆ players := by
    intro id member
    exact covers id (by simpa using member)
  have others : ∀ id ∈ players, id ∉ totals.keys.toFinset → (totals.getD id 0).toInt = 0 := by
    intro id _ absent
    rw [Std.ExtTreeMap.getD_eq_fallback (by simpa using absent)]
    rfl
  rw [← Finset.sum_subset inside others, List.sum_toFinset _ Std.ExtTreeMap.nodup_keys, Totals.sum,
    values_eq_map_toList, ← Std.ExtTreeMap.map_fst_toList_eq_keys, List.map_map, List.map_map]
  congr 1
  apply List.map_congr_left
  intro entry member
  have found := Std.ExtTreeMap.mem_toList_iff_getElem?_eq_some.mp member
  simp [Std.ExtTreeMap.getD_eq_getD_getElem?, found]

theorem sum_of_getD {first second both : Totals}
    (adds : ∀ id, (both.getD id 0).toInt = (first.getD id 0).toInt + (second.getD id 0).toInt) :
    both.sum = first.sum + second.sum := by
  -- Every sum is taken over the players of all three accounts.
  let players := both.keys.toFinset ∪ first.keys.toFinset ∪ second.keys.toFinset
  rw [sum_eq both players fun id member => by simp [players, member],
    sum_eq first players fun id member => by simp [players, member],
    sum_eq second players fun id member => by simp [players, member], ← Finset.sum_add_distrib]
  exact Finset.sum_congr rfl fun id _ => adds id

namespace Sessions

variable {σ : Type} [Ledger σ]

/-- No addition on the way to the totals, or to the unsaved seconds in some order, is clipped. -/
structure Unclamped (sessions : Sessions) (orders : Traversals) (stored : Totals) (now : Int64) : Prop where
  live (id : PlayerId) : Fits ((stored.getD id 0).toInt + (sessions.live id now).toInt)
  pending (id : PlayerId) :
    Fits ((stored.getD id 0).toInt + (sessions.live id now).toInt + (sessions.pending.getD id 0).toInt)
  unsaved : AddUp (sessions.unsavedParts orders now)

theorem getD_owed (sessions : Sessions) (now : Int64) (id : PlayerId) :
    (sessions.owed now).getD id 0 = sessions.live id now := by
  rw [Std.ExtTreeMap.getD_eq_getD_getElem?, getElem?_owed, live]
  cases sessions.started[id]? <;> rfl

theorem mem_owed (sessions : Sessions) (now : Int64) (id : PlayerId) :
    id ∈ sessions.owed now ↔ id ∈ sessions.started := by
  rw [Std.ExtTreeMap.mem_iff_isSome_getElem?, Std.ExtTreeMap.mem_iff_isSome_getElem?, getElem?_owed, Option.isSome_map]

def together (sessions : Sessions) (stored : Totals) (now : Int64) : Totals :=
  (stored.merge (sessions.owed now)).merge sessions.pending

theorem mem_together (sessions : Sessions) (stored : Totals) (now : Int64) (id : PlayerId) :
    id ∈ sessions.together stored now ↔ id ∈ stored ∨ id ∈ sessions.started ∨ id ∈ sessions.pending := by
  rw [together, mem_merge, mem_merge, mem_owed, or_assoc]

theorem getD_together (sessions : Sessions) (stored : Totals) (now : Int64) (id : PlayerId) :
    (sessions.together stored now).getD id 0 =
      addSat (addSat (stored.getD id 0) (sessions.live id now)) (sessions.pending.getD id 0) := by
  rw [together, getD_merge, getD_merge, getD_owed]

theorem sum_together (sessions : Sessions) (orders : Traversals) (stored : Totals) (now : Int64)
    (unclamped : sessions.Unclamped orders stored now) :
    (sessions.together stored now).sum = stored.sum + (sessions.unsaved orders now).toInt := by
  have first (id : PlayerId) : ((stored.merge (sessions.owed now)).getD id 0).toInt =
      (stored.getD id 0).toInt + ((sessions.owed now).getD id 0).toInt := by
    rw [getD_merge, getD_owed]
    exact (unclamped.live id).toInt_addSat
  have second (id : PlayerId) : ((sessions.together stored now).getD id 0).toInt =
      ((stored.merge (sessions.owed now)).getD id 0).toInt + (sessions.pending.getD id 0).toInt := by
    have opened := (unclamped.live id).toInt_addSat
    have room : Fits ((addSat (stored.getD id 0) (sessions.live id now)).toInt + (sessions.pending.getD id 0).toInt) :=
      opened ▸ unclamped.pending id
    rw [together, getD_merge, getD_merge, getD_owed]
    exact room.toInt_addSat
  rw [toInt_unsaved unclamped.unsaved, sum_of_getD second, sum_of_getD first, Int.add_assoc]
  rfl

/-- What is done with sessions and with their ledger, the latter also past the sessions. -/
inductive Use where
  | call (call : Call)
  | close (now : Int64)
  | credit (id : PlayerId) (delta : Int64)
  | creditAll (deltas : List (PlayerId × Int64))
  | closeLedger
deriving DecidableEq, Repr

def use (state : Sessions × σ) : Use → Sessions × σ
  | .call call => (perform state call).2
  | .close now => (state.1.close state.2 now).2
  | .credit id delta => (state.1, (Ledger.credit state.2 id delta).2)
  | .creditAll deltas => (state.1, (Ledger.creditAll state.2 deltas).2)
  | .closeLedger => (state.1, Ledger.close state.2)

def useAt (at₁ : Int64 → σ → σ) (state : Sessions × σ) : List (Int64 × Use) → Sessions × σ
  | [] => state
  | (clock, first) :: later => useAt at₁ (use (state.1, at₁ clock state.2) first) later

variable [LawfulLedger σ]

theorem ledger_useAt {property : σ → Prop} {at₁ : Int64 → σ → σ} (credits : KeptByCredits property)
    (closes : ∀ ledger, property ledger → property (Ledger.close ledger))
    (clocks : ∀ clock ledger, property ledger → property (at₁ clock ledger)) (state : Sessions × σ)
    (uses : List (Int64 × Use)) (holds : property state.2) : property (useAt at₁ state uses).2 := by
  induction uses generalizing state with
  | nil => exact holds
  | cons entry later ih =>
    obtain ⟨clock, first⟩ := entry
    have start := clocks clock state.2 holds
    refine ih _ ?_
    cases first with
    | call call => exact ledger_perform credits _ call start
    | close now => exact closes _ (ledger_settleAll credits empty _ _ start)
    | credit id delta =>
      show property (Ledger.credit _ id delta).2
      rw [LawfulLedger.credit_eq]
      exact credits _ _ start
    | creditAll deltas => exact credits _ deltas start
    | closeLedger => exact closes _ start

variable [ListedLedger σ]

/-- What the readings of sessions and their ledger are at an instant, and that they are of one mind. -/
structure ReadAlike (sessions : Sessions) (ledger : σ) (now : Int64) (stored totals : Totals) : Prop where
  listed : Ledger.totals ledger = .ok stored
  entries (id : PlayerId) : Ledger.seconds? ledger id = .ok stored[id]?
  read : sessions.totals ledger now = .ok totals
  keys (id : PlayerId) : id ∈ totals ↔ id ∈ stored ∨ id ∈ sessions.started ∨ id ∈ sessions.pending
  seconds (id : PlayerId) (total : Int64) (known : totals[id]? = some total) :
    sessions.seconds ledger id now = .ok total
  others (id : PlayerId) (unknown : id ∉ totals) : sessions.seconds ledger id now = .ok 0
  once (id : PlayerId) :
    totals.getD id 0 = addSat (addSat (stored.getD id 0) (sessions.live id now)) (sessions.pending.getD id 0)
  unsaved (orders : Traversals) (unclamped : sessions.Unclamped orders stored now) :
    totals.sum = stored.sum + (sessions.unsaved orders now).toInt

theorem exists_readAlike (sessions : Sessions) (ledger : σ) (now : Int64) (isOpen : LawfulLedger.IsOpen ledger)
    (keyed : ListedLedger.Keyed ledger) (fits : ∀ id, Fits (LawfulLedger.balance ledger id)) :
    ∃ stored totals, ReadAlike sessions ledger now stored totals := by
  obtain ⟨stored, read, entries⟩ := ListedLedger.totals_of_fits ledger isOpen keyed fits
  have seconds (id : PlayerId) :
      sessions.seconds ledger id now = .ok ((sessions.together stored now).getD id 0) := by
    rw [Sessions.seconds, entries, getD_together, Std.ExtTreeMap.getD_eq_getD_getElem? (t := stored)]
  refine ⟨stored, sessions.together stored now, read, entries, ?_, sessions.mem_together stored now,
    fun id total known => ?_, fun id unknown => ?_, sessions.getD_together stored now,
    fun orders => sessions.sum_together orders stored now⟩
  · rw [Sessions.totals, read]
    rfl
  · rw [seconds, Std.ExtTreeMap.getD_eq_getD_getElem?, known]
    rfl
  · rw [seconds, Std.ExtTreeMap.getD_eq_fallback unknown]

theorem fail_alike (sessions : Sessions) (ledger : σ) (now : Int64) (id : PlayerId)
    (isOpen : LawfulLedger.IsOpen ledger) (keyed : ListedLedger.Keyed ledger)
    (misfit : ¬ Fits (LawfulLedger.balance ledger id)) :
    sessions.totals ledger now = .error .databaseFailure ∧
      sessions.seconds ledger id now = .error .databaseFailure := by
  obtain ⟨listing, reading⟩ := ListedLedger.fails_of_misfit ledger id isOpen keyed misfit
  rw [Sessions.totals, Sessions.seconds, listing, reading]
  exact ⟨rfl, rfl⟩

end Sessions

namespace Backend

def HasNoTimes : Backend × Host → Prop
  | (files _ times, _) => times.members = ∅
  | (relational store, host) | (mixed _ store, host) =>
    ∃ tables, store.tables? host = some tables ∧ tables.Keyed ∧ tables.intervals = []

def timed (clock : Int64) (unreliable : Unreliable (Backend × Host)) : Unreliable (Backend × Host) :=
  { unreliable with ledger := (unreliable.ledger.1, unreliable.ledger.2.showing clock) }

theorem HasNoTimes.keyed {state : Backend × Host} (none : HasNoTimes state) : ListedLedger.Keyed state := by
  obtain ⟨backend, host⟩ := state
  have tabled (store : Sql.Store)
      (none : ∃ tables, store.tables? host = some tables ∧ tables.Keyed ∧ tables.intervals = []) :
      ∀ tables, store.tables? host = some tables → tables.Keyed := by
    obtain ⟨tables, held, keyed, -⟩ := none
    intro others found
    rw [held] at found
    cases found
    exact keyed
  cases backend with
  | files names times =>
    intro text member
    rw [show times.members = ∅ from none] at member
    exact absurd member Std.ExtTreeMap.not_mem_empty
  | relational store => exact tabled store none
  | mixed names store => exact tabled store none

theorem keyed_timed (clock : Int64) (unreliable : Unreliable (Backend × Host))
    (keyed : ListedLedger.Keyed unreliable) : ListedLedger.Keyed (timed clock unreliable) := by
  obtain ⟨⟨backend, host⟩, fates⟩ := unreliable
  cases backend <;> exact keyed

def FiledTimes (unreliable : Unreliable (Backend × Host)) : Prop :=
  ∃ names times host, unreliable.ledger = (files names times, host)

theorem FiledTimes.fits {unreliable : Unreliable (Backend × Host)} (filed : FiledTimes unreliable) (id : PlayerId) :
    Fits (LawfulLedger.balance unreliable id) := by
  obtain ⟨names, times, host, same⟩ := filed
  show Fits (keptTimes unreliable.ledger id)
  rw [same]
  exact fits_toInt _

theorem filedTimes_creditAll : Sessions.KeptByCredits FiledTimes := by
  intro unreliable deltas ⟨names, times, host, same⟩
  rcases unreliable.creditAll_cases deltas with ⟨_, -, kept⟩ | ⟨-, after⟩
  · exact ⟨names, times, host, kept.trans same⟩
  · rw [same] at after
    exact ⟨_, _, _, after⟩

theorem FiledTimes.close {unreliable : Unreliable (Backend × Host)} (filed : FiledTimes unreliable) :
    FiledTimes (Ledger.close unreliable) := by
  obtain ⟨names, times, host, same⟩ := filed
  refine ⟨names, times.close, host, ?_⟩
  show Ledger.close unreliable.ledger = _
  rw [same]
  rfl

theorem FiledTimes.timed {unreliable : Unreliable (Backend × Host)} (filed : FiledTimes unreliable) (clock : Int64) :
    FiledTimes (timed clock unreliable) := by
  obtain ⟨names, times, host, same⟩ := filed
  exact ⟨names, times, host.showing clock, by rw [Backend.timed, same]⟩

/--
Whatever is done with sessions over a backend that starts without times, and whichever of its writes fail, the reading
of all players tells of exactly the players that the ledger, a session or a pending credit knows, and of each what the
reading of that player tells; the others have nothing. Unless something is clipped it comes to what the ledger has and
what is not saved, in whatever order that is summed up. A database does not read out a total past 64 bits, and then
neither reading succeeds.
-/
theorem readings_agree (backend : Backend) (host : Host) (fates : List (Option StorageError))
    (uses : List (Int64 × Sessions.Use)) (sessions : Sessions) (ledger : Unreliable (Backend × Host)) (now : Int64)
    (none : HasNoTimes (backend, host))
    (reached : Sessions.useAt timed (Sessions.empty, ⟨(backend, host), fates⟩) uses = (sessions, ledger))
    (isOpen : LawfulLedger.IsOpen ledger) :
    ((∀ id, Fits (LawfulLedger.balance ledger id)) → ∃ stored totals, sessions.ReadAlike ledger now stored totals) ∧
    (∀ id, ¬ Fits (LawfulLedger.balance ledger id) →
      sessions.totals ledger now = .error .databaseFailure ∧
        sessions.seconds ledger id now = .error .databaseFailure) ∧
    ∀ names times, backend = .files names times → ∀ id, Fits (LawfulLedger.balance ledger id) := by
  have keyed := Sessions.ledger_useAt ListedLedger.keyed_creditAll ListedLedger.keyed_close keyed_timed
    (Sessions.empty, (⟨(backend, host), fates⟩ : Unreliable (Backend × Host))) uses none.keyed
  rw [reached] at keyed
  refine ⟨Sessions.exists_readAlike sessions ledger now isOpen keyed,
    fun id => Sessions.fail_alike sessions ledger now id isOpen keyed, ?_⟩
  rintro names times rfl
  have filed := Sessions.ledger_useAt filedTimes_creditAll (fun _ filed => filed.close)
    (fun clock _ filed => filed.timed clock) (Sessions.empty, ⟨(files names times, host), fates⟩) uses
    ⟨names, times, host, rfl⟩
  rw [reached] at filed
  exact filed.fits

/-- The credit of a session fails, and the player comes back; another player has seconds in the ledger alone. -/
theorem readings_agree_past_refusal :
    let player : PlayerId := ⟨7⟩
    let other : PlayerId := ⟨8⟩
    let filed := TimeFile.inWorkingDirectory [.refused]
    let backend := files ⟨["names.json"], ∅, true⟩ filed.1
    let host : Host := ⟨filed.2, [], 0⟩
    let fates := [none, none, some .databaseFailure]
    let uses : List (Int64 × Sessions.Use) := [(0, .credit other 9), (0, .credit other 5), (0, .call (.start player 0)),
      (0, .call (.stop player 61500)), (0, .call (.start player 70000))]
    ∃ sessions ledger, Sessions.useAt timed (Sessions.empty, ⟨(backend, host), fates⟩) uses = (sessions, ledger) ∧
      LawfulLedger.IsOpen ledger ∧ ∃ stored totals, sessions.ReadAlike ledger 75000 stored totals ∧
        stored.toList = [(other, 5)] ∧ totals.toList = [(player, 66), (other, 5)] := by
  intro player other filed backend host fates uses
  -- The run is evaluated once, by the kernel, before anything is read off its end.
  have read : (fun state => (decide (TimesOpen state.2.ledger), (Ledger.totals state.2).map (·.toList),
      (state.1.totals state.2 75000).map (·.toList)))
        (Sessions.useAt timed (Sessions.empty, ⟨(backend, host), fates⟩) uses) =
      (true, .ok [(other, 5)], .ok [(player, 66), (other, 5)]) := by decide +kernel
  generalize reached : Sessions.useAt timed (Sessions.empty, ⟨(backend, host), fates⟩) uses = state at read
  obtain ⟨sessions, ledger⟩ := state
  simp only [Prod.mk.injEq, decide_eq_true_eq] at read
  obtain ⟨isOpen, listed, read⟩ := read
  obtain ⟨alike, -, fits⟩ := readings_agree backend host fates uses sessions ledger 75000 rfl reached isOpen
  obtain ⟨stored, totals, same⟩ := alike (fits _ filed.1 rfl)
  rw [same.listed] at listed
  rw [same.read] at read
  exact ⟨sessions, ledger, rfl, isOpen, stored, totals, same, Except.ok.inj listed, Except.ok.inj read⟩

end Backend

end Playtime
