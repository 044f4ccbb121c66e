import Playtime.Proofs.Sessions.Refusals
import Playtime.Proofs.Site.Durability
import Playtime.Proofs.Site.Errands

namespace Playtime

namespace Sessions

variable {σ : Type} [Ledger σ]

section Reading

variable [LawfulLedger σ]

/-- No sum is clipped by which the seconds of a player are told or credited. -/
structure Exact (state : Sessions × σ) (id : PlayerId) (now : Int64) : Prop where
  stored : Fits (LawfulLedger.balance state.2 id)
  elapsed : Fits (LawfulLedger.balance state.2 id + (state.1.live id now).toInt)
  whole : Fits (saved state id + (state.1.live id now).toInt)
  due : Fits ((state.1.live id now).toInt + state.1.parked id)

instance (state : Sessions × σ) (id : PlayerId) (now : Int64) : Decidable (Exact state id now) :=
  decidable_of_iff (Fits (LawfulLedger.balance state.2 id) ∧
      Fits (LawfulLedger.balance state.2 id + (state.1.live id now).toInt) ∧
      Fits (saved state id + (state.1.live id now).toInt) ∧ Fits ((state.1.live id now).toInt + state.1.parked id))
    ⟨fun ⟨stored, elapsed, whole, due⟩ => ⟨stored, elapsed, whole, due⟩,
      fun ⟨stored, elapsed, whole, due⟩ => ⟨stored, elapsed, whole, due⟩⟩

theorem seconds_of_exact {state : Sessions × σ} {id : PlayerId} {now : Int64} (isOpen : LawfulLedger.IsOpen state.2)
    (exact : Exact state id now) : ∃ seconds, state.1.seconds state.2 id now = .ok seconds ∧
      seconds.toInt = saved state id + (state.1.live id now).toInt := by
  obtain ⟨stored, known⟩ := LawfulLedger.seconds?_of_isOpen state.2 id isOpen exact.stored
  have kept := LawfulLedger.balance_of_seconds? state.2 id stored known
  have elapsed := exact.elapsed
  have whole := exact.whole
  rw [← kept] at elapsed
  rw [saved, ← kept, parked, Int.add_right_comm, ← elapsed.toInt_addSat] at whole
  refine ⟨_, by rw [Sessions.seconds, known], ?_⟩
  rw [whole.toInt_addSat, elapsed.toInt_addSat, saved, ← kept, parked, Int.add_right_comm]

theorem balance_close_refused {sessions : Sessions} {ledger : σ} {now : Int64} {error : StorageError}
    (refused : (sessions.close ledger now).1 = .error error) (id : PlayerId) :
    LawfulLedger.balance (sessions.close ledger now).2.2 id = LawfulLedger.balance ledger id := by
  have shut := LawfulLedger.balance_close (empty.settleAll ledger (sessions.due now)).2.2 id
  rcases empty.settleAll_cases ledger (sessions.due now) with ⟨-, settled⟩ | ⟨-, -, settled⟩ | ⟨_, -, failed, settled⟩
  · rw [close, settled] at refused
    cases refused
  · rw [close, settled] at refused
    cases refused
  · rw [settled] at shut
    rw [close, settled]
    exact shut.trans (LawfulLedger.balance_refused ledger _ _ failed id)

end Reading

theorem settleAll_empty (sessions : Sessions) (ledger : σ) : sessions.settleAll ledger ∅ = (.ok (), sessions, ledger) :=
  if_pos rfl

theorem due_empty (now : Int64) : empty.due now = ∅ := rfl

theorem close_empty (ledger : σ) (now : Int64) : empty.close ledger now = (.ok (), empty, Ledger.close ledger) := by
  rw [close, due_empty, settleAll_empty]

theorem absorbAll_empty (deltas : List (PlayerId × Int64)) : empty.absorbAll deltas = (.ok deltas, empty) := by
  induction deltas with
  | nil => rfl
  | cons entry rest ih =>
    rw [absorbAll, ih]
    rfl

theorem sessions_use_empty (ledger : σ) (what : Use) (unstarted : ∀ id now, what ≠ .call (.start id now)) :
    (use (empty, ledger) what).1 = empty := by
  cases what with
  | call call =>
    cases call with
    | start id now => exact absurd rfl (unstarted id now)
    | stop id now => rfl
    | flush now => rfl
    | add id delta => rfl
    | addAll deltas =>
      show (empty.addAll ledger deltas).2.1 = empty
      rw [addAll, absorbAll_empty]
      cases deltas <;> rfl
  | close now => rw [use, close_empty]
  | credit id delta => rfl
  | creditAll deltas => rfl
  | closeLedger => rfl

end Sessions

namespace Backend

variable {backend : Backend}

theorem timesOpen_close (state : Backend × Host) : (Ledger.close state).1.timesOpen = false := by
  obtain ⟨backend, host⟩ := state
  cases backend <;> rfl

theorem seconds?_of_timesShut (shut : backend.timesOpen = false) (host : Host) (id : PlayerId) :
    Ledger.seconds? (backend, host) id = .error .closed := by
  cases backend <;> exact if_neg (by simpa [timesOpen] using shut)

theorem totals_of_timesShut (shut : backend.timesOpen = false) (host : Host) :
    Ledger.totals (backend, host) = .error .closed := by
  cases backend with
  | files names times =>
    show TimeFile.totals times = _
    rw [TimeFile.totals, FlatFile.read, if_neg (by simpa [timesOpen] using shut)]
  | relational store => exact if_neg (by simpa [timesOpen] using shut)
  | mixed names store => exact if_neg (by simpa [timesOpen] using shut)

theorem refused_of_timesShut (shut : backend.timesOpen = false) (host : Host) {deltas : List (PlayerId × Int64)}
    (something : ∃ entry ∈ deltas, entry.2 ≠ 0) :
    Ledger.creditAll (backend, host) deltas = (.error .closed, backend, host) := by
  refine Prod.ext ?_ (creditAll_of_timesShut shut deltas)
  cases backend with
  | files names times =>
    have some : ¬ (deltas.all fun entry => entry.2 = 0) = true := by simpa using something
    show (TimeFile.creditAll times host.disk deltas).1 = _
    rw [TimeFile.creditAll, if_neg some, FlatFile.write, if_neg (by simpa [timesOpen] using shut)]
  | relational store =>
    show (store.write host _).1 = _
    rw [Sql.Store.write, if_neg (by simpa [timesOpen] using shut)]
  | mixed names store =>
    show (store.write host _).1 = _
    rw [Sql.Store.write, if_neg (by simpa [timesOpen] using shut)]

end Backend

/-- A deed goes through what holds the ledger. Names in a file have a storage of their own. -/
def Deed.Through (backend : Backend) : Deed → Prop
  | .use _ | .record _ => True
  | .name _ | .closeNames => ∃ store, backend = .relational store

theorem Deed.act_of_timesShut {backend : Backend} (shut : backend.timesOpen = false) (sessions : Sessions) (host : Host)
    {deed : Deed} (through : deed.Through backend) : (deed.act (sessions, backend, host)).2 = (backend, host) := by
  cases deed with
  | use what => exact Sessions.use_of_timesShut shut sessions host what
  | record statistic => exact Deed.record_of_timesShut shut sessions host statistic
  | name call =>
    obtain ⟨store, rfl⟩ := through
    have closed : (Backend.relational store).namesOpen = false := shut
    exact Backend.act_of_shut closed call
  | closeNames =>
    obtain ⟨store, rfl⟩ := through
    exact congrArg (·, host) (Backend.closeNames_of_shut shut)

theorem Deed.timesOpen_act {state : Sessions × Backend × Host} (shut : state.2.1.timesOpen = false) (deed : Deed) :
    (deed.act state).2.1.timesOpen = false := by
  obtain ⟨sessions, backend, host⟩ := state
  cases deed with
  | use what =>
    rw [act, Sessions.use_of_timesShut shut]
    exact shut
  | record statistic =>
    rw [record_of_timesShut shut]
    exact shut
  | name call => cases call <;> cases backend <;> exact shut
  | closeNames =>
    cases backend with
    | files names times => exact shut
    | relational store => rfl
    | mixed names store => exact shut

namespace Storages

/-- Nothing is told of the times of storages any more, and nothing is changed through their ledger. -/
structure Finished (storages : Storages) (host : Host) : Prop where
  stored (id : PlayerId) : Ledger.seconds? (storages.backend, host) id = .error .closed
  allStored : Ledger.totals (storages.backend, host) = .error .closed
  seconds (id : PlayerId) (now : Int64) :
    storages.sessions.seconds (storages.backend, host) id now = .error .closed
  totals (now : Int64) : storages.sessions.totals (storages.backend, host) now = .error .closed
  grandTotal (store : Sql.Store) (timed : storages.backend.timeStore? = some store) :
    store.grandTotal host = .error .closed
  credit (id : PlayerId) (delta : Int64) (something : delta ≠ 0) :
    Ledger.credit (storages.backend, host) id delta = (.error .closed, storages.backend, host)
  creditAll (deltas : List (PlayerId × Int64)) (something : ∃ entry ∈ deltas, entry.2 ≠ 0) :
    Ledger.creditAll (storages.backend, host) deltas = (.error .closed, storages.backend, host)
  still (deed : Deed) (through : deed.Through storages.backend) :
    (deed.act (storages.sessions, storages.backend, host)).2 = (storages.backend, host)

theorem finished_of_timesShut {storages : Storages} (shut : storages.backend.timesOpen = false) (host : Host) :
    storages.Finished host := by
  have stored := Backend.seconds?_of_timesShut shut host
  have totals := Backend.totals_of_timesShut shut host
  have refused (deltas : List (PlayerId × Int64)) (something : ∃ entry ∈ deltas, entry.2 ≠ 0) :=
    Backend.refused_of_timesShut shut host something
  refine ⟨stored, totals, fun id now => ?_, fun now => ?_, fun store timed => ?_, fun id delta something => ?_, refused,
    fun deed through => deed.act_of_timesShut shut storages.sessions host through⟩
  · rw [Sessions.seconds, stored]
  · rw [Sessions.totals, totals]
  · have closed : store.isOpen = false := by
      obtain ⟨backend, sessions⟩ := storages
      cases backend with
      | files names times => cases timed
      | relational store => cases timed; exact shut
      | mixed names store => cases timed; exact shut
    exact if_neg (by simp [closed])
  · rw [LawfulLedger.credit_eq]
    exact refused [(id, delta)] ⟨_, List.mem_singleton_self _, something⟩

end Storages

namespace Site

open Sql (Tables Store TablePlace tablesAt?)

def Owned (host : Host) : Prop := ∀ place tables, tablesAt? host place = some tables → tables.Owned

theorem Owned.of_databases {host after : Host} (owned : Owned host) (same : after.databases = host.databases) :
    Owned after := by
  intro place tables held
  refine owned place tables ?_
  rw [← held]
  unfold tablesAt? Host.database?
  rw [same]

theorem Owned.storeLoad {host : Host} (owned : Owned host) (source : Sql.Source) (opening server world : String) :
    Owned (Store.load host source opening server world).2 := by
  intro place tables held
  rcases Sql.load_cases host source opening server world with
    ⟨error, -, same⟩ | ⟨store, -, -, -, -, -, same⟩
  · exact owned place tables (same place ▸ held)
  · rw [same] at held
    split at held
    · cases held
      apply Backend.owned_register
      cases known : tablesAt? host place with
      | none => exact fun row member => absurd member List.not_mem_nil
      | some before => exact owned place before known
    · exact owned place tables held

variable {site : Site}

theorem Owned.adopt {ε : Type} (owned : Owned site.host) {opened : Except ε Backend × Host}
    (made : Backend.Opened site.host opened) : Owned (site.adopt opened).host := by
  have reached : (site.adopt opened).host = opened.2 := by
    obtain ⟨_ | backend, host⟩ := opened <;> rfl
  rw [reached]
  rcases made with ⟨same, -⟩ | ⟨met, source, stem, server, world, same, opened, -⟩
  · exact owned.of_databases same
  · rw [opened]
    exact (owned.of_databases same).storeLoad source stem server world

theorem Owned.perform (owned : Owned site.host) (errand : Errand) : Owned (site.perform errand).host := by
  cases errand with
  | load configuration =>
    rw [Site.perform, load_eq_adopt]
    exact owned.adopt (Backend.opened_load site.host configuration)
  | loadMixed directory stem server world =>
    exact owned.adopt (Backend.opened_loadMixed site.host directory stem server world)
  | meet clock faults => exact owned.of_databases rfl
  | deed number deed =>
    intro place tables held
    rcases site.altered_deed number deed place with ⟨-, none⟩ | ⟨before, changed, known, found, step⟩
    · cases none.symm.trans held
    · cases found.symm.trans held
      exact step.owned (owned place before known)

theorem Owned.run (owned : Owned site.host) (errands : List Errand) : Owned (site.run errands).host := by
  induction errands generalizing site with
  | nil => exact owned
  | cons errand later ih => exact ih (owned.perform errand)

theorem Reaches.owned {after : Site} (reaches : site.Reaches after) (owned : Owned site.host) :
    Owned after.host := by
  obtain ⟨errands, rfl⟩ := reaches
  exact owned.run errands

theorem Owned.sound {host : Host} (owned : Owned host) (backend : Backend) : LawfulLedger.Sound (backend, host) := by
  cases backend with
  | files names times => trivial
  | relational store => exact fun tables held => owned store.place tables held
  | mixed names store => exact fun tables held => owned store.place tables held

variable {number : Nat} {storages : Storages}

theorem finished_run (known : site.storages[number]? = some storages) (shut : storages.backend.timesOpen = false)
    (errands : List Errand) :
    ∃ after, (site.run errands).storages[number]? = some after ∧ after.Finished (site.run errands).host := by
  have deeds (storages : Storages) (host : Host) (deed : Deed) (_ : True)
      (shut : storages.backend.timesOpen = false) :
      (deed.act (storages.sessions, storages.backend, host)).2.1.timesOpen = false := Deed.timesOpen_act shut deed
  obtain ⟨after, found, shut⟩ := known_run deeds errands (fun _ _ => trivial) known shut
  exact ⟨after, found, Storages.finished_of_timesShut shut _⟩

theorem idle_run (known : site.storages[number]? = some storages) (shut : storages.backend.timesOpen = false)
    (none : storages.sessions = .empty) (errands : List Errand)
    (unstarted : ∀ id now, .deed number (.use (.call (.start id now))) ∉ errands) :
    ∃ backend, (site.run errands).storages[number]? = some ⟨backend, .empty⟩ ∧
      ∀ now, Sessions.empty.close (backend, (site.run errands).host) now =
        (.ok (), .empty, backend, (site.run errands).host) := by
  have deeds (storages : Storages) (host : Host) (deed : Deed) (quiet : ∀ id now, deed ≠ .use (.call (.start id now)))
      (idle : storages.sessions = .empty ∧ storages.backend.timesOpen = false) :
      (deed.act (storages.sessions, storages.backend, host)).1 = .empty ∧
        (deed.act (storages.sessions, storages.backend, host)).2.1.timesOpen = false := by
    refine ⟨?_, Deed.timesOpen_act idle.2 deed⟩
    rw [idle.1]
    cases deed with
    | use what => exact Sessions.sessions_use_empty _ what fun id now same => quiet id now (congrArg Deed.use same)
    | name call => rfl
    | closeNames => rfl
    | record statistic =>
      unfold Deed.act
      dsimp only
      split <;> rfl
  obtain ⟨⟨backend, sessions⟩, found, rfl, shut⟩ := known_run deeds errands
    (fun deed member id now same => unstarted id now (same ▸ member)) known ⟨none, shut⟩
  refine ⟨backend, found, fun now => ?_⟩
  rw [Sessions.close_empty, Backend.close_of_timesShut shut]

/--
Sessions are closed over a ledger that is open, after anything that has been done. If that succeeds, each player has in
the ledger what was told just before, no session is open and nothing is pending; until one is started, closing again
does nothing, whenever it is done. If it fails, all have in the ledger what they had. In either case what the ledger
holds is found by whoever opens it again, and whatever is done after that, nothing is read or changed through the
ledger that was closed.
-/
theorem closing_is_final (host : Host) (owned : Owned host) (errands : List Errand) (number : Nat) (storages : Storages)
    (known : (run ⟨host, []⟩ errands).storages[number]? = some storages)
    (isOpen : LawfulLedger.IsOpen (storages.backend, (run ⟨host, []⟩ errands).host)) (now : Int64) :
    let site := run ⟨host, []⟩ errands
    let before : Sessions × Backend × Host := (storages.sessions, storages.backend, site.host)
    let ended := before.1.close before.2 now
    let closed := site.deed number (.use (.close now))
    (ended.1 = .ok () → ended.2.1 = .empty ∧
      (∀ id, Sessions.Exact before id now → ∃ seconds, before.1.seconds before.2 id now = .ok seconds ∧
        LawfulLedger.balance ended.2.2 id = seconds.toInt) ∧
      ∀ later, (∀ id t, .deed number (.use (.call (.start id t))) ∉ later) →
        let reached := run closed later
        ∃ backend, reached.storages[number]? = some ⟨backend, .empty⟩ ∧
          ∀ t, Sessions.empty.close (backend, reached.host) t = (.ok (), .empty, backend, reached.host)) ∧
    (∀ error, ended.1 = .error error →
      ∀ id, LawfulLedger.balance ended.2.2 id = LawfulLedger.balance before.2 id) ∧
    (∀ configuration, storages.backend.Housed configuration site.host →
      ∃ again reached, Backend.load ended.2.2.2 configuration = (.ok again, reached) ∧
        LawfulLedger.IsOpen (again, reached) ∧
        ∀ id, LawfulLedger.balance (again, reached) id = LawfulLedger.balance ended.2.2 id) ∧
    ∀ later, ∃ after, (run closed later).storages[number]? = some after ∧ after.Finished (run closed later).host := by
  intro site before ended closed
  have sound := (owned.run errands : Owned site.host).sound storages.backend
  have shut : ended.2.2.1.timesOpen = false := Backend.timesOpen_close _
  have held : closed.storages[number]? = some ⟨ended.2.2.1, ended.2.1⟩ := known_deed known (.use (.close now))
  refine ⟨fun accepted => ?_, fun error refused id => Sessions.balance_close_refused refused id,
    fun configuration housed => ?_, fun later => finished_run held shut later⟩
  · have nobody := Sessions.sessions_close before.1 before.2 now accepted
    refine ⟨nobody, fun id exact => ?_, fun later unstarted => idle_run held shut nobody later unstarted⟩
    obtain ⟨seconds, told, sum⟩ := Sessions.seconds_of_exact isOpen exact
    exact ⟨seconds, told, (Sessions.balance_closed before.1 before.2 now id sound exact.due accepted).trans sum.symm⟩
  · have settled := Sessions.ledger_settleAll Backend.housed_creditAll .empty before.2 (before.1.due now) housed
    obtain ⟨again, reached, loaded, housed', open', same⟩ := Backend.load_of_housed (Backend.housed_close _ settled)
    exact ⟨again, reached, loaded, housed'.timesOpen open', same.balance⟩

/-- A flush has failed before, and once the ledger is closed a session is started and stopped, and closed again. -/
theorem closing_is_final_past_refused_flush :
    let player : PlayerId := ⟨7⟩
    let errands : List Errand := [.load ⟨.file, "data", "ot_", .sqlite, .memory, "lobby", "world"⟩,
      .deed 0 (.use (.call (.start player 0))), .meet 5000 [.refused], .deed 0 (.use (.call (.flush 5500)))]
    let later : List Errand := [.deed 0 (.use (.call (.start player 13000))), .deed 0 (.use (.credit player 60)),
      .deed 0 (.use (.call (.stop player 20000))), .deed 0 (.use (.close 30000))]
    let site := run ⟨⟨.empty, [], 0⟩, []⟩ errands
    let closed := site.deed 0 (.use (.close 12400))
    (∃ storages, site.storages[0]? = some storages ∧ storages.sessions.pending[player]? = some 5 ∧
      let ended := storages.sessions.close (storages.backend, site.host) 12400
      ended.2.1 = .empty ∧ LawfulLedger.balance ended.2.2 player = 12) ∧
    ∃ after, (run closed later).storages[0]? = some after ∧ after.Finished (run closed later).host := by
  intro player errands later site closed
  have owned : Owned ⟨.empty, [], 0⟩ := nofun
  obtain ⟨storages, known⟩ := Option.isSome_iff_exists.mp (by decide +kernel : (site.storages[0]?).isSome = true)
  have facts : ∀ storages ∈ site.storages[0]?, Backend.TimesOpen (storages.backend, site.host) ∧
      (storages.sessions.close (storages.backend, site.host) 12400).1 = .ok () ∧
      storages.sessions.pending[player]? = some 5 ∧
      Sessions.Exact (storages.sessions, storages.backend, site.host) player 12400 ∧
      storages.sessions.seconds (storages.backend, site.host) player 12400 = .ok 12 := by decide +kernel
  obtain ⟨isOpen, accepted, pending, exact, told⟩ := facts storages known
  obtain ⟨ends, -, -, finished⟩ := closing_is_final _ owned errands 0 storages known isOpen 12400
  obtain ⟨nobody, kept, -⟩ := ends accepted
  obtain ⟨seconds, same, balance⟩ := kept player exact
  cases told.symm.trans same
  exact ⟨⟨storages, known, pending, nobody, balance⟩, finished later⟩

end Site

end Playtime
