import Playtime.Manager
import Playtime.Proofs.Manager.Rollup
import Playtime.Proofs.Site.Durability

namespace Playtime

open Backend (Housed SameNames SameContent Spares Findable)

namespace Backend

theorem isShut_closed (state : Backend × Host) : (Ledger.close state).1.closeNames.IsShut := by
  obtain ⟨backend, host⟩ := state
  cases backend with
  | files names times => exact ⟨rfl, rfl⟩
  | relational store => exact rfl
  | mixed names store => exact ⟨rfl, rfl⟩

end Backend

namespace Site

theorem close_of_known {site : Site} {number : Nat} {storages : Storages}
    (known : site.storages[number]? = some storages) (now : Int64) :
    let ended := storages.sessions.close (storages.backend, site.host) now
    site.close number now = ⟨ended.2.2.2, site.storages.set number ⟨ended.2.2.1.closeNames, ended.2.1⟩⟩ := by
  intro ended
  obtain ⟨inside, -⟩ := List.getElem?_eq_some_iff.mp known
  unfold Site.close onBackend onSessions
  simp only [known, List.getElem?_set_self inside, List.set_set]
  rfl

theorem length_deed (site : Site) (number : Nat) (deed : Deed) :
    (site.deed number deed).storages.length = site.storages.length := by
  unfold Site.deed Site.onSessions
  split
  · exact List.length_set
  · rfl

theorem storages_deed_cases {site : Site} {number place : Nat} {deed : Deed} {other : Storages}
    (found : (site.deed number deed).storages[place]? = some other) :
    (place = number ∧ ∃ storages, site.storages[number]? = some storages ∧
      let after := deed.act (storages.sessions, storages.backend, site.host)
      other = ⟨after.2.1, after.1⟩) ∨
    place ≠ number ∧ site.storages[place]? = some other := by
  by_cases same : place = number
  · subst same
    cases known : site.storages[place]? with
    | none =>
      rw [deed_of_unknown known, known] at found
      cases found
    | some storages =>
      rw [known_deed known deed] at found
      exact .inl ⟨rfl, storages, rfl, (Option.some.inj found).symm⟩
  · refine .inr ⟨same, ?_⟩
    cases known : site.storages[number]? with
    | none => rwa [deed_of_unknown known] at found
    | some storages => rwa [deed_of_known known, List.getElem?_set_ne (Ne.symm same)] at found

end Site

def Storages.closed (storages : Storages) (host : Host) (now : Int64) : Backend × Host :=
  let ended := (storages.sessions.close (storages.backend, host) now).2.2
  (ended.1.closeNames, ended.2)

namespace Storages

variable {configuration : Configuration} {storages : Storages} {host : Host}

theorem closed_keeps (housed : storages.backend.Housed configuration host) (now : Int64) :
    (storages.closed host now).1.Housed configuration (storages.closed host now).2 ∧
      SameNames (storages.backend, host) (storages.closed host now) ∧ (storages.closed host now).1.IsShut := by
  have credits : Sessions.KeptByCredits fun state : Backend × Host =>
      state.1.Housed configuration state.2 ∧ SameNames (storages.backend, host) state :=
    fun state deltas both => ⟨Backend.housed_creditAll state deltas both.1,
      both.2.trans (Backend.sameNames_creditAll state deltas both.1)⟩
  have start : SameNames (storages.backend, host) (storages.backend, host) := ⟨fun _ => rfl, fun _ => rfl, rfl⟩
  obtain ⟨housed, names⟩ := Sessions.ledger_settleAll credits .empty (storages.backend, host)
    (storages.sessions.due now) ⟨housed, start⟩
  refine ⟨Backend.housed_closeNames (Backend.housed_close _ housed), ?_, Backend.isShut_closed _⟩
  exact (names.trans (Backend.sameNames_close _)).trans (Backend.sameNames_closeNames _ _)

theorem balance_closed (housed : storages.backend.Housed configuration host) {now : Int64} {id : PlayerId}
    (fits : Fits ((storages.sessions.live id now).toInt + storages.sessions.parked id))
    (accepted : (storages.sessions.close (storages.backend, host) now).1 = .ok ()) :
    LawfulLedger.balance (storages.closed host now) id =
      Sessions.saved (storages.sessions, storages.backend, host) id + (storages.sessions.live id now).toInt :=
  (Backend.balance_closeNames _ _ id).trans (Sessions.balance_closed _ _ now id housed.sound fits accepted)

structure Resumed (before : Storages) (host : Host) (now : Int64) (after : Storages) (next : Host) : Prop where
  sessions : after.sessions = .empty
  seconds (id : PlayerId) (readable : Sessions.Readable (before.sessions, before.backend, host) id now)
    (fits : Fits ((before.sessions.live id now).toInt + before.sessions.parked id)) :
    ∃ seconds, before.sessions.seconds (before.backend, host) id now = .ok seconds ∧
      ∀ t, after.sessions.seconds (after.backend, next) id t = .ok seconds
  holder (name : String) : after.backend.holder? next name = before.backend.holder? host name
  nameOf (id : PlayerId) : after.backend.nameOf? next id = before.backend.nameOf? host id
  names : after.backend.names next = before.backend.names host

theorem resumed_of_content {now : Int64} {again : Backend} {next : Host}
    (housed : storages.backend.Housed configuration host) (isOpen : storages.backend.IsOpen)
    (accepted : (storages.sessions.close (storages.backend, host) now).1 = .ok ())
    (housed' : again.Housed configuration next) (isOpen' : again.IsOpen)
    (same : SameContent (storages.closed host now) (again, next)) :
    Resumed storages host now ⟨again, .empty⟩ next := by
  have names := (closed_keeps housed now).2.1.trans same.names
  have before := Backend.reopened_of_isOpen isOpen
  have after := Backend.reopened_of_isOpen isOpen'
  refine ⟨rfl, fun id readable fits => ?_, fun name => ?_, fun id => ?_, ?_⟩
  · obtain ⟨seconds, read, exact⟩ := Sessions.seconds_of_readable (storages.sessions, storages.backend, host) id now
      (housed.timesOpen isOpen) readable
    have balance : LawfulLedger.balance (again, next) id = seconds.toInt :=
      (same.balance id).trans ((balance_closed housed fits accepted).trans exact.symm)
    have room : Fits (LawfulLedger.balance (again, next) id) := balance ▸ fits_toInt seconds
    obtain ⟨stored, known⟩ := LawfulLedger.seconds?_of_isOpen (again, next) id (housed'.timesOpen isOpen') room
    have kept := LawfulLedger.balance_of_seconds? (again, next) id stored known
    have equal : stored.getD 0 = seconds := Int64.toInt_inj.mp (kept.trans balance)
    refine ⟨seconds, read, fun t => ?_⟩
    rw [Sessions.seconds_of_closed (Sessions.empty, again, next) id t (by simp [Sessions.empty]), known]
    simp [Except.map, Sessions.empty, addSat_zero, equal]
  · simpa only [before, after] using names.holder name
  · simpa only [before, after] using names.nameOf id
  · simpa only [before, after] using names.names

end Storages

namespace Manager

/-- What becomes of a manager that opens its storages itself, and of its site. -/
inductive Lived (configuration : Configuration) : Manager → Site → Prop where
  | start (host : Host) : Lived configuration (.configured configuration) ⟨host, []⟩
  | load {manager : Manager} {site : Site} (lived : Lived configuration manager site)
    (findable : site.storages = [] → Findable configuration site.host) :
    Lived configuration (manager.load site).2.1 (manager.load site).2.2
  | reload {manager : Manager} {site : Site} (lived : Lived configuration manager site)
    (findable : site.storages = [] → Findable configuration site.host) (now : Int64) :
    Lived configuration (manager.reload site now).2.1 (manager.reload site now).2.2
  | close {manager : Manager} {site : Site} (lived : Lived configuration manager site) (now : Int64) :
    Lived configuration (manager.close site now).1 (manager.close site now).2
  | flush {manager : Manager} {site : Site} (lived : Lived configuration manager site) (now : Int64) :
    Lived configuration manager (manager.flush site now).2
  | total {manager : Manager} {site : Site} (lived : Lived configuration manager site) (orders : Traversals)
    (maxAge : UInt64) (now : Int64) : Lived configuration manager (manager.total site orders maxAge now).2
  | deed {manager : Manager} {site : Site} (lived : Lived configuration manager site) (number : Nat) (deed : Deed) :
    Lived configuration manager (site.deed number deed)
  | elsewhere {manager : Manager} {site : Site} (lived : Lived configuration manager site) (host : Host)
    (spares : Spares configuration site.host host) : Lived configuration manager { site with host }

/-- All storages but the last ones are shut, and what these hold is where the configuration leads. -/
structure Held (configuration : Configuration) (manager : Manager) (site : Site) : Prop where
  configured : manager.configuration = some configuration
  last (number : Nat) (current : manager.current = some number) : site.storages.length = number + 1
  housed (number : Nat) (storages : Storages) (known : site.storages[number]? = some storages)
    (last : site.storages.length = number + 1) : storages.backend.Housed configuration site.host
  shut (number : Nat) (storages : Storages) (known : site.storages[number]? = some storages)
    (old : manager.current ≠ some number) : storages.backend.IsShut

namespace Held

variable {configuration : Configuration} {manager : Manager} {site : Site}

theorem stale (held : Held configuration manager site) (number : Nat) (old : manager.current ≠ some number)
    (deed : Deed) : (site.deed number deed).host = site.host ∧
      ∀ other, other ≠ number → (site.deed number deed).storages[other]? = site.storages[other]? := by
  cases known : site.storages[number]? with
  | none =>
    rw [Site.deed_of_unknown known]
    exact ⟨rfl, fun _ _ => rfl⟩
  | some storages =>
    rw [Site.deed_of_known known, deed.act_of_shut (held.shut number storages known old)]
    exact ⟨rfl, fun other apart => List.getElem?_set_ne (Ne.symm apart)⟩

theorem deed (held : Held configuration manager site) (number : Nat) (deed : Deed) :
    Held configuration manager (site.deed number deed) := by
  have length := site.length_deed number deed
  refine ⟨held.configured, fun place current => length.trans (held.last place current),
    fun place other found last => ?_, fun place other found old => ?_⟩
  · rw [length] at last
    rcases Site.storages_deed_cases found with ⟨rfl, storages, known, rfl⟩ | ⟨apart, known⟩
    · rw [Site.deed_of_known known]
      exact deed.housed _ (held.housed place storages known last)
    · -- Any others are shut, and the host is as it was.
      have old : manager.current ≠ some number := fun current => by
        have length' := held.last number current
        omega
      rw [(held.stale number old deed).1]
      exact held.housed place other known last
  · rcases Site.storages_deed_cases found with ⟨rfl, storages, known, rfl⟩ | ⟨-, known⟩
    · have shut := held.shut place storages known old
      rw [deed.act_of_shut shut]
      exact shut
    · exact held.shut place other known old

theorem close (held : Held configuration manager site) (now : Int64) :
    Held configuration (manager.close site now).1 (manager.close site now).2 := by
  unfold Manager.close
  split
  · next number current =>
    have done := (held.deed number (.use (.close now))).deed number .closeNames
    rw [← Site.close_eq] at done
    refine ⟨held.configured, nofun, done.housed, fun place other found _ => ?_⟩
    by_cases mine : place = number
    · subst mine
      cases known : site.storages[place]? with
      | none =>
        rw [Site.close_eq, Site.deed_of_unknown known, Site.deed_of_unknown known, known] at found
        cases found
      | some storages =>
        obtain ⟨inside, -⟩ := List.getElem?_eq_some_iff.mp known
        rw [Site.close_of_known known, List.getElem?_set_self inside] at found
        cases found
        exact Backend.isShut_closed _
    · exact done.shut place other found (by rw [current]; simpa using Ne.symm mine)
  · exact held

theorem elsewhere (held : Held configuration manager site) {host : Host}
    (spares : Spares configuration site.host host) : Held configuration manager { site with host } :=
  ⟨held.configured, held.last, fun number storages known last =>
    ((held.housed number storages known last).spared spares).1, held.shut⟩

theorem flush (held : Held configuration manager site) (now : Int64) :
    Held configuration manager (manager.flush site now).2 := by
  unfold Manager.flush
  split
  · exact held
  · next number _ =>
    rw [site.onSessions_eq_deed number (.use (.call (.flush now))) fun _ => rfl]
    exact held.deed number _

theorem total (held : Held configuration manager site) (orders : Traversals) (maxAge : UInt64) (now : Int64) :
    Held configuration manager (manager.total site orders maxAge now).2 := by
  rcases manager.site_total site orders maxAge now with same | ⟨number, statistic, same⟩
  · rwa [same]
  · rw [same]
    exact held.deed number (.record statistic)

theorem opening (held : Held configuration manager site)
    (findable : site.storages = [] → Findable configuration site.host) :
    (site.storages = [] ∧ ∃ error host, Backend.load site.host configuration = (.error error, host)) ∨
      ∃ backend host, Backend.load site.host configuration = (.ok backend, host) ∧
        backend.Housed configuration host := by
  rcases List.eq_nil_or_concat site.storages with none | ⟨earlier, storages, split⟩
  · cases loaded : Backend.load site.host configuration with
    | mk outcome host =>
      cases outcome with
      | error error => exact .inl ⟨none, error, host, rfl⟩
      | ok backend => exact .inr ⟨backend, host, rfl, (Backend.housed_of_load (findable none) loaded).1⟩
  · have known : site.storages[earlier.length]? = some storages := by simp [split]
    have housed := held.housed earlier.length storages known (by simp [split])
    obtain ⟨again, host, loaded, housed', -, -⟩ := Backend.load_of_housed housed
    exact .inr ⟨again, host, loaded, housed'⟩

theorem load (held : Held configuration manager site)
    (findable : site.storages = [] → Findable configuration site.host) :
    Held configuration (manager.load site).2.1 (manager.load site).2.2 := by
  unfold Manager.load
  rw [held.configured]
  cases current : manager.current with
  | some number => exact held
  | none =>
    dsimp only
    unfold Site.load
    rcases held.opening findable with ⟨none, error, host, failed⟩ | ⟨backend, host, loaded, housed⟩
    · rw [failed]
      refine ⟨held.configured, fun number mine => by simp [current] at mine, fun number storages known => ?_,
        held.shut⟩
      simp [none] at known
    · rw [loaded]
      dsimp only [Site.insert]
      refine ⟨rfl, fun number mine => ?_, fun number storages known last => ?_,
        fun number storages known old => ?_⟩
      · simp only [Option.some.injEq] at mine
        simp [← mine]
      · have place : number = site.storages.length := by simpa using last.symm
        subst place
        simp at known
        rw [← known]
        exact housed
      · simp only [ne_eq, Option.some.injEq] at old
        obtain ⟨inside, -⟩ := List.getElem?_eq_some_iff.mp known
        rw [List.length_append, List.length_singleton] at inside
        rw [List.getElem?_append_left (by omega)] at known
        exact held.shut number storages known (by simp [current])

theorem reload_eq (held : Held configuration manager site) (now : Int64) :
    manager.reload site now = (manager.close site now).1.load (manager.close site now).2 := by
  unfold Manager.reload
  rw [if_neg (by simp [isExternal, held.configured])]

theorem reload (held : Held configuration manager site)
    (findable : site.storages = [] → Findable configuration site.host) (now : Int64) :
    Held configuration (manager.reload site now).2.1 (manager.reload site now).2.2 := by
  rw [held.reload_eq]
  refine (held.close now).load fun none => ?_
  cases current : manager.current with
  | none =>
    have still : manager.close site now = (manager, site) := by rw [Manager.close, current]
    rw [still] at none ⊢
    exact findable none
  | some number =>
    have closed : (manager.close site now).2 = site.close number now := by rw [Manager.close, current]
    have length := held.last number current
    rw [closed, Site.close_eq] at none
    have lengths := congrArg List.length none
    rw [Site.length_deed, Site.length_deed, length] at lengths
    cases lengths

end Held

theorem Lived.held {configuration : Configuration} {manager : Manager} {site : Site}
    (lived : Lived configuration manager site) : Held configuration manager site := by
  induction lived with
  | start host => exact ⟨rfl, nofun, fun _ _ known => by simp at known, fun _ _ known => by simp at known⟩
  | load _ findable held => exact held.load findable
  | reload _ findable now held => exact held.reload findable now
  | close _ now held => exact held.close now
  | flush _ now held => exact held.flush now
  | total _ orders maxAge now held => exact held.total orders maxAge now
  | deed _ number deed held => exact held.deed number deed
  | elsewhere _ host spares held => exact held.elsewhere spares

/-- Time passes: whoever holds old storages goes on with them, and whatever else is on the host may change. -/
inductive Rests (configuration : Configuration) (site : Site) : Site → Prop where
  | still : Rests configuration site site
  | deed {later : Site} (rests : Rests configuration site later) (number : Nat) (deed : Deed) :
    Rests configuration site (later.deed number deed)
  | elsewhere {later : Site} (rests : Rests configuration site later) (host : Host)
    (spares : Spares configuration later.host host) : Rests configuration site { later with host }

/-- Storages are open under a new number, with the times and names of others as these were on a site. -/
def Resumes (site : Site) (before : Storages) (now : Int64) (result : Except LoadError Unit × Manager × Site) : Prop :=
  result.1 = .ok () ∧ ∃ number after, result.2.1.current = some number ∧ site.storages[number]? = none ∧
    result.2.2.storages[number]? = some after ∧ before.Resumed site.host now after result.2.2.host

/-- Whatever is read through storages is refused, and nothing that is done through them is seen by others. -/
structure Stale (site : Site) (number : Nat) : Prop where
  seconds (id : PlayerId) (t : Int64) :
    site.readSessions number (fun sessions ledger => sessions.seconds ledger id t) = .error .closed
  totals (t : Int64) : site.readSessions number (fun sessions ledger => sessions.totals ledger t) = .error .closed
  holder (name : String) :
    site.read number (fun storages => storages.backend.holder? site.host name) = .error .closed
  nameOf (id : PlayerId) : site.read number (fun storages => storages.backend.nameOf? site.host id) = .error .closed
  names : site.read number (fun storages => storages.backend.names site.host) = .error .closed
  host (deed : Deed) : (site.deed number deed).host = site.host
  others (deed : Deed) (other : Nat) (apart : other ≠ number) :
    (site.deed number deed).storages[other]? = site.storages[other]?

/-- Closing and opening again loses nothing and counts nothing twice. -/
structure Lossless (configuration : Configuration) (manager : Manager) (site : Site) : Prop where
  resumed (number : Nat) (storages : Storages) (now : Int64) (current : manager.current = some number)
    (known : site.storages[number]? = some storages) (isOpen : storages.backend.IsOpen)
    (accepted : (storages.sessions.close (storages.backend, site.host) now).1 = .ok ()) :
    Resumes site storages now (manager.reload site now) ∧
      ∀ later, Rests configuration (manager.close site now).2 later →
        Resumes site storages now ((manager.close site now).1.load later)
  closed (now : Int64) : (manager.close site now).1.current = none
  refused (idle : manager.current = none) (now : Int64) (orders : Traversals) (maxAge : UInt64) (limit : Nat) :
    manager.storages = .error .closed ∧ manager.flush site now = (.error .closed, site) ∧
      manager.total site orders maxAge now = (.error .closed, site) ∧ manager.top site limit now = .error .closed ∧
      manager.close site now = (manager, site)
  loaded (number : Nat) (current : manager.current = some number) : manager.load site = (.ok (), manager, site)
  stale (number : Nat) (old : manager.current ≠ some number) : Stale site number

section Lossless

variable {configuration : Configuration} {manager : Manager} {site : Site}

theorem Rests.content {number : Nat} {storages : Storages} {later : Site} (rests : Rests configuration site later)
    (held : Held configuration manager site) (idle : manager.current = none)
    (known : site.storages[number]? = some storages) (last : site.storages.length = number + 1) :
    Held configuration manager later ∧ later.storages.length = number + 1 ∧
      ∃ sessions, later.storages[number]? = some ⟨storages.backend, sessions⟩ ∧
        SameContent (storages.backend, site.host) (storages.backend, later.host) := by
  induction rests with
  | still => exact ⟨held, last, storages.sessions, known, .refl _⟩
  | @deed later rests place deed ih =>
    obtain ⟨held, length, sessions, known, content⟩ := ih
    have old : manager.current ≠ some place := by simp [idle]
    obtain ⟨host, others⟩ := held.stale place old deed
    refine ⟨held.deed place deed, (later.length_deed place deed).trans length, ?_⟩
    rw [host]
    by_cases mine : place = number
    · subst mine
      refine ⟨(deed.act (sessions, storages.backend, later.host)).1, ?_, content⟩
      rw [Site.known_deed known, deed.act_of_shut (held.shut place _ known old)]
    · exact ⟨sessions, (others number (Ne.symm mine)).trans known, content⟩
  | elsewhere rests host spares ih =>
    obtain ⟨held, length, sessions, known, content⟩ := ih
    have same := ((held.housed number _ known length).spared spares).2
    exact ⟨held.elsewhere spares, length, sessions, known, content.trans same⟩

theorem Rests.load {number : Nat} {storages : Storages} {later : Site} (rests : Rests configuration site later)
    (held : Held configuration manager site) (idle : manager.current = none)
    (known : site.storages[number]? = some storages) (last : site.storages.length = number + 1) :
    ∃ again host, manager.load later = (.ok (), { manager with current := some (number + 1) },
        ⟨host, later.storages ++ [⟨again, .empty⟩]⟩) ∧ later.storages.length = number + 1 ∧
      again.Housed configuration host ∧ again.IsOpen ∧ SameContent (storages.backend, site.host) (again, host) := by
  obtain ⟨held, length, sessions, known, content⟩ := rests.content held idle known last
  obtain ⟨again, host, loaded, housed, isOpen, same⟩ := Backend.load_of_housed (held.housed number _ known length)
  refine ⟨again, host, ?_, length, housed, isOpen, content.trans same⟩
  unfold Manager.load Site.load
  rw [held.configured, idle]
  dsimp only
  rw [loaded]
  dsimp only [Site.insert]
  rw [length]

theorem Held.resumes (held : Held configuration manager site) {number : Nat} {storages : Storages} {now : Int64}
    (current : manager.current = some number) (known : site.storages[number]? = some storages)
    (isOpen : storages.backend.IsOpen)
    (accepted : (storages.sessions.close (storages.backend, site.host) now).1 = .ok ()) {later : Site}
    (rests : Rests configuration (manager.close site now).2 later) :
    Resumes site storages now ((manager.close site now).1.load later) := by
  have last := held.last number current
  obtain ⟨inside, -⟩ := List.getElem?_eq_some_iff.mp known
  have closed : manager.close site now = ({ manager with current := none }, site.close number now) := by
    rw [Manager.close, current]
  have shut := held.close now
  rw [closed] at rests shut ⊢
  rw [Site.close_of_known known] at rests shut
  obtain ⟨again, host, loaded, length, housed, isOpen', same⟩ := rests.load shut rfl
    (List.getElem?_set_self inside) (by rw [List.length_set, last])
  rw [loaded]
  refine ⟨rfl, number + 1, ⟨again, .empty⟩, rfl, ?_, ?_, ?_⟩
  · rw [List.getElem?_eq_none (by omega)]
  · rw [← length, List.getElem?_append_right (Nat.le_refl _), Nat.sub_self]
    rfl
  · exact Storages.resumed_of_content (held.housed number storages known last) isOpen accepted housed isOpen' same

theorem Held.isStale (held : Held configuration manager site) (number : Nat) (old : manager.current ≠ some number) :
    Stale site number := by
  have acts := held.stale number old
  cases known : site.storages[number]? with
  | none =>
    have read {α : Type} (f : Storages → Except StorageError α) : site.read number f = .error .closed := by
      rw [Site.read, known]
    exact ⟨fun _ _ => read _, fun _ => read _, fun _ => read _, fun _ => read _, read _, fun deed => (acts deed).1,
      fun deed => (acts deed).2⟩
  | some storages =>
    obtain ⟨seconds, totals, holder, nameOf, names⟩ :=
      Backend.refusing_of_shut (held.shut number storages known old) site.host
    have read {α : Type} (f : Storages → Except StorageError α) : site.read number f = f storages := by
      rw [Site.read, known]
    refine ⟨fun id t => ?_, fun t => ?_, fun name => (read _).trans (holder name), fun id => (read _).trans (nameOf id),
      (read _).trans names, fun deed => (acts deed).1, fun deed => (acts deed).2⟩
    · rw [Site.readSessions, read, Sessions.seconds, seconds]
    · rw [Site.readSessions, read, Sessions.totals, totals]

/--
A manager that opens its storages itself loses nothing by closing them and opening them again, at once or later, as
long as nobody else touches what they keep: all players have the seconds that they had with their open sessions, no
session is counted twice, and all names are as they were. Meanwhile all access is refused, and storages that somebody
still holds from before change nothing any more. One that was handed its storages leaves them alone.
-/
theorem reopening_loses_nothing (configuration : Configuration) :
    (∀ manager site, Lived configuration manager site → Lossless configuration manager site) ∧
      ∀ (manager : Manager) site now, manager.isExternal = true →
        manager.reload site now = (.ok (), manager, site) := by
  refine ⟨fun manager site lived => ?_, fun manager site now external => if_pos external⟩
  have held := lived.held
  refine ⟨fun number storages now current known isOpen accepted => ⟨?_, fun later rests => ?_⟩, fun now => ?_,
    fun idle now orders maxAge limit => ?_, fun number current => ?_, fun number old => held.isStale number old⟩
  · rw [held.reload_eq]
    exact held.resumes current known isOpen accepted .still
  · exact held.resumes current known isOpen accepted rests
  · unfold Manager.close
    split
    · rfl
    · assumption
  · have none : manager.storages = .error .closed := by rw [Manager.storages, idle]
    refine ⟨none, ?_, ?_, ?_, ?_⟩
    · rw [Manager.flush, none]
    · rw [Manager.total, none]
    · rw [Manager.top, none]
    · rw [Manager.close, idle]
  · rw [Manager.load, current]
    cases manager.configuration <;> rfl

end Lossless

/-- A player with a session is counted once and keeps the name; whoever held the closed storages is without effect. -/
theorem reopening_loses_nothing_of_session :
    let configuration : Configuration := ⟨.file, "data", "", .sqlite, .memory, "default", "world"⟩
    let player : PlayerId := ⟨7⟩
    ∃ manager opened, (configured configuration).load ⟨⟨.empty, [], 0⟩, []⟩ = (.ok (), manager, opened) ∧
      let site := (opened.deed 0 (.name (.set player "Ann" false))).deed 0 (.use (.call (.start player 0)))
      Lived configuration manager site ∧ ∃ number again after storages,
        manager.reload site 61500 = (.ok (), again, after) ∧ again.current = some number ∧ number ≠ 0 ∧
        after.storages[number]? = some storages ∧ storages.sessions = .empty ∧
        (∀ t, storages.sessions.seconds (storages.backend, after.host) player t = .ok 61) ∧
        storages.backend.holder? after.host "Ann" = .ok (some player) ∧ Stale after 0 := by
  intro configuration player
  have straight : Findable configuration ⟨.empty, [], 0⟩ := by
    refine .inr ⟨?_, by decide +kernel, by decide +kernel⟩
    intro place component stands
    simp [Disk.empty] at stands
  have started : Lived configuration (configured configuration) ⟨⟨.empty, [], 0⟩, []⟩ := .start _
  have loaded := started.load fun _ => straight
  -- The run is evaluated once, by the kernel, before anything is read off it.
  have facts : (fun result : Except LoadError Unit × Manager × Site =>
      let site := (result.2.2.deed 0 (.name (.set player "Ann" false))).deed 0 (.use (.call (.start player 0)))
      result.1 = .ok () ∧ result.2.1.current = some 0 ∧ (site.storages[0]?).isSome = true ∧
        ∀ storages ∈ site.storages[0]?, storages.backend.IsOpen ∧
          (storages.sessions.close (storages.backend, site.host) 61500).1 = .ok () ∧
          Sessions.Readable (storages.sessions, storages.backend, site.host) player 61500 ∧
          Fits ((storages.sessions.live player 61500).toInt + storages.sessions.parked player) ∧
          storages.sessions.seconds (storages.backend, site.host) player 61500 = .ok 61 ∧
          storages.backend.holder? site.host "Ann" = .ok (some player))
      ((configured configuration).load ⟨⟨.empty, [], 0⟩, []⟩) := by decide +kernel
  generalize (configured configuration).load ⟨⟨.empty, [], 0⟩, []⟩ = result at facts loaded
  obtain ⟨outcome, manager, opened⟩ := result
  obtain ⟨rfl, current, some, facts⟩ := facts
  have lived := (loaded.deed 0 (.name (.set player "Ann" false))).deed 0 (.use (.call (.start player 0)))
  refine ⟨manager, opened, rfl, lived, ?_⟩
  dsimp only at current some facts lived ⊢
  generalize (opened.deed 0 (.name (.set player "Ann" false))).deed 0 (.use (.call (.start player 0))) = site at *
  obtain ⟨before, known⟩ := Option.isSome_iff_exists.mp some
  obtain ⟨isOpen, accepted, readable, fits, read, named⟩ := facts before known
  have lossless := (reopening_loses_nothing configuration).1 manager site lived
  have resumes := (lossless.resumed 0 before 61500 current known isOpen accepted).1
  have relived := lived.reload (fun none => by simp [none] at known) 61500
  generalize manager.reload site 61500 = result at resumes relived
  obtain ⟨outcome, again, next⟩ := result
  obtain ⟨rfl, number, after, current', new, known', resumed⟩ := resumes
  have apart : number ≠ 0 := by
    rintro rfl
    cases known.symm.trans new
  have stale := ((reopening_loses_nothing configuration).1 again next relived).stale 0 fun same => apart <|
    Option.some.inj (current'.symm.trans same)
  refine ⟨number, again, next, after, rfl, current', apart, known', resumed.sessions, ?_, ?_, stale⟩
  · obtain ⟨seconds, told, retold⟩ := resumed.seconds player readable fits
    cases told.symm.trans read
    exact retold
  · exact (resumed.holder "Ann").trans named

/-- Names that the first opening overlooks are found by the next one, though nobody else has written them. -/
theorem reloading_brings_names_to_light :
    let held := FlatObject.toBytes (.ofList [("alice", (⟨1⟩ : PlayerId).toText)] compare)
    let host : Host := ⟨⟨.ofList [(["data"], .directory), (["data", "names.json"], .file held)] compare, []⟩, [], 0⟩
    let configuration : Configuration := ⟨.file, "new/../data", "", .sqlite, .memory, "default", "world"⟩
    let opened := (configured configuration).load ⟨host, []⟩
    let again := opened.2.1.reload opened.2.2 0
    opened.1 = .ok () ∧ opened.2.1.current = some 0 ∧
      (∀ storages ∈ opened.2.2.storages[0]?, storages.backend.IsOpen ∧
        (storages.sessions.close (storages.backend, opened.2.2.host) 0).1 = .ok ()) ∧
      again.1 = .ok () ∧ again.2.1.current = some 1 ∧
      opened.2.2.read 0 (fun storages => storages.backend.holder? opened.2.2.host "alice") = .ok none ∧
      again.2.2.read 1 (fun storages => storages.backend.holder? again.2.2.host "alice") = .ok (some ⟨1⟩) := by
  decide +kernel

end Manager

end Playtime
