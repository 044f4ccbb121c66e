import Playtime.Proofs.Manager.FlushedTotal
import Playtime.Proofs.Node.Service

namespace Playtime

namespace Sessions

variable {σ : Type} [Ledger σ] [LawfulLedger σ]

/-- What sessions owed and what was pending is in the ledger, and the sessions go on with what is left of a second. -/
structure Flushed (before : Sessions × σ) (now : Int64) (after : Sessions × σ) : Prop where
  pending : after.1.pending = ∅
  started (id : PlayerId) : after.1.started[id]? = (before.1.started[id]?).map fun started => advance started now
  credited (id : PlayerId) : LawfulLedger.balance after.2 id =
    LawfulLedger.balance before.2 id + (addSat (before.1.live id now) (before.1.pending.getD id 0)).toInt
  whole (id : PlayerId) (fits : Fits ((before.1.live id now).toInt + before.1.parked id)) :
    LawfulLedger.balance after.2 id = saved before id + (before.1.live id now).toInt
  nothing (id : PlayerId) (measured : before.1.Measured id now) : after.1.live id now = 0

theorem flushed_of_accepted {state : Sessions × σ} {now : Int64} (sound : LawfulLedger.Sound state.2)
    (accepted : (state.1.flush state.2 now).1 = .ok ()) : Flushed state now (state.1.flush state.2 now).2 := by
  obtain ⟨sessions, ledger⟩ := state
  have pending := pending_flush sessions ledger now accepted
  have started (id : PlayerId) : (sessions.flush ledger now).2.1.started[id]? =
      (sessions.started[id]?).map fun started => advance started now := by
    rw [started_flush, Std.ExtTreeMap.getElem?_map]
  have credited (id : PlayerId) : LawfulLedger.balance (sessions.flush ledger now).2.2 id =
      LawfulLedger.balance ledger id + (addSat (sessions.live id now) (sessions.pending.getD id 0)).toInt := by
    have settled : saved (sessions.flush ledger now).2 id = _ :=
      saved_settleAll (sessions.started.map fun _ started => advance started now) ledger (sessions.due now) id sound
    rw [saved, getD_due, parked, pending] at settled
    simpa using settled
  refine ⟨pending, started, credited, fun id fits => ?_, fun id measured => ?_⟩
  · rw [credited, fits.toInt_addSat, saved]
    dsimp only [parked]
    omega
  · unfold live
    rw [started]
    cases known : sessions.started[id]? with
    | none => rfl
    | some start => exact owedSeconds_advance (measured start known)

end Sessions

theorem Backend.clock_creditAll (clock : Int64) :
    Sessions.KeptByCredits fun state : Backend × Host => state.2.clock = clock := by
  rintro ⟨backend, host⟩ deltas rfl
  cases backend with
  | files names times => rfl
  | relational store => exact store.clock_write host _
  | mixed names store => exact store.clock_write host _

theorem Site.clock_use (site : Site) (number : Nat) (what : Sessions.Use) :
    (site.deed number (.use what)).host.clock = site.host.clock := by
  cases known : site.storages[number]? with
  | none => rw [deed_of_unknown known]
  | some storages =>
    rw [deed_of_known known]
    exact Sessions.ledger_use (Backend.clock_creditAll site.host.clock)
      (fun ledger same => (congrArg Host.clock (Backend.host_close ledger)).trans same)
      (storages.sessions, storages.backend, site.host) what rfl

namespace Node

variable {managers : List Manager}

theorem clock_flush (managers : List Manager) (number : Nat) (site : Site) :
    (flush managers number site).host.clock = site.host.clock := by
  unfold flush
  split
  · unfold Manager.flush
    split
    · rfl
    · next place _ =>
      rw [site.onSessions_eq_deed place (.use (.call (.flush site.host.now))) fun _ => rfl]
      exact site.clock_use place _
  · rfl

theorem clock_flushLast (managers : List Manager) (timers : List (Timer Duty)) (site : Site) :
    (flushLast managers timers site).host.clock = site.host.clock := by
  induction timers generalizing site with
  | nil => rfl
  | cons timer timers ih =>
    unfold flushLast
    split
    · exact (ih _).trans (clock_flush managers _ site)
    · exact ih site

theorem flushLast_append (managers : List Manager) (earlier later : List (Timer Duty)) (site : Site) :
    flushLast managers (earlier ++ later) site = flushLast managers later (flushLast managers earlier site) := by
  induction earlier generalizing site with
  | nil => rfl
  | cons timer earlier ih =>
    rw [List.cons_append, flushLast, flushLast]
    split
    · exact ih _
    · exact ih site

theorem flushLast_of_polls (managers : List Manager) {timers : List (Timer Duty)}
    (polls : ∀ timer ∈ timers, ∀ manager, timer.duty ≠ .flush manager) (site : Site) :
    flushLast managers timers site = site := by
  induction timers with
  | nil => rfl
  | cons timer timers ih =>
    unfold flushLast
    split
    · next manager duty => exact absurd duty (polls timer (List.mem_cons_self ..) manager)
    · exact ih fun other member => polls other (List.mem_cons_of_mem _ member)

end Node

namespace Service

/-- What shutting a service down does for a manager, between the timers that are seen to earlier and later. -/
structure LastFlush (service : Service) (earlier later : List (Timer Duty)) (manager : Manager) : Prop where
  ended : (service.node.shutdown service.managers service.site).2 =
    let met := Node.flushLast service.managers earlier service.site
    Node.flushLast service.managers later (manager.flush met service.site.host.now).2
  alone (polls : ∀ timer ∈ earlier ++ later, ∀ other, timer.duty ≠ .flush other) :
    (service.node.shutdown service.managers service.site).2 =
      (manager.flush service.site service.site.host.now).2
  flushed (place : Nat) (current : manager.current = some place) :
    let met := Node.flushLast service.managers earlier service.site
    let flushed := manager.flush met service.site.host.now
    ∃ before after, met.storages[place]? = some before ∧ flushed.2.storages[place]? = some after ∧
      (flushed.1 = .ok () → Sessions.Flushed (before.sessions, before.backend, met.host) service.site.host.now
        (after.sessions, after.backend, flushed.2.host))

theorem Flushes.lastFlush {service : Service} {number : Nat} (flushes : service.Flushes number) :
    ∃ earlier timer later manager, service.node.timers = earlier ++ timer :: later ∧ timer.duty = .flush number ∧
      service.managers[number]? = some manager ∧ service.LastFlush earlier later manager := by
  obtain ⟨timer, member, duty⟩ := List.mem_map.mp flushes.duty
  obtain ⟨earlier, later, timers⟩ := List.append_of_mem member
  obtain ⟨manager, known, housed⟩ := flushes.manager
  have now : (Node.flushLast service.managers earlier service.site).host.now = service.site.host.now :=
    congrArg unixMillis (Node.clock_flushLast service.managers earlier service.site)
  have reaches := Node.reaches_flushLast service.managers earlier service.site
  have ended : (service.node.shutdown service.managers service.site).2 =
      Node.flushLast service.managers later
        (manager.flush (Node.flushLast service.managers earlier service.site) service.site.host.now).2 := by
    show Node.flushLast service.managers service.node.timers service.site = _
    rw [timers, Node.flushLast_append, Node.flushLast, duty]
    show Node.flushLast service.managers later (Node.flush service.managers number _) = _
    rw [Node.flush, known]
    dsimp only
    rw [now]
  refine ⟨earlier, timer, later, manager, timers, duty, known, ended, fun polls => ?_, fun place current => ?_⟩
  · rw [ended, Node.flushLast_of_polls _ fun other inside => polls other (List.mem_append_left _ inside),
      Node.flushLast_of_polls _ fun other inside => polls other (List.mem_append_right _ inside)]
  · obtain ⟨before, found⟩ := housed.reaches reaches place current
    obtain ⟨outcome, host, found'⟩ := Manager.flush_of_known _ current found service.site.host.now
    refine ⟨before, _, found, found', fun accepted => ?_⟩
    rw [host]
    have sound := (reaches.owned flushes.owned).sound before.backend
    exact Sessions.flushed_of_accepted sound (outcome.symm.trans accepted)

/--
A node is asked to flush a manager every so many seconds, as many as a timer can be set for. Whatever happens then, of
time, ticks, refused writes, closing and opening, shutting the node down flushes the storages that the manager has open
by then, once more and at the time on the wall clock. If that is written, all that was due is in the ledger and nothing
is pending.
-/
theorem last_flush (service : Service) (owned : Site.Owned service.site.host) (number : Nat) (manager : Manager)
    (known : service.managers[number]? = some manager) (housed : manager.IsHoused service.site) (interval : UInt64)
    (positive : 0 < interval) (timely : (service.node.clock + interval.toNat * 1000) / 1000 < lastTimerSecond)
    (incidents : List Incident) :
    let reached := (service.meet (.flushEvery number (interval.toNat * 1000))).run incidents
    ∃ earlier timer later last, reached.node.timers = earlier ++ timer :: later ∧ timer.duty = .flush number ∧
      reached.managers[number]? = some last ∧ reached.LastFlush earlier later last := by
  have period : 0 < interval.toNat * 1000 := Nat.mul_pos (UInt64.lt_iff_toNat_lt.mp positive) (by decide)
  exact ((flushes_flushEvery known housed owned period timely).run incidents).lastFlush

/-- A tick meets a refused write and the manager is reloaded; a session is open in the new storages at the end. -/
theorem last_flush_past_reload :
    let player : PlayerId := ⟨7⟩
    let manager : Manager := .configured ⟨.file, "data", "ot_", .sqlite, .memory, "lobby", "world"⟩
    let service : Service := ⟨.empty, [manager], ⟨⟨.empty, [], 0⟩, []⟩⟩
    let refused : List Incident := [.request 0 .load, .errand (.deed 0 (.use (.call (.start player 0)))),
      .errand (.meet 5000 [.refused]), .pass 1500]
    let later : List Incident := [.request 0 (.reload 7400), .errand (.deed 1 (.use (.call (.start player 10000)))),
      .errand (.meet 22700 []), .pass 400]
    let started := service.meet (.flushEvery 0 ((1 : UInt64).toNat * 1000))
    let reached := started.run (refused ++ later)
    let ended := (reached.node.shutdown reached.managers reached.site).2
    ((started.run refused).site.storages[0]?).bind (fun storages => storages.sessions.pending[player]?) = some 5 ∧
      ∃ after, ended.storages[1]? = some after ∧ after.sessions.pending = ∅ ∧
        LawfulLedger.balance (after.backend, ended.host) player = 19 := by
  intro player manager service refused later started reached ended
  have pending : ((started.run refused).site.storages[0]?).bind
      (fun storages => storages.sessions.pending[player]?) = some 5 := by decide +kernel
  have facts : reached.node.timers.length = 1 ∧
      (∀ manager ∈ reached.managers[0]?, manager.current = some 1 ∧
        (manager.flush reached.site reached.site.host.now).1 = .ok ()) ∧
      ∀ storages ∈ reached.site.storages[1]?,
        Fits ((storages.sessions.live player reached.site.host.now).toInt + storages.sessions.parked player) ∧
        Sessions.saved (storages.sessions, storages.backend, reached.site.host) player = 7 ∧
        storages.sessions.live player reached.site.host.now = 12 := by decide +kernel
  have made : ∃ earlier timer others last, reached.node.timers = earlier ++ timer :: others ∧
      timer.duty = .flush 0 ∧ reached.managers[0]? = some last ∧ reached.LastFlush earlier others last :=
    last_flush service nofun 0 manager rfl nofun 1 (by decide) (by decide) (refused ++ later)
  refine ⟨pending, ?_⟩
  -- The run has been evaluated, and only what was read off it is needed from here on.
  clear_value reached
  obtain ⟨single, managed, figures⟩ := facts
  obtain ⟨earlier, timer, others, last, timers, -, known, lastly⟩ := made
  obtain ⟨rfl, rfl⟩ : earlier = [] ∧ others = [] := by
    rw [timers, List.length_append, List.length_cons] at single
    exact ⟨List.length_eq_zero_iff.mp (by omega), List.length_eq_zero_iff.mp (by omega)⟩
  obtain ⟨current, accepted⟩ := managed last known
  obtain ⟨before, after, met, found, flushed⟩ := lastly.flushed 1 current
  obtain ⟨fits, saved, live⟩ := figures before met
  have alone : ended = (last.flush reached.site reached.site.host.now).2 := lastly.alone nofun
  have whole : LawfulLedger.balance (after.backend, (last.flush reached.site reached.site.host.now).2.host) player =
      Sessions.saved (before.sessions, before.backend, reached.site.host) player +
        (before.sessions.live player reached.site.host.now).toInt := (flushed accepted).whole player fits
  rw [saved, live] at whole
  rw [alone]
  exact ⟨after, found, (flushed accepted).pending, whole⟩

/-- No timer can be set for no time or for too long a time, and then the end of the node leaves all that is owed. -/
theorem untimely_flush_left_out :
    let parted : PlayerId := ⟨7⟩
    let online : PlayerId := ⟨8⟩
    let manager : Manager := .configured ⟨.file, "data", "ot_", .sqlite, .memory, "lobby", "world"⟩
    let service : Service := ⟨.empty, [manager], ⟨⟨.empty, [], 0⟩, []⟩⟩
    let incidents : List Incident := [.request 0 .load, .errand (.deed 0 (.use (.call (.start parted 0)))),
      .errand (.deed 0 (.use (.call (.start online 0)))), .errand (.meet 7000 [.refused]),
      .errand (.deed 0 (.use (.call (.stop parted 7000)))), .errand (.meet 7000 []), .pass 400]
    let reached (interval : UInt64) := (service.meet (.flushEvery 0 (interval.toNat * 1000))).run incidents
    let ended (service : Service) := (service.node.shutdown service.managers service.site).2
    let outcome (service : Service) :=
      (service.managers[0]?).map fun manager => (manager.flush service.site service.site.host.now).1
    let figures (site : Site) := (site.storages[0]?).map fun storages => (storages.sessions.pending[parted]?,
      LawfulLedger.balance (storages.backend, site.host) parted, storages.sessions.live online site.host.now,
      LawfulLedger.balance (storages.backend, site.host) online)
    (outcome (reached 0) = some (.ok ()) ∧ figures (ended (reached 0)) = some (some 7, 0, 7, 0)) ∧
      outcome (reached 18446744073709551615) = some (.ok ()) ∧
        figures (ended (reached 18446744073709551615)) = some (some 7, 0, 7, 0) := by
  decide +kernel

end Service

end Playtime
