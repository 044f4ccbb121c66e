import Playtime.Proofs.Manager.Rollup
import Playtime.Proofs.Node.Advance
import Playtime.Proofs.Site.Closing

namespace Playtime

open Replication (Frame Link)

namespace Replication

variable {σ : Type} [Ledger σ]

theorem use_handle (state : Sessions × σ) (now : Int64) (frame : Frame) :
    (Hub.handle state.1 state.2 now frame).2 = state ∨
      ∃ id delta, (Hub.handle state.1 state.2 now frame).2 = Sessions.use state (.call (.add id delta)) := by
  unfold Hub.handle
  split
  · exact .inl rfl
  · next message _ =>
    obtain ⟨id, command⟩ := message
    cases command with
    | get =>
      left
      unfold Hub.answer
      cases state.1.seconds state.2 id now <;> rfl
    | add delta =>
      refine .inr ⟨id, delta, ?_⟩
      show _ = (state.1.add state.2 id delta).2
      unfold Hub.answer
      dsimp only
      generalize state.1.add state.2 id delta = added
      obtain ⟨_ | _, sessions, ledger⟩ := added <;> rfl
    | send seconds => exact .inl rfl

theorem uses_serve (state : Sessions × σ) (now : Int64) (frames : List Frame) :
    ∃ uses : List Sessions.Use, (Hub.serve state.1 state.2 now frames).2 = uses.foldl Sessions.use state := by
  induction frames generalizing state with
  | nil => exact ⟨[], rfl⟩
  | cons frame frames ih =>
    obtain ⟨uses, same⟩ := ih (Hub.handle state.1 state.2 now frame).2
    have rest : (Hub.serve state.1 state.2 now (frame :: frames)).2 =
        uses.foldl Sessions.use (Hub.handle state.1 state.2 now frame).2 := same
    rcases use_handle state now frame with nothing | ⟨id, delta, credited⟩
    · exact ⟨uses, rest.trans (by rw [nothing])⟩
    · exact ⟨.call (.add id delta) :: uses, rest.trans (by rw [credited]; rfl)⟩

namespace Link

theorem reaches_deliverUpward (link : Link) (site : Site) : site.Reaches (link.deliverUpward site).2 := by
  unfold deliverUpward
  split
  · exact .refl site
  · next number _ =>
    unfold Site.onSessions
    cases known : site.storages[number]? with
    | none => exact .refl site
    | some storages =>
      obtain ⟨uses, same⟩ := uses_serve (storages.sessions, storages.backend, site.host) site.host.now link.upward
      refine ⟨uses.map fun what => .deed number (.use what), ?_⟩
      rw [Site.run_uses known, ← same]

theorem reaches_settle (link : Link) (site : Site) : site.Reaches (link.settle site).2 := by
  unfold settle
  split
  · exact link.reaches_deliverUpward site
  · exact .refl site

end Link

end Replication

namespace Manager

inductive Request where
  | load
  | close (now : Int64)
  | reload (now : Int64)
  | flush (now : Int64)
  | total (orders : Traversals) (maxAge : UInt64) (now : Int64)

def fulfil (manager : Manager) (site : Site) : Request → Manager × Site
  | .load => (manager.load site).2
  | .close now => manager.close site now
  | .reload now => (manager.reload site now).2
  | .flush now => (manager, (manager.flush site now).2)
  | .total orders maxAge now => (manager, (manager.total site orders maxAge now).2)

/-- The storages that a manager has open are on the site. -/
def IsHoused (manager : Manager) (site : Site) : Prop :=
  ∀ place, manager.current = some place → ∃ storages, site.storages[place]? = some storages

variable {manager : Manager} {site after : Site}

theorem reaches_flush (manager : Manager) (site : Site) (now : Int64) : site.Reaches (manager.flush site now).2 := by
  unfold Manager.flush
  split
  · exact .refl site
  · next number _ =>
    rw [site.onSessions_eq_deed number (.use (.call (.flush now))) fun _ => rfl]
    exact site.reaches_deed number _

theorem reaches_close (manager : Manager) (site : Site) (now : Int64) : site.Reaches (manager.close site now).2 := by
  unfold Manager.close
  split
  · next number _ =>
    rw [Site.close_eq]
    exact (site.reaches_deed number _).trans (Site.reaches_deed _ number _)
  · exact .refl site

theorem reaches_load (manager : Manager) (site : Site) : site.Reaches (manager.load site).2.2 := by
  unfold Manager.load
  split
  · next configuration _ _ =>
    have reaches : site.Reaches (site.load configuration).2 := site.reaches_perform (.load configuration)
    generalize site.load configuration = opened at *
    obtain ⟨_ | _, _⟩ := opened <;> exact reaches
  · exact .refl site

theorem reaches_fulfil (manager : Manager) (site : Site) (request : Request) :
    site.Reaches (manager.fulfil site request).2 := by
  cases request with
  | load => exact manager.reaches_load site
  | close now => exact manager.reaches_close site now
  | reload now =>
    show site.Reaches (manager.reload site now).2.2
    unfold Manager.reload
    split
    · exact .refl site
    · exact (manager.reaches_close site now).trans (reaches_load _ _)
  | flush now => exact manager.reaches_flush site now
  | total orders maxAge now =>
    show site.Reaches (manager.total site orders maxAge now).2
    rcases manager.site_total site orders maxAge now with same | ⟨number, statistic, same⟩
    · rw [same]
      exact .refl site
    · rw [same]
      exact site.reaches_deed number _

namespace IsHoused

theorem reaches (housed : manager.IsHoused site) (reaches : site.Reaches after) : manager.IsHoused after := by
  intro place current
  obtain ⟨storages, known⟩ := housed place current
  exact reaches.known known

theorem close (manager : Manager) (site : Site) (now : Int64) :
    (manager.close site now).1.IsHoused (manager.close site now).2 := by
  unfold Manager.close
  split
  · nofun
  · next none => exact fun place current => absurd (none.symm.trans current) nofun

theorem load (housed : manager.IsHoused site) : (manager.load site).2.1.IsHoused (manager.load site).2.2 := by
  unfold Manager.load
  split
  · next configuration _ none =>
    unfold Site.load
    generalize Backend.load site.host configuration = opened
    obtain ⟨error | backend, host⟩ := opened
    · exact fun place current => absurd (none.symm.trans current) nofun
    · rintro place ⟨⟩
      exact ⟨⟨backend, .empty⟩, List.getElem?_concat_length⟩
  · exact housed

theorem fulfil (housed : manager.IsHoused site) (request : Request) :
    (manager.fulfil site request).1.IsHoused (manager.fulfil site request).2 := by
  cases request with
  | load => exact housed.load
  | close now => exact close manager site now
  | reload now =>
    show (manager.reload site now).2.1.IsHoused (manager.reload site now).2.2
    unfold Manager.reload
    split
    · exact housed
    · exact (close manager site now).load
  | flush now => exact housed.reaches (manager.reaches_fulfil site (.flush now))
  | total orders maxAge now => exact housed.reaches (manager.reaches_fulfil site (.total orders maxAge now))

end IsHoused

end Manager

namespace Node

theorem reaches_settle (links : List Link) (site : Site) : site.Reaches (settle links site).2 := by
  induction links generalizing site with
  | nil => exact .refl site
  | cons link links ih => exact (link.reaches_settle site).trans (ih _)

theorem reaches_flush (managers : List Manager) (number : Nat) (site : Site) :
    site.Reaches (flush managers number site) := by
  unfold flush
  split
  · next manager _ => exact manager.reaches_flush site site.host.now
  · exact .refl site

theorem reaches_perform (managers : List Manager) (duty : Duty) (state : List Link × Site) :
    state.2.Reaches (perform managers duty state).2 := by
  cases duty with
  | flush manager => exact reaches_flush managers manager state.2
  | poll link => exact .refl state.2

theorem reaches_flushLast (managers : List Manager) (timers : List (Timer Duty)) (site : Site) :
    site.Reaches (flushLast managers timers site) := by
  induction timers generalizing site with
  | nil => exact .refl site
  | cons timer timers ih =>
    unfold flushLast
    split
    · next manager _ => exact (reaches_flush managers manager site).trans (ih _)
    · exact ih site

theorem advance_keeps (node : Node) (managers : List Manager) (site : Site) (millis : Nat) :
    (node.advance managers site millis).1.timers.map Timer.duty = node.timers.map Timer.duty ∧
      site.Reaches (node.advance managers site millis).2 := by
  refine node.advance_preserves managers site millis
    (fun timers state => timers.map Timer.duty = node.timers.map Timer.duty ∧ site.Reaches state.2)
    (fun _ state ⟨duties, reaches⟩ => ⟨duties, reaches.trans (reaches_settle state.1 state.2)⟩)
    (fun _ state _ timer found _ ⟨duties, reaches⟩ => ?_) ⟨rfl, .refl site⟩
  exact ⟨(Timers.duties_renew found).trans duties, reaches.trans (reaches_perform managers timer.duty state)⟩

theorem schedule_keeps (node : Node) (duty : Duty) (period : Nat) {other : Duty}
    (set : other ∈ node.timers.map Timer.duty) : other ∈ (node.schedule duty period).timers.map Timer.duty := by
  rw [schedule, List.map_append]
  exact List.mem_append_left _ set

end Node

structure Service where
  node : Node
  managers : List Manager
  site : Site

namespace Service

/-- What may happen to a node in service. -/
inductive Incident where
  | pass (millis : Nat)
  | errand (errand : Site.Errand)
  | request (manager : Nat) (request : Manager.Request)
  | manage (manager : Manager)
  | flushEvery (manager period : Nat)
  | connect (hub : Option Nat) (period : Nat)
  | link (number : Nat) (change : Link → Link)

def meet (service : Service) : Incident → Service
  | .pass millis =>
    match service.node.advance service.managers service.site millis with
    | (node, site) => { service with node, site }
  | .errand errand => { service with site := service.site.perform errand }
  | .request number request =>
    match service.managers[number]? with
    | none => service
    | some manager =>
      match manager.fulfil service.site request with
      | (manager, site) => { service with managers := service.managers.set number manager, site }
  | .manage manager => { service with managers := service.managers ++ [manager] }
  | .flushEvery manager period => { service with node := service.node.flushEvery manager period }
  | .connect hub period => { service with node := service.node.connect hub period }
  | .link number change =>
    { service with node := { service.node with links := service.node.links.modify number change } }

def run (service : Service) : List Incident → Service
  | [] => service
  | incident :: later => run (service.meet incident) later

/-- A timer has been set to flush a manager, whose storages are on the site. -/
structure Flushes (service : Service) (number : Nat) : Prop where
  duty : .flush number ∈ service.node.timers.map Timer.duty
  manager : ∃ manager, service.managers[number]? = some manager ∧ manager.IsHoused service.site
  owned : Site.Owned service.site.host

variable {service : Service} {number : Nat}

theorem flushes_flushEvery {manager : Manager} {period : Nat} (known : service.managers[number]? = some manager)
    (housed : manager.IsHoused service.site) (owned : Site.Owned service.site.host) (positive : 0 < period)
    (timely : (service.node.clock + period) / 1000 < lastTimerSecond) :
    (service.meet (.flushEvery number period)).Flushes number := by
  refine ⟨?_, ⟨manager, known, housed⟩, owned⟩
  show _ ∈ (service.node.timers ++ (Timer.set? (Duty.flush number) period service.node.clock).toList).map Timer.duty
  rw [Timer.set?_of_timely (Duty.flush number) positive timely]
  simp

theorem Flushes.of_reaches (flushes : service.Flushes number) {node : Node} {site : Site}
    (duties : ∀ duty ∈ service.node.timers.map Timer.duty, duty ∈ node.timers.map Timer.duty)
    (reaches : service.site.Reaches site) : Flushes { service with node, site } number := by
  obtain ⟨manager, known, housed⟩ := flushes.manager
  exact ⟨duties _ flushes.duty, ⟨manager, known, housed.reaches reaches⟩, reaches.owned flushes.owned⟩

theorem Flushes.meet (flushes : service.Flushes number) (incident : Incident) :
    (service.meet incident).Flushes number := by
  cases incident with
  | pass millis =>
    obtain ⟨duties, reaches⟩ := service.node.advance_keeps service.managers service.site millis
    exact flushes.of_reaches (fun duty kept => duties ▸ kept) reaches
  | errand errand => exact flushes.of_reaches (fun _ kept => kept) (service.site.reaches_perform errand)
  | request asked request =>
    rw [Service.meet]
    split
    · exact flushes
    · next manager known =>
      have reaches := manager.reaches_fulfil service.site request
      obtain ⟨other, held, housed⟩ := flushes.manager
      refine ⟨flushes.duty, ?_, reaches.owned flushes.owned⟩
      by_cases same : asked = number
      · subst same
        cases known.symm.trans held
        obtain ⟨inside, -⟩ := List.getElem?_eq_some_iff.mp held
        exact ⟨_, List.getElem?_set_self inside, housed.fulfil request⟩
      · exact ⟨other, (List.getElem?_set_ne same).trans held, housed.reaches reaches⟩
  | manage manager =>
    obtain ⟨other, known, housed⟩ := flushes.manager
    obtain ⟨inside, -⟩ := List.getElem?_eq_some_iff.mp known
    exact ⟨flushes.duty, ⟨other, (List.getElem?_append_left inside).trans known, housed⟩, flushes.owned⟩
  | flushEvery manager period =>
    exact flushes.of_reaches (fun _ => service.node.schedule_keeps (.flush manager) period) (.refl _)
  | connect hub period => exact flushes.of_reaches (fun _ => Node.schedule_keeps _ _ period) (.refl _)
  | link number change => exact flushes.of_reaches (fun _ kept => kept) (.refl _)

theorem Flushes.run (flushes : service.Flushes number) (incidents : List Incident) :
    (service.run incidents).Flushes number := by
  induction incidents generalizing service with
  | nil => exact flushes
  | cons incident later ih => exact ih (flushes.meet incident)

end Service

end Playtime
