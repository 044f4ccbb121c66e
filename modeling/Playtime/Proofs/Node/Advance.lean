import Playtime.Node
import Playtime.Proofs.Timers

namespace Playtime

open Replication (Frame Link)

namespace Replication.Link

def IsSettled (link : Link) : Prop :=
  link.isRunning = true → link.downward = [] ∧ (link.hub.isSome = true → link.upward = [])

theorem deliverUpward_of_hubless {link : Link} (hubless : link.hub = none) (site : Site) :
    link.deliverUpward site = (link, site) := by
  rw [deliverUpward, hubless]

theorem deliverUpward_of_nothing {link : Link} (nothing : link.upward = []) (site : Site) :
    link.deliverUpward site = (link, site) := by
  obtain ⟨dependent, hub, isRunning, upward, downward⟩ := link
  obtain rfl : upward = [] := nothing
  cases hub with
  | none => rfl
  | some number =>
    unfold deliverUpward Site.onSessions
    cases known : site.storages[number]? with
    | none => simp [known, Except.toOption]
    | some storages =>
      obtain ⟨inside, rfl⟩ := List.getElem?_eq_some_iff.mp known
      have same : (⟨site.host, site.storages.set number site.storages[number]⟩ : Site) = site := by
        rw [List.set_getElem_self]
      simp [known, Hub.serve, Except.toOption, same]

theorem fields_deliverUpward (link : Link) (site : Site) :
    (link.deliverUpward site).1.isRunning = link.isRunning ∧ (link.deliverUpward site).1.hub = link.hub ∧
      (link.hub.isSome = true → (link.deliverUpward site).1.upward = []) := by
  unfold deliverUpward
  cases hub : link.hub <;> simp [hub]

theorem isSettled_settle (link : Link) (site : Site) : (link.settle site).1.IsSettled := by
  obtain ⟨running, hub, served⟩ := link.fields_deliverUpward site
  unfold settle
  split
  · exact fun _ => ⟨rfl, fun some => served (hub ▸ some)⟩
  · next stopped => exact fun running => absurd running stopped

theorem settle_of_isSettled {link : Link} (settled : link.IsSettled) (site : Site) :
    link.settle site = (link, site) := by
  unfold settle
  split
  · next running =>
    obtain ⟨nothing, idle⟩ := settled running
    have still : link.deliverUpward site = (link, site) := by
      cases hub : link.hub with
      | none => exact deliverUpward_of_hubless hub site
      | some number => exact deliverUpward_of_nothing (idle (by rw [hub]; rfl)) site
    rw [still]
    show (link.deliverDownward, site) = (link, site)
    unfold deliverDownward
    rw [nothing]
    show ({ link with downward := [] }, site) = (link, site)
    rw [← nothing]
  · rfl

end Replication.Link

namespace Node

theorem isSettled_settle (links : List Link) (site : Site) : ∀ link ∈ (settle links site).1, link.IsSettled := by
  induction links generalizing site with
  | nil => nofun
  | cons link links ih =>
    intro other member
    rcases List.mem_cons.mp member with rfl | member
    · exact link.isSettled_settle site
    · exact ih _ other member

theorem settle_of_isSettled {links : List Link} (settled : ∀ link ∈ links, link.IsSettled) (site : Site) :
    settle links site = (links, site) := by
  induction links generalizing site with
  | nil => rfl
  | cons link links ih =>
    rw [settle, Link.settle_of_isSettled (settled link (List.mem_cons_self ..))]
    dsimp only
    rw [ih fun other member => settled other (List.mem_cons_of_mem _ member)]

theorem settle_settle (links : List Link) (site : Site) :
    settle (settle links site).1 (settle links site).2 = settle links site :=
  settle_of_isSettled (isSettled_settle links site) _

/-- What the deliveries keep, and what each firing of a timer that is due keeps, a span keeps. -/
theorem advance_preserves (node : Node) (managers : List Manager) (site : Site) (millis : Nat)
    (property : List (Timer Duty) → List Link × Site → Prop)
    (settles : ∀ timers state, property timers state → property timers (settle state.1 state.2))
    (fires : ∀ timers state place timer, timers[place]? = some timer → timer.due ≤ node.clock + millis →
      property timers state → property (timers.set place timer.renew) (perform managers timer.duty state))
    (holds : property node.timers (node.links, site)) :
    property (node.advance managers site millis).1.timers
      ((node.advance managers site millis).1.links, (node.advance managers site millis).2) :=
  settles _ _ (Timers.run_keeps (fun duty (state : List Link × Site) => perform managers duty (settle state.1 state.2))
    (node.clock + millis) property
    (fun timers state place timer found reached kept =>
      fires timers _ place timer found reached (settles timers state kept))
    node.timers (node.links, site) holds)

theorem advance_leaves (node : Node) (managers : List Manager) (site : Site) (millis : Nat) :
    ∀ timer ∈ (node.advance managers site millis).1.timers, node.clock + millis < timer.due :=
  Timers.run_leaves _ _ _ _

theorem advance_eq (node : Node) (managers : List Manager) (site : Site) (millis : Nat) :
    let ended := Timers.run (fun duty state => perform managers duty (settle state.1 state.2)) (node.clock + millis)
      node.timers (node.links, site)
    node.advance managers site millis =
      (⟨node.clock + millis, (settle ended.2.1 ended.2.2).1, ended.1⟩, (settle ended.2.1 ended.2.2).2) := rfl

/-- Two spans, one after the other, come to the same as one span. -/
theorem advance_advance (node : Node) (managers : List Manager) (site : Site) (first last : Nat) :
    (node.advance managers site first).1.advance managers (node.advance managers site first).2 last =
      node.advance managers site (first + last) := by
  have once := Timers.run_run (fun duty (state : List Link × Site) => perform managers duty (settle state.1 state.2))
    (show node.clock + first ≤ node.clock + first + last by omega) node.timers (node.links, site)
  have twice := Timers.run_prepared
    (fun duty (state : List Link × Site) => perform managers duty (settle state.1 state.2))
    (fun state => settle state.1 state.2) (node.clock + first + last)
  rw [advance_eq, advance_eq, advance_eq, ← Nat.add_assoc, ← once]
  dsimp only
  generalize Timers.run _ _ node.timers (node.links, site) = ended
  obtain ⟨timers, same⟩ := twice ended.1 ended.2 (fun duty => by rw [settle_settle]) (settle_settle _ _)
  rw [timers, same]

end Node

end Playtime
