import Playtime.Proofs.Node.Advance
import Playtime.Proofs.Node.Service
import Playtime.Proofs.Replication.Histories

namespace Playtime

open Replication

namespace Replication.Dependent

structure AsksAlike (dependent other : Dependent) : Prop where
  heard : dependent.isHeard = other.isHeard
  tracked (id : PlayerId) : id ∈ dependent.tracked ↔ id ∈ other.tracked

theorem AsksAlike.trans {first second third : Dependent} (alike : first.AsksAlike second)
    (also : second.AsksAlike third) : first.AsksAlike third :=
  ⟨alike.heard.trans also.heard, fun id => (alike.tracked id).trans (also.tracked id)⟩

theorem AsksAlike.symm {first second : Dependent} (alike : first.AsksAlike second) : second.AsksAlike first :=
  ⟨alike.heard.symm, fun id => (alike.tracked id).symm⟩

theorem keys_of_mem {α : Type} {players others : Std.ExtTreeMap PlayerId α compare}
    (same : ∀ id, id ∈ players ↔ id ∈ others) : players.keys = others.keys := by
  have bare : (players.map fun _ _ => ()) = others.map fun _ _ => () := by
    apply Std.ExtTreeMap.ext_mem_unit
    simpa using same
  rw [← Std.ExtTreeMap.keys_map (f := fun _ _ => ()), bare, Std.ExtTreeMap.keys_map]

theorem AsksAlike.poll {dependent other : Dependent} (alike : dependent.AsksAlike other) :
    dependent.poll = other.poll := by
  unfold Dependent.poll forward
  rw [alike.heard, keys_of_mem alike.tracked]

theorem AsksAlike.meet {dependent other : Dependent} (alike : dependent.AsksAlike other)
    (incident : Replication.Incident) : (dependent.meet incident).1.AsksAlike (other.meet incident).1 := by
  refine ⟨?_, fun id => ?_⟩
  · rw [Bool.eq_iff_iff, isHeard_meet, isHeard_meet, alike.heard]
  · have tracked := alike.tracked id
    have one := dependent.isSome_tracked_after id [incident]
    have two := other.isSome_tracked_after id [incident]
    rw [Std.ExtTreeMap.isSome_getElem?_iff_mem, Std.ExtTreeMap.isSome_getElem?_iff_mem] at one two
    exact one.trans ((or_congr_right (and_congr_left' tracked)).trans two.symm)

theorem asksAlike_receive (dependent : Dependent) (frames : List Frame) :
    (dependent.receive frames).AsksAlike dependent := by
  induction frames generalizing dependent with
  | nil => exact ⟨rfl, fun _ => Iff.rfl⟩
  | cons frame frames ih =>
    refine AsksAlike.trans (ih (dependent.receive [frame])) ⟨Link.isHeard_receive dependent frame, fun id => ?_⟩
    have arrived := dependent.isSome_tracked_after id [.arrive frame]
    rw [Std.ExtTreeMap.isSome_getElem?_iff_mem, Std.ExtTreeMap.isSome_getElem?_iff_mem] at arrived
    simpa [after, Dependent.meet, IsThere, lasts_cons, not_lasts_nil] using arrived

theorem exists_asked (incidents : List Replication.Incident) :
    ∃ ids : List PlayerId, (ids.Nodup ∧ ∀ id, id ∈ ids ↔ .hangUp ∉ incidents ∧ IsThere id incidents) ∧
      (empty.after incidents).poll = ids.map fun id => Message.encode ⟨id, .get⟩ := by
  unfold poll
  rw [forward_after, List.map_map]
  by_cases gone : .hangUp ∈ incidents
  · exact ⟨[], ⟨List.nodup_nil, by simp [gone]⟩, if_pos gone⟩
  · refine ⟨(empty.after incidents).tracked.keys, ⟨Std.ExtTreeMap.nodup_keys, fun id => ?_⟩, if_neg gone⟩
    rw [Std.ExtTreeMap.mem_keys, mem_tracked_after]
    exact (and_iff_right gone).symm

end Replication.Dependent

namespace Replication.Link

def meet (link : Link) : Replication.Incident → Link
  | .join id => link.join id
  | .leave id => link.leave id
  | .add id delta => link.add id delta
  | .poll => link.poll
  | .arrive frame => { link with downward := link.downward ++ [frame] }
  | .hangUp => { link with dependent := link.dependent.hangUp }

structure Sends (link : Link) (dependent : Dependent) (sent : List Frame) : Prop where
  hubless : link.hub = none
  alike : link.dependent.AsksAlike dependent
  upward : link.upward = sent

variable {link : Link} {dependent : Dependent} {sent : List Frame}

theorem Sends.settle (sends : link.Sends dependent sent) (site : Site) : (link.settle site).1.Sends dependent sent := by
  unfold Link.settle
  split
  · rw [deliverUpward_of_hubless sends.hubless]
    exact ⟨sends.hubless, (link.dependent.asksAlike_receive link.downward).trans sends.alike, sends.upward⟩
  · exact sends

theorem Sends.poll (sends : link.Sends dependent sent) : link.poll.Sends dependent (sent ++ dependent.poll) :=
  ⟨sends.hubless, sends.alike, by rw [← sends.alike.poll, ← sends.upward]; rfl⟩

theorem Sends.stop (sends : link.Sends dependent sent) : link.stop.Sends dependent sent := by
  unfold Link.stop
  rw [sends.hubless]
  exact ⟨rfl, sends.alike, sends.upward⟩

theorem Sends.meet (sends : link.Sends dependent sent) (incident : Replication.Incident) :
    ∃ more, (link.meet incident).Sends (dependent.meet incident).1 (sent ++ more) := by
  have alike := sends.alike.meet incident
  obtain ⟨hubless, alike', rfl⟩ := sends
  cases incident with
  | join id => exact ⟨_, hubless, alike, rfl⟩
  | leave id => exact ⟨[], hubless, alike, (List.append_nil _).symm⟩
  | add id delta => exact ⟨_, hubless, alike, rfl⟩
  | poll => exact ⟨_, hubless, alike, rfl⟩
  | hangUp => exact ⟨[], hubless, alike, (List.append_nil _).symm⟩
  | arrive frame =>
    exact ⟨[], hubless, alike'.trans (dependent.asksAlike_receive [frame]).symm, (List.append_nil _).symm⟩

end Replication.Link

namespace Node

def SendsAt (links : List Link) (number : Nat) (dependent : Dependent) (sent : List Frame) : Prop :=
  ∃ link, links[number]? = some link ∧ link.Sends dependent sent

/-- The timer that polls a link stands in one place, and it is due at a time. -/
structure Ticks (timers : List (Timer Duty)) (number place period due : Nat) : Prop where
  here : ∃ timer, timers[place]? = some timer ∧ timer.duty = .poll number ∧ timer.period = period ∧ timer.due = due
  alone (other : Nat) (timer : Timer Duty) (found : timers[other]? = some timer) (polls : timer.duty = .poll number) :
    other = place

def Quiet (timers : List (Timer Duty)) (number : Nat) : Prop := ∀ timer ∈ timers, timer.duty ≠ .poll number

variable {links : List Link} {number place period due : Nat} {dependent : Dependent} {sent : List Frame}
  {timers : List (Timer Duty)}

theorem SendsAt.settle (sends : SendsAt links number dependent sent) (site : Site) :
    SendsAt (settle links site).1 number dependent sent := by
  induction links generalizing number site with
  | nil =>
    obtain ⟨link, found, -⟩ := sends
    cases found
  | cons first links ih =>
    cases number with
    | zero =>
      obtain ⟨link, found, sends⟩ := sends
      cases found
      exact ⟨_, rfl, sends.settle site⟩
    | succ number => exact ih sends _

theorem SendsAt.poll (sends : SendsAt links number dependent sent) :
    SendsAt (links.modify number Link.poll) number dependent (sent ++ dependent.poll) := by
  obtain ⟨link, found, sends⟩ := sends
  exact ⟨link.poll, by rw [List.getElem?_modify_eq, found]; rfl, sends.poll⟩

theorem SendsAt.perform_other (sends : SendsAt links number dependent sent) (managers : List Manager) {duty : Duty}
    (other : duty ≠ .poll number) (site : Site) :
    SendsAt (perform managers duty (links, site)).1 number dependent sent := by
  cases duty with
  | flush manager => exact sends
  | poll link =>
    obtain ⟨known, found, sends⟩ := sends
    have apart : link ≠ number := fun same => other (by rw [same])
    exact ⟨known, (List.getElem?_modify_ne Link.poll links apart).trans found, sends⟩

theorem Ticks.renew_here {timer : Timer Duty} (ticks : Ticks timers number place period due)
    (found : timers[place]? = some timer) :
    Ticks (timers.set place timer.renew) number place period (due + period) := by
  obtain ⟨known, found', duty, rfl, rfl⟩ := ticks.here
  cases found.symm.trans found'
  obtain ⟨inside, -⟩ := List.getElem?_eq_some_iff.mp found
  refine ⟨⟨timer.renew, List.getElem?_set_self inside, duty, rfl, rfl⟩, fun other later found polls => ?_⟩
  by_cases same : place = other
  · exact same.symm
  · exact ticks.alone other later ((List.getElem?_set_ne same).symm.trans found) polls

theorem Ticks.renew_other {other : Nat} {timer : Timer Duty} (ticks : Ticks timers number place period due)
    (found : timers[other]? = some timer) (differs : timer.duty ≠ .poll number) :
    Ticks (timers.set other timer.renew) number place period due := by
  obtain ⟨known, found', duty, same⟩ := ticks.here
  have apart : other ≠ place := by
    rintro rfl
    cases found.symm.trans found'
    exact differs duty
  refine ⟨⟨known, (List.getElem?_set_ne apart).trans found', duty, same⟩, fun another later found' polls => ?_⟩
  by_cases same : other = another
  · subst same
    obtain ⟨inside, -⟩ := List.getElem?_eq_some_iff.mp found
    rw [List.getElem?_set_self inside] at found'
    cases found'
    exact absurd polls differs
  · exact ticks.alone another later ((List.getElem?_set_ne same).symm.trans found') polls

theorem Quiet.renew {other : Nat} {timer : Timer Duty} (quiet : Quiet timers number)
    (found : timers[other]? = some timer) : Quiet (timers.set other timer.renew) number := by
  intro later member
  rcases List.mem_or_eq_of_mem_set member with member | rfl
  · exact quiet later member
  · exact quiet timer (List.mem_of_getElem? found)

theorem SendsAt.perform (sends : SendsAt links number dependent sent) (managers : List Manager) (duty : Duty)
    (site : Site) : ∃ more, SendsAt (perform managers duty (links, site)).1 number dependent (sent ++ more) := by
  by_cases polls : duty = .poll number
  · subst polls
    exact ⟨_, sends.poll⟩
  · exact ⟨[], by simpa using sends.perform_other managers polls site⟩

theorem advance_sends (node : Node) (managers : List Manager) (site : Site) (millis : Nat)
    (sends : SendsAt node.links number dependent sent) :
    ∃ more, SendsAt (node.advance managers site millis).1.links number dependent (sent ++ more) := by
  refine node.advance_preserves managers site millis
    (fun _ state => ∃ more, SendsAt state.1 number dependent (sent ++ more))
    (fun _ state ⟨more, sends⟩ => ⟨more, sends.settle state.2⟩)
    (fun _ state _ timer _ _ ⟨more, sends⟩ => ?_) ⟨[], by simpa using sends⟩
  obtain ⟨later, sends⟩ := sends.perform managers timer.duty state.2
  exact ⟨more ++ later, by rwa [← List.append_assoc]⟩

/-- In a span a link is polled as often as its timer is due, whatever else is due then. -/
theorem advance_ticks (node : Node) (managers : List Manager) (site : Site) (millis : Nat)
    (ticks : Ticks node.timers number place period due) (soon : due ≤ node.clock + period)
    (sends : SendsAt node.links number dependent sent) :
    ∃ count, Ticks (node.advance managers site millis).1.timers number place period (due + count * period) ∧
      SendsAt (node.advance managers site millis).1.links number dependent
        (sent ++ (List.replicate count dependent.poll).flatten) ∧
      node.clock + millis < due + count * period ∧ due + count * period ≤ node.clock + millis + period := by
  obtain ⟨count, after, sends', within⟩ := node.advance_preserves managers site millis
    (fun timers state => ∃ count, Ticks timers number place period (due + count * period) ∧
      SendsAt state.1 number dependent (sent ++ (List.replicate count dependent.poll).flatten) ∧
      due + count * period ≤ node.clock + millis + period)
    (fun _ state ⟨count, ticks, sends, within⟩ => ⟨count, ticks, sends.settle state.2, within⟩)
    (by
      rintro timers state other timer found reached ⟨count, ticks, sends, within⟩
      by_cases polls : timer.duty = .poll number
      · obtain rfl := ticks.alone other timer found polls
        have next := ticks.renew_here found
        obtain ⟨known, found', -, -, due'⟩ := ticks.here
        cases found.symm.trans found'
        refine ⟨count + 1, by rwa [Nat.succ_mul, ← Nat.add_assoc], ?_, by rw [Nat.succ_mul]; omega⟩
        rw [polls, List.replicate_succ', List.flatten_append, List.flatten_singleton, ← List.append_assoc]
        exact sends.poll
      · exact ⟨count, ticks.renew_other found polls, sends.perform_other managers polls _, within⟩)
    ⟨0, by simpa using ticks, by simpa using sends, by omega⟩
  obtain ⟨timer, found, -, -, due'⟩ := after.here
  have left := node.advance_leaves managers site millis timer (List.mem_of_getElem? found)
  exact ⟨count, after, sends', by omega, within⟩

theorem advance_quiet (node : Node) (managers : List Manager) (site : Site) (millis : Nat)
    (quiet : Quiet node.timers number) (sends : SendsAt node.links number dependent sent) :
    Quiet (node.advance managers site millis).1.timers number ∧
      SendsAt (node.advance managers site millis).1.links number dependent sent := by
  refine node.advance_preserves managers site millis
    (fun timers state => Quiet timers number ∧ SendsAt state.1 number dependent sent)
    (fun _ state ⟨quiet, sends⟩ => ⟨quiet, sends.settle state.2⟩)
    (fun timers state _ timer found _ ⟨quiet, sends⟩ => ?_) ⟨quiet, sends⟩
  have other := quiet timer (List.mem_of_getElem? found)
  exact ⟨quiet.renew found, sends.perform_other managers other state.2⟩

theorem Ticks.append {more : List (Timer Duty)} (ticks : Ticks timers number place period due)
    (quiet : Quiet more number) : Ticks (timers ++ more) number place period due := by
  obtain ⟨timer, found, same⟩ := ticks.here
  obtain ⟨inside, -⟩ := List.getElem?_eq_some_iff.mp found
  refine ⟨⟨timer, (List.getElem?_append_left inside).trans found, same⟩, fun other timer found' polls => ?_⟩
  rcases Nat.lt_or_ge other timers.length with known | late
  · exact ticks.alone other timer ((List.getElem?_append_left known).symm.trans found') polls
  · rw [List.getElem?_append_right late] at found'
    exact absurd polls (quiet timer (List.mem_of_getElem? found'))

theorem ticks_append (quiet : Quiet timers number) (timer : Timer Duty) (polls : timer.duty = .poll number) :
    Ticks (timers ++ [timer]) number timers.length timer.period timer.due := by
  refine ⟨⟨timer, List.getElem?_concat_length, polls, rfl, rfl⟩, fun other known found polls => ?_⟩
  rcases Nat.lt_or_ge other timers.length with inside | late
  · rw [List.getElem?_append_left inside] at found
    exact absurd polls (quiet known (List.mem_of_getElem? found))
  · obtain ⟨inside, -⟩ := List.getElem?_eq_some_iff.mp found
    rw [List.length_append, List.length_singleton] at inside
    omega

def IsLinked (node : Node) : Prop := ∀ link, .poll link ∈ node.timers.map Timer.duty → link < node.links.length

theorem length_settle (links : List Link) (site : Site) : (settle links site).1.length = links.length := by
  induction links generalizing site with
  | nil => rfl
  | cons link links ih => exact congrArg (· + 1) (ih _)

theorem length_advance (node : Node) (managers : List Manager) (site : Site) (millis : Nat) :
    (node.advance managers site millis).1.links.length = node.links.length := by
  refine node.advance_preserves managers site millis (fun _ state => state.1.length = node.links.length)
    (fun _ state same => (length_settle state.1 state.2).trans same) (fun _ state _ timer _ _ same => ?_) rfl
  cases timer.duty with
  | flush manager => exact same
  | poll link => exact (List.length_modify ..).trans same

theorem IsLinked.schedule {node : Node} (linked : node.IsLinked) (duty : Duty) (period : Nat)
    (present : ∀ link, duty = .poll link → link < node.links.length) : (node.schedule duty period).IsLinked := by
  intro link set
  rw [Node.schedule, List.map_append, List.mem_append] at set
  rcases set with set | set
  · exact linked link set
  · obtain ⟨timer, member, duty'⟩ := List.mem_map.mp set
    exact present link ((Timer.duty_of_set (Option.mem_toList.mp member)).symm.trans duty')

end Node

namespace Service

theorem isLinked_meet {service : Service} (linked : service.node.IsLinked) (incident : Incident) :
    (service.meet incident).node.IsLinked := by
  cases incident with
  | pass millis =>
    intro link set
    rw [Service.meet] at set ⊢
    rw [(service.node.advance_keeps service.managers service.site millis).1] at set
    rw [Node.length_advance]
    exact linked link set
  | errand errand => exact linked
  | request number request =>
    rw [Service.meet]
    split <;> exact linked
  | manage manager => exact linked
  | flushEvery manager period => exact linked.schedule _ period fun _ same => by cases same
  | connect hub period =>
    refine Node.IsLinked.schedule (fun link set => ?_) _ period ?_
    · exact Nat.lt_of_lt_of_le (linked link set) (by simp)
    · rintro link ⟨⟩
      simp
  | link number change =>
    intro link set
    rw [Service.meet, List.length_modify]
    exact linked link set

theorem isLinked_run {service : Service} (linked : service.node.IsLinked) (incidents : List Incident) :
    (service.run incidents).node.IsLinked := by
  induction incidents generalizing service with
  | nil => exact linked
  | cons incident later ih => exact ih (isLinked_meet linked incident)

/-- What may happen at a dependent and around it. -/
inductive Moment where
  | meet (incident : Replication.Incident)
  | pass (millis : Nat)
  | aside (incident : Incident)

/-- What happens aside is no time that passes, and nothing at the link of a number. -/
def Moment.IsApart (number : Nat) : Moment → Prop
  | .aside (.pass _) => False
  | .aside (.link other _) => other ≠ number
  | _ => True

def meetAt (service : Service) (number : Nat) : Moment → Service
  | .meet incident => service.meet (.link number (·.meet incident))
  | .pass millis => service.meet (.pass millis)
  | .aside incident => service.meet incident

def attend (service : Service) (number : Nat) : List Moment → Service
  | [] => service
  | moment :: later => (service.meetAt number moment).attend number later

def shutDown (service : Service) : Service :=
  match service.node.shutdown service.managers service.site with
  | (node, site) => { service with node, site }

def upward (service : Service) (number : Nat) : List Frame :=
  ((service.node.links[number]?).map (·.upward)).getD []

/-- The frames that are sent while time passes, in order. -/
def polled (service : Service) (number : Nat) : List Moment → List Frame
  | [] => []
  | moment :: later =>
    let next := service.meetAt number moment
    let sent := match moment with
      | .pass _ => (next.upward number).drop (service.upward number).length
      | .meet _ | .aside _ => []
    sent ++ next.polled number later

def elapsed : List Moment → Nat
  | [] => 0
  | .pass millis :: later => millis + elapsed later
  | .meet _ :: later | .aside _ :: later => elapsed later

/-- What happens at a dependent before a time has come. -/
def before (time : Nat) : Nat → List Moment → List Replication.Incident
  | _, [] => []
  | clock, .meet incident :: later => incident :: before time clock later
  | clock, .pass millis :: later => if time ≤ clock + millis then [] else before time (clock + millis) later
  | clock, .aside _ :: later => before time clock later

variable {service : Service} {number period origin past : Nat} {dependent : Dependent} {sent : List Frame}

theorem upward_of_sendsAt (sends : Node.SendsAt service.node.links number dependent sent) :
    service.upward number = sent := by
  obtain ⟨link, found, sends⟩ := sends
  rw [upward, found]
  exact sends.upward

theorem sendsAt_meet (sends : Node.SendsAt service.node.links number dependent sent)
    (incident : Replication.Incident) :
    ∃ more, Node.SendsAt (service.meetAt number (.meet incident)).node.links number (dependent.meet incident).1
      (sent ++ more) := by
  obtain ⟨link, found, sends⟩ := sends
  obtain ⟨more, sends⟩ := sends.meet incident
  exact ⟨more, link.meet incident, by rw [meetAt, meet, List.getElem?_modify_eq, found]; rfl, sends⟩

theorem aside_keeps {incident : Incident} (apart : (Moment.aside incident).IsApart number)
    (sends : Node.SendsAt service.node.links number dependent sent) :
    Node.SendsAt (service.meet incident).node.links number dependent sent ∧
      (service.meet incident).node.clock = service.node.clock ∧
      ∃ more, (service.meet incident).node.timers = service.node.timers ++ more ∧ Node.Quiet more number := by
  have unchanged : ∃ more, service.node.timers = service.node.timers ++ more ∧ Node.Quiet more number :=
    ⟨[], (List.append_nil _).symm, fun _ set => absurd set List.not_mem_nil⟩
  cases incident with
  | pass millis => exact apart.elim
  | errand errand => exact ⟨sends, rfl, unchanged⟩
  | request asked request =>
    rw [Service.meet]
    split <;> exact ⟨sends, rfl, unchanged⟩
  | manage manager => exact ⟨sends, rfl, unchanged⟩
  | flushEvery manager period =>
    refine ⟨sends, rfl, _, rfl, fun timer set => ?_⟩
    simp [Timer.duty_of_set (Option.mem_toList.mp set)]
  | connect hub period =>
    obtain ⟨link, found, sends⟩ := sends
    obtain ⟨inside, -⟩ := List.getElem?_eq_some_iff.mp found
    refine ⟨⟨link, (List.getElem?_append_left inside).trans found, sends⟩, rfl, _, rfl, fun timer set => ?_⟩
    rw [Timer.duty_of_set (Option.mem_toList.mp set)]
    rintro ⟨⟩
    exact absurd inside (Nat.lt_irrefl _)
  | link other change =>
    obtain ⟨link, found, sends⟩ := sends
    exact ⟨⟨link, (List.getElem?_modify_ne change _ apart).trans found, sends⟩, rfl, unchanged⟩

/-- A dependent without a hub is polled every period since an origin, of which a span has passed. -/
structure Polls (service : Service) (number period origin past : Nat) (dependent : Dependent) (sent : List Frame) :
    Prop where
  clock : service.node.clock = origin + past
  sends : Node.SendsAt service.node.links number dependent sent
  ticks : ∃ place, Node.Ticks service.node.timers number place period (origin + (past / period + 1) * period)

structure Rests (service : Service) (number : Nat) (dependent : Dependent) (sent : List Frame) : Prop where
  sends : Node.SendsAt service.node.links number dependent sent
  quiet : Node.Quiet service.node.timers number

theorem Polls.meet (polls : service.Polls number period origin past dependent sent)
    (incident : Replication.Incident) :
    ∃ more, (service.meetAt number (.meet incident)).Polls number period origin past (dependent.meet incident).1
      (sent ++ more) := by
  obtain ⟨more, sends⟩ := sendsAt_meet polls.sends incident
  exact ⟨more, polls.clock, sends, polls.ticks⟩

theorem Polls.aside (polls : service.Polls number period origin past dependent sent) {incident : Incident}
    (apart : (Moment.aside incident).IsApart number) :
    (service.meetAt number (.aside incident)).Polls number period origin past dependent sent := by
  obtain ⟨sends, clock, more, timers, quiet⟩ := aside_keeps apart polls.sends
  obtain ⟨place, ticks⟩ := polls.ticks
  refine ⟨clock.trans polls.clock, sends, place, ?_⟩
  rw [meetAt, timers]
  exact ticks.append quiet

/-- In a span a dependent is polled once for each whole number of periods that it brings. -/
theorem Polls.pass (polls : service.Polls number period origin past dependent sent) (positive : 0 < period)
    (millis : Nat) :
    (service.meetAt number (.pass millis)).Polls number period origin (past + millis) dependent
      (sent ++ (List.replicate ((past + millis) / period - past / period) dependent.poll).flatten) := by
  obtain ⟨place, ticks⟩ := polls.ticks
  have clock := polls.clock
  have whole := Nat.div_add_mod past period
  have rest := Nat.mod_lt past positive
  rw [Nat.mul_comm] at whole
  have soon : origin + (past / period + 1) * period ≤ service.node.clock + period := by
    rw [Nat.succ_mul]
    omega
  obtain ⟨count, ticks, sends, late, within⟩ :=
    service.node.advance_ticks service.managers service.site millis ticks soon polls.sends
  have due : origin + (past / period + 1) * period + count * period =
      origin + (past / period + count + 1) * period := by
    rw [Nat.add_assoc, ← Nat.add_mul, Nat.add_right_comm]
  rw [due] at ticks late within
  have rounds : (past + millis) / period = past / period + count := by
    rw [Nat.div_eq_iff positive]
    rw [Nat.succ_mul] at late within
    omega
  refine ⟨by rw [← Nat.add_assoc, ← clock]; rfl, ?_, place, by rwa [rounds]⟩
  rwa [rounds, Nat.add_sub_cancel_left]

theorem Polls.polled_eq (polls : service.Polls number period origin past dependent sent) (positive : 0 < period)
    (moments : List Moment) (apart : ∀ moment ∈ moments, moment.IsApart number) :
    service.polled number moments =
      (List.range' (past / period + 1) ((past + elapsed moments) / period - past / period)).flatMap fun round =>
        (dependent.after (before (round * period) past moments)).poll := by
  induction moments generalizing service past dependent sent with
  | nil => simp [polled, elapsed]
  | cons moment later ih =>
    obtain ⟨here, behind⟩ := List.forall_mem_cons.mp apart
    cases moment with
    | meet incident =>
      obtain ⟨more, polls⟩ := polls.meet incident
      exact ih polls behind
    | aside incident => exact ih (polls.aside here) behind
    | pass millis =>
      have passed := polls.pass positive millis
      have order : past / period ≤ (past + millis) / period := Nat.div_le_div_right (Nat.le_add_right ..)
      have order' : (past + millis) / period ≤ (past + millis + elapsed later) / period :=
        Nat.div_le_div_right (Nat.le_add_right ..)
      rw [polled]
      rw [upward_of_sendsAt passed.sends, upward_of_sendsAt polls.sends, List.drop_left, ih passed behind, elapsed,
        ← Nat.add_assoc]
      -- The rounds of this span come first, and nothing happens before them.
      have split : (past + millis + elapsed later) / period - past / period =
          ((past + millis) / period - past / period) +
            ((past + millis + elapsed later) / period - (past + millis) / period) := by
        omega
      have next : past / period + 1 + ((past + millis) / period - past / period) = (past + millis) / period + 1 := by
        omega
      rw [split, ← List.range'_append_1, next, List.flatMap_append]
      congr 1
      · refine congrArg List.flatten (List.eq_replicate_iff.mpr ⟨by simp, fun frames polled => ?_⟩).symm
        obtain ⟨round, member, rfl⟩ := List.mem_map.mp polled
        rw [List.mem_range'_1] at member
        have reached := Nat.mul_le_of_le_div period round (past + millis) (by omega)
        rw [before, if_pos reached]
        rfl
      · refine congrArg List.flatten (List.map_congr_left fun round member => ?_)
        rw [List.mem_range'_1] at member
        have early := Nat.lt_mul_of_div_lt (show (past + millis) / period < round by omega) positive
        rw [before, if_neg (Nat.not_le.mpr early)]

theorem Rests.polled_eq (rests : service.Rests number dependent sent) (moments : List Moment)
    (apart : ∀ moment ∈ moments, moment.IsApart number) : service.polled number moments = [] := by
  induction moments generalizing service dependent sent with
  | nil => rfl
  | cons moment later ih =>
    obtain ⟨here, behind⟩ := List.forall_mem_cons.mp apart
    cases moment with
    | meet incident =>
      obtain ⟨more, sends⟩ := sendsAt_meet rests.sends incident
      exact ih ⟨sends, rests.quiet⟩ behind
    | aside incident =>
      obtain ⟨sends, -, more, timers, quiet⟩ := aside_keeps here rests.sends
      refine ih ⟨sends, ?_⟩ behind
      rw [meetAt, timers]
      exact fun timer member => (List.mem_append.mp member).elim (rests.quiet timer) (quiet timer)
    | pass millis =>
      obtain ⟨quiet, sends⟩ := service.node.advance_quiet service.managers service.site millis rests.quiet rests.sends
      have passed : (service.meetAt number (.pass millis)).Rests number dependent sent := ⟨sends, quiet⟩
      rw [polled]
      rw [upward_of_sendsAt passed.sends, upward_of_sendsAt rests.sends, List.drop_length, ih passed behind]
      rfl

theorem sendsAt_attend (sends : Node.SendsAt service.node.links number dependent sent) (moments : List Moment)
    (apart : ∀ moment ∈ moments, moment.IsApart number) :
    ∃ reached more, Node.SendsAt (service.attend number moments).node.links number reached (sent ++ more) := by
  induction moments generalizing service dependent sent with
  | nil => exact ⟨dependent, [], by rwa [List.append_nil]⟩
  | cons moment later ih =>
    obtain ⟨here, behind⟩ := List.forall_mem_cons.mp apart
    have next : ∃ met more,
        Node.SendsAt (service.meetAt number moment).node.links number met (sent ++ more) := by
      cases moment with
      | meet incident => exact ⟨_, sendsAt_meet sends incident⟩
      | pass millis => exact ⟨dependent, service.node.advance_sends service.managers service.site millis sends⟩
      | aside incident => exact ⟨dependent, [], by rw [List.append_nil]; exact (aside_keeps here sends).1⟩
    obtain ⟨met, more, sends⟩ := next
    obtain ⟨reached, rest, sends⟩ := ih sends behind
    exact ⟨reached, more ++ rest, by rwa [← List.append_assoc]⟩

theorem attend_append (service : Service) (number : Nat) (first later : List Moment) :
    service.attend number (first ++ later) = (service.attend number first).attend number later := by
  induction first generalizing service with
  | nil => rfl
  | cons moment first ih => exact ih _

theorem rests_shutDown (sends : Node.SendsAt service.node.links number dependent sent) :
    service.shutDown.Rests number dependent sent := by
  obtain ⟨link, found, sends⟩ := sends
  refine ⟨⟨link.stop, ?_, sends.stop⟩, nofun⟩
  show (service.node.links.map Link.stop)[number]? = _
  rw [List.getElem?_map, found]
  rfl

theorem attend_pass_pass (service : Service) (number first last : Nat) :
    service.attend number [.pass first, .pass last] = service.attend number [.pass (first + last)] := by
  exact congrArg (fun ended : Node × Site => { service with node := ended.1, site := ended.2 })
    (service.node.advance_advance service.managers service.site first last)

theorem sendsAt_connect (service : Service) (period : Nat) :
    Node.SendsAt (service.meet (.connect none period)).node.links service.node.links.length .empty [] :=
  ⟨.opened none, List.getElem?_concat_length, rfl, ⟨rfl, fun _ => Iff.rfl⟩, rfl⟩

theorem quiet_of_isLinked (linked : service.node.IsLinked) :
    Node.Quiet service.node.timers service.node.links.length :=
  fun _ member polls => Nat.lt_irrefl _ (linked _ (polls ▸ List.mem_map_of_mem member))

theorem polls_connect (linked : service.node.IsLinked) (positive : 0 < period)
    (timely : (service.node.clock + period) / 1000 < lastTimerSecond) :
    (service.meet (.connect none period)).Polls service.node.links.length period service.node.clock 0 .empty [] := by
  refine ⟨rfl, service.sendsAt_connect period, service.node.timers.length, ?_⟩
  rw [Nat.zero_div, Nat.zero_add, Nat.one_mul]
  show Node.Ticks (service.node.timers ++ (Timer.set? (Duty.poll _) period service.node.clock).toList) _ _ _ _
  rw [Timer.set?_of_timely _ positive timely]
  exact Node.ticks_append (quiet_of_isLinked linked) _ rfl

theorem rests_connect (linked : service.node.IsLinked)
    (untimely : ¬ (service.node.clock + period) / 1000 < lastTimerSecond) :
    (service.meet (.connect none period)).Rests service.node.links.length .empty [] := by
  refine ⟨service.sendsAt_connect period, ?_⟩
  show Node.Quiet (service.node.timers ++ (Timer.set? (Duty.poll _) period service.node.clock).toList) _
  rw [Timer.set?_of_untimely _ untimely, Option.toList_none, List.append_nil]
  exact quiet_of_isLinked linked

/--
A dependent is connected to no hub, so that all it sends piles up, and is polled every period. Whatever happens at it
and around it then, for each whole number of periods that has passed it is asked once, by then and in order, for each
player who is tracked at that time and for no one else. How the time that passes is told apart makes no difference, and
nothing is asked for any more once the node is shut down.
-/
theorem polls_every_period (managers : List Manager) (site : Site) (earlier : List Incident) (period : Nat)
    (positive : 0 < period) (moments : List Moment) :
    let service := (⟨.empty, managers, site⟩ : Service).run earlier
    let number := service.node.links.length
    let opened := service.meet (.connect none period)
    let reached := opened.attend number moments
    (∀ moment ∈ moments, moment.IsApart number) →
    (service.node.clock + min period (elapsed moments)) / 1000 < lastTimerSecond →
    (∃ rounds : Nat → List PlayerId,
      (∀ round, (rounds round).Nodup ∧ ∀ id, id ∈ rounds round ↔
        .hangUp ∉ before (round * period) 0 moments ∧ IsThere id (before (round * period) 0 moments)) ∧
      opened.polled number moments = (List.range' 1 (elapsed moments / period)).flatMap fun round =>
        (rounds round).map fun id => Message.encode ⟨id, .get⟩) ∧
    (∀ done later, moments = done ++ later →
      (opened.attend number done).upward number <+: reached.upward number) ∧
    (∀ first last, reached.attend number [.pass first, .pass last] = reached.attend number [.pass (first + last)]) ∧
    ∀ later, (∀ moment ∈ later, moment.IsApart number) → reached.shutDown.polled number later = [] := by
  intro service number opened reached apart timely
  have linked : service.node.IsLinked := isLinked_run (fun _ set => absurd set List.not_mem_nil) earlier
  have sends := service.sendsAt_connect period
  refine ⟨?_, ?_, reached.attend_pass_pass number, fun later apart' => ?_⟩
  · choose rounds asked poll using fun round => Dependent.exists_asked (before (round * period) 0 moments)
    refine ⟨rounds, asked, ?_⟩
    simp only [← poll]
    by_cases set : (service.node.clock + period) / 1000 < lastTimerSecond
    · simpa using (polls_connect linked positive set).polled_eq positive moments apart
    · -- No timer can be set for the period, which then is not over either.
      have short : elapsed moments / period = 0 := Nat.div_eq_of_lt (by omega)
      rw [(rests_connect linked set).polled_eq moments apart, short]
      rfl
  · rintro done later rfl
    obtain ⟨_, _, first⟩ := sendsAt_attend sends done fun moment member => apart moment (List.mem_append_left _ member)
    obtain ⟨_, more, last⟩ := sendsAt_attend first later fun moment member =>
      apart moment (List.mem_append_right _ member)
    rw [← attend_append] at last
    rw [upward_of_sendsAt first, upward_of_sendsAt last]
    exact List.prefix_append _ more
  · obtain ⟨_, _, sends⟩ := sendsAt_attend sends moments apart
    exact (rests_shutDown sends).polled_eq later apart'

/-- Players come and go between the rounds; the last round finds no one, and after the end there is none. -/
theorem polls_every_period_past_leaves :
    let manager : Manager := .configured ⟨.file, "data", "ot_", .sqlite, .memory, "lobby", "world"⟩
    let early : PlayerId := ⟨7⟩
    let late : PlayerId := ⟨8⟩
    let earlier : List Incident := [.connect none 40, .pass 30]
    let moments : List Moment := [.meet (.join early), .pass 99, .aside (.link 0 (·.join late)),
      .aside (.flushEvery 0 50), .pass 1, .meet (.leave early), .meet (.join late),
      .meet (.arrive (Message.encode ⟨late, .send 5⟩)), .pass 150, .meet (.leave late), .pass 60]
    let service := (⟨.empty, [manager], ⟨⟨.empty, [], 0⟩, []⟩⟩ : Service).run earlier
    let opened := service.meet (.connect none 100)
    opened.polled 1 moments = [Message.encode ⟨early, .get⟩, Message.encode ⟨late, .get⟩] ∧
      (opened.attend 1 moments).shutDown.polled 1 [.meet (.join late), .pass 1000] = [] := by
  intro manager early late earlier moments service opened
  have number : service.node.links.length = 1 := Node.length_advance ..
  obtain ⟨⟨rounds, asked, polled⟩, -, -, silent⟩ := polls_every_period [manager] ⟨⟨.empty, [], 0⟩, []⟩ earlier 100
    (by decide) moments (by rw [number]; simp [moments, Moment.IsApart]) (by decide)
  have names (round : Nat) (ids : List PlayerId) (once : ids.Nodup) (there : ∀ id, id ∈ ids ↔
      .hangUp ∉ before (round * 100) 0 moments ∧ IsThere id (before (round * 100) 0 moments)) :
      (rounds round).Perm ids :=
    (List.perm_ext_iff_of_nodup (asked round).1 once).mpr fun id => ((asked round).2 id).trans (there id).symm
  have first : rounds 1 = [early] := List.perm_singleton.mp (names 1 [early] (List.nodup_singleton _) fun id => by
    simp [moments, before, IsThere, lasts_cons, not_lasts_nil, eq_comm])
  have second : rounds 2 = [late] := List.perm_singleton.mp (names 2 [late] (List.nodup_singleton _) fun id => by
    simp [moments, before, IsThere, lasts_cons, not_lasts_nil, eq_comm])
  have third : rounds 3 = [] := List.perm_nil.mp (names 3 [] List.nodup_nil fun id => by
    simpa [moments, before, IsThere, lasts_cons, not_lasts_nil, eq_comm] using fun here gone => absurd here gone)
  constructor
  · rw [← number]
    refine polled.trans ?_
    rw [show List.range' 1 (elapsed moments / 100) = [1, 2, 3] by decide]
    simp [first, second, third]
  · rw [← number]
    exact silent [.meet (.join late), .pass 1000] (by simp [Moment.IsApart])

end Service

end Playtime
