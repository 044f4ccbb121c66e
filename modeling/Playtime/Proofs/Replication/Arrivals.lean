import Playtime.Proofs.Replication.Runs
import Playtime.Proofs.Replication.Tendency

namespace Playtime.Replication

variable {σ : Type} [Ledger σ]

/-- A total that reaches a dependent. -/
structure Arrival where
  total : Int64
  taken : Bool
deriving DecidableEq, Repr

namespace Link

def answer? (link : Link) (hub : Sessions × σ) (id : PlayerId) : Turn → Option Int64
  | .ask now =>
    match link.upward with
    | [] => none
    | frame :: _ =>
      match Message.decode frame with
      | .error _ => none
      | .ok message => if message = ⟨id, .get⟩ then (hub.1.seconds hub.2 id now).toOption else none
  | _ => none

def arrival? (link : Link) (id : PlayerId) : Turn → Option Arrival
  | .tell =>
    match link.downward with
    | [] => none
    | frame :: _ =>
      match Message.decode frame with
      | .error _ => none
      | .ok message => (message.total? id).map fun total => ⟨total, link.dependent.tracked.contains id⟩
  | _ => none

theorem answer?_eq_some {link : Link} {hub : Sessions × σ} {id : PlayerId} {turn : Turn} {total : Int64}
    (answered : link.answer? hub id turn = some total) :
    ∃ now frame rest, turn = .ask now ∧ link.upward = frame :: rest ∧ Message.decode frame = .ok ⟨id, .get⟩ ∧
      hub.1.seconds hub.2 id now = .ok total := by
  unfold answer? at answered
  split at answered
  · next now =>
    split at answered
    · cases answered
    · next frame rest waiting =>
      split at answered
      · cases answered
      · next message read =>
        split at answered
        · next question =>
          cases told : hub.1.seconds hub.2 id now with
          | error error => simp [told, Except.toOption] at answered
          | ok seconds =>
            have same : seconds = total := by simpa [told, Except.toOption] using answered
            exact ⟨now, frame, rest, rfl, waiting, question ▸ read, same ▸ told⟩
        · cases answered
  · cases answered

theorem totals_turn (link : Link) (hub : Sessions × σ) (turn : Turn) (id : PlayerId) :
    totalsOf id link.downward ++ (link.answer? hub id turn).toList =
      (link.arrival? id turn).toList.map Arrival.total ++ totalsOf id (link.turn hub turn).1.downward := by
  cases turn with
  | join player => simp [turn, join, send, answer?, arrival?]
  | leave player => simp [turn, leave, answer?, arrival?]
  | add player delta => simp [turn, add, send, answer?, arrival?]
  | poll => simp [turn, poll, send, answer?, arrival?]
  | ask now =>
    cases waiting : link.upward with
    | nil => simp [turn, ask, answer?, arrival?, waiting]
    | cons frame rest =>
      cases read : Message.decode frame with
      | error fault => simp [turn, ask, answer?, arrival?, waiting, read, serve_fault hub now frame fault read]
      | ok message =>
        simp [turn, ask, answer?, arrival?, waiting, read, serve_message hub now frame message read, totalsOf_append,
          totalsOf_replies, apply_ite Option.toList]
  | tell =>
    cases waiting : link.downward with
    | nil => simp [turn, tell, answer?, arrival?, waiting]
    | cons frame rest =>
      cases read : Message.decode frame with
      | error fault =>
        simp [turn, tell, answer?, arrival?, waiting, read, totalsOf, messages_of_fault frame rest fault read]
      | ok message =>
        cases told : message.total? id <;>
          simp [turn, tell, answer?, arrival?, waiting, read, told, totalsOf,
            messages_of_message frame rest message read]

end Link

namespace Network

def answer? (network : Network σ) (number : Nat) (id : PlayerId) : Event → Option Int64
  | .turn other turn =>
    if other = number then network.links[number]?.bind fun link => link.answer? network.hub id turn else none
  | .call _ => none

def arrival? (network : Network σ) (number : Nat) (id : PlayerId) : Event → Option Arrival
  | .turn other turn => if other = number then network.links[number]?.bind fun link => link.arrival? id turn else none
  | .call _ => none

def answers (network : Network σ) (number : Nat) (id : PlayerId) : List Event → List Int64
  | [] => []
  | event :: later => (network.answer? number id event).toList ++ (network.step event).answers number id later

def arrivals (network : Network σ) (number : Nat) (id : PlayerId) : List Event → List Arrival
  | [] => []
  | event :: later => (network.arrival? number id event).toList ++ (network.step event).arrivals number id later

theorem totals_step (network : Network σ) (number : Nat) (id : PlayerId) (event : Event) (before : Link)
    (found : network.links[number]? = some before) :
    ∃ after, (network.step event).links[number]? = some after ∧
      totalsOf id before.downward ++ (network.answer? number id event).toList =
        (network.arrival? number id event).toList.map Arrival.total ++ totalsOf id after.downward := by
  cases event with
  | call call => exact ⟨before, found, by simp [answer?, arrival?]⟩
  | turn other turn =>
    by_cases same : other = number
    · subst same
      refine ⟨_, links_step_same network other before turn found, ?_⟩
      simpa [answer?, arrival?, found] using before.totals_turn network.hub turn id
    · exact ⟨before, (links_step_other network number other turn same).trans found, by simp [answer?, arrival?, same]⟩

/-- No total overtakes another, and none is lost on its way or arrives twice. -/
theorem totals_run (network : Network σ) (number : Nat) (id : PlayerId) (events : List Event) (before : Link)
    (found : network.links[number]? = some before) :
    ∃ after, (network.run events).links[number]? = some after ∧
      totalsOf id before.downward ++ network.answers number id events =
        (network.arrivals number id events).map Arrival.total ++ totalsOf id after.downward := by
  induction events generalizing network before with
  | nil => exact ⟨before, found, by simp [answers, arrivals]⟩
  | cons event later ih =>
    obtain ⟨middle, met, first⟩ := totals_step network number id event before found
    obtain ⟨after, reached, rest⟩ := ih (network.step event) middle met
    refine ⟨after, reached, ?_⟩
    rw [answers, arrivals, ← List.append_assoc, first, List.append_assoc, rest, List.map_append, List.append_assoc]

/-- The hub has read a total of a player when the first frame on its way from this dependent asked for the player. -/
def Answered (network : Network σ) (number : Nat) (id : PlayerId) (total : Int64) (events : List Event) : Prop :=
  ∃ first now second link frame rest, events = first ++ .turn number (.ask now) :: second ∧
    (network.run first).links[number]? = some link ∧ link.upward = frame :: rest ∧
    Message.decode frame = .ok ⟨id, .get⟩ ∧
    (network.run first).hub.1.seconds (network.run first).hub.2 id now = .ok total

theorem answered_of_answer? (network : Network σ) (number : Nat) (id : PlayerId) (total : Int64) (event : Event)
    (later : List Event) (answered : network.answer? number id event = some total) :
    network.Answered number id total (event :: later) := by
  cases event with
  | call call => cases answered
  | turn other turn =>
    by_cases same : other = number
    · subst same
      simp only [answer?, if_true] at answered
      obtain ⟨link, found, asked⟩ := Option.bind_eq_some_iff.mp answered
      obtain ⟨now, frame, rest, rfl, waiting, read, told⟩ := Link.answer?_eq_some asked
      exact ⟨[], now, later, link, frame, rest, rfl, found, waiting, read, told⟩
    · simp [answer?, same] at answered

theorem answered_of_mem (network : Network σ) (number : Nat) (id : PlayerId) (total : Int64) (events : List Event)
    (member : total ∈ network.answers number id events) : network.Answered number id total events := by
  induction events generalizing network with
  | nil => cases member
  | cons event later ih =>
    rcases List.mem_append.mp member with atOnce | afterwards
    · exact network.answered_of_answer? number id total event later (Option.mem_toList.mp atOnce)
    · obtain ⟨first, now, second, link, frame, rest, rfl, answered⟩ := ih (network.step event) afterwards
      exact ⟨event :: first, now, second, link, frame, rest, rfl, answered⟩

end Network

end Playtime.Replication
