import Playtime.Proofs.Replication.Network
import Playtime.Proofs.Sessions.Reading

namespace Playtime.Replication

def Deed.credit (id : PlayerId) (deed : Deed) : Int :=
  match deed.message.command, deed.outcome with
  | .add delta, .ok _ => if deed.message.id = id then delta.toInt else 0
  | _, _ => 0

def credited (id : PlayerId) : List Deed → Int
  | [] => 0
  | deed :: later => deed.credit id + credited id later

variable {σ : Type} [Ledger σ]

theorem pending_answer (hub : Sessions × σ) (now : Int64) (message : Message) :
    (Hub.answer hub.1 hub.2 now message).2.1.pending = hub.1.pending := by
  obtain ⟨id, command⟩ := message
  cases command with
  | get => rfl
  | send seconds => rfl
  | add delta => exact Sessions.pending_add hub.1 hub.2 id delta

theorem closed_answer (hub : Sessions × σ) (now : Int64) (message : Message) (id : PlayerId)
    (closed : hub.1.started[id]? = none) : (Hub.answer hub.1 hub.2 now message).2.1.started[id]? = none := by
  obtain ⟨player, command⟩ := message
  cases command with
  | get => exact closed
  | send seconds => exact closed
  | add delta => exact Sessions.closed_add hub.1 hub.2 player id delta closed

variable [LawfulLedger σ]

theorem ledger_answer {property : σ → Prop} (kept : Sessions.KeptByCredits property) (hub : Sessions × σ)
    (now : Int64) (message : Message) (holds : property hub.2) :
    property (Hub.answer hub.1 hub.2 now message).2.2 := by
  obtain ⟨id, command⟩ := message
  cases command with
  | get => exact holds
  | send seconds => exact holds
  | add delta => exact Sessions.ledger_perform kept hub (.add id delta) holds

theorem saved_answer (number : Nat) (hub : Sessions × σ) (now : Int64) (message : Message) (id : PlayerId)
    (sound : LawfulLedger.Sound hub.2) (closed : hub.1.started[id]? = none) :
    Sessions.saved (Hub.answer hub.1 hub.2 now message).2 id =
      Sessions.saved hub id + (deedOf number hub now message).credit id := by
  have still := closed_answer hub now message id closed
  obtain ⟨sessions, ledger⟩ := hub
  obtain ⟨player, command⟩ := message
  cases command with
  | get => exact (Int.add_zero _).symm
  | send seconds => exact (Int.add_zero _).symm
  | add delta =>
    have worth := Sessions.worth_add sessions ledger player id delta 0 sound
    unfold Deed.credit deedOf
    change (sessions.add ledger player delta).2.1.started[id]? = none at still
    show Sessions.saved (sessions.add ledger player delta).2 id = _
    unfold Sessions.worth Sessions.gain Sessions.perform at worth
    rw [Sessions.accrued_of_none _ _ _ closed, Sessions.accrued_of_none _ _ _ still] at worth
    dsimp only [Hub.answer] at *
    cases outcome : (sessions.add ledger player delta).1 with
    | error error =>
      simp only [outcome, Except.map] at *
      omega
    | ok =>
      simp only [outcome, Except.map] at *
      by_cases same : player = id
      · simp only [same, if_true] at *
        omega
      · simp only [same, if_false] at *
        omega

structure Idle (id : PlayerId) (hub : Sessions × σ) : Prop where
  sound : LawfulLedger.Sound hub.2
  isOpen : LawfulLedger.IsOpen hub.2
  closed : hub.1.started[id]? = none

def Steady (id : PlayerId) (total : Int64) (hub : Sessions × σ) : Prop :=
  ∀ now, hub.1.seconds hub.2 id now = .ok total

variable {id : PlayerId} {total : Int64} {hub : Sessions × σ}

theorem Idle.steady (idle : Idle id hub) (now : Int64) (read : hub.1.seconds hub.2 id now = .ok total) :
    Steady id total hub := by
  intro later
  rw [Sessions.seconds_of_closed hub id later idle.closed, ← Sessions.seconds_of_closed hub id now idle.closed, read]

theorem Idle.answer (idle : Idle id hub) (now : Int64) (message : Message) :
    Idle id (Hub.answer hub.1 hub.2 now message).2 :=
  ⟨ledger_answer Sessions.sound_kept hub now message idle.sound,
    ledger_answer Sessions.isOpen_kept hub now message idle.isOpen,
    closed_answer hub now message id idle.closed⟩

theorem Steady.answer (steady : Steady id total hub) (idle : Idle id hub) (number : Nat) (now : Int64)
    (message : Message) (nothing : (deedOf number hub now message).credit id = 0) :
    Steady id total (Hub.answer hub.1 hub.2 now message).2 := by
  have saved := saved_answer number hub now message id idle.sound idle.closed
  have pending := pending_answer hub now message
  have after := idle.answer now message
  have balance : LawfulLedger.balance (Hub.answer hub.1 hub.2 now message).2.2 id = LawfulLedger.balance hub.2 id := by
    unfold Sessions.saved Sessions.parked at saved
    rw [pending] at saved
    omega
  exact Sessions.seconds_kept hub _ id total idle.closed after.closed after.isOpen pending balance steady

end Playtime.Replication
