import Playtime.Proofs.Replication.Answers

namespace Playtime.Replication

variable {σ : Type} [Ledger σ]

@[simp] theorem messages_nil : messages [] = [] := rfl

@[simp] theorem messages_append (first second : List Frame) :
    messages (first ++ second) = messages first ++ messages second := List.filterMap_append

theorem messages_of_message (frame : Frame) (rest : List Frame) (message : Message)
    (read : Message.decode frame = .ok message) : messages (frame :: rest) = message :: messages rest := by
  simp [messages, read, Except.toOption]

theorem messages_of_fault (frame : Frame) (rest : List Frame) (fault : FrameFault)
    (read : Message.decode frame = .error fault) : messages (frame :: rest) = messages rest := by
  simp [messages, read, Except.toOption]

@[simp] theorem messages_encode (sent : List Message) : messages (sent.map Message.encode) = sent := by
  induction sent with
  | nil => rfl
  | cons message sent ih =>
    rw [List.map_cons, messages_of_message _ _ message (Message.decode_encode message), ih]

def replies (outcome : Except StorageError (Option Message)) : List Frame :=
  match outcome with
  | .ok reply => reply.toList.map Message.encode
  | .error _ => []

theorem serve_message (hub : Sessions × σ) (now : Int64) (frame : Frame) (message : Message)
    (read : Message.decode frame = .ok message) :
    Hub.serve hub.1 hub.2 now [frame] =
      (replies (Hub.answer hub.1 hub.2 now message).1, (Hub.answer hub.1 hub.2 now message).2) := by
  unfold Hub.serve Hub.serve Hub.handle
  rw [read]
  cases outcome : Hub.answer hub.1 hub.2 now message with
  | mk reply after => cases reply <;> simp [replies, Except.toOption, outcome]

theorem serve_fault (hub : Sessions × σ) (now : Int64) (frame : Frame) (fault : FrameFault)
    (read : Message.decode frame = .error fault) : Hub.serve hub.1 hub.2 now [frame] = ([], hub) := by
  unfold Hub.serve Hub.serve Hub.handle
  rw [read]
  simp [Except.toOption]

theorem receive_message (dependent : Dependent) (frame : Frame) (message : Message)
    (read : Message.decode frame = .ok message) : dependent.receive [frame] = dependent.apply message := by
  simp [Dependent.receive, Dependent.handle, read, Except.map, Except.toOption]

theorem receive_fault (dependent : Dependent) (frame : Frame) (fault : FrameFault)
    (read : Message.decode frame = .error fault) : dependent.receive [frame] = dependent := by
  simp [Dependent.receive, Dependent.handle, read, Except.map, Except.toOption]

namespace Link

theorem turn_cases (link : Link) (number : Nat) (hub : Sessions × σ) (turn : Turn) :
    ((link.turn hub turn).2 = hub ∧ link.deed? number hub turn = none) ∨
    ∃ now frame rest message, turn = .ask now ∧ link.upward = frame :: rest ∧
      Message.decode frame = .ok message ∧ link.deed? number hub turn = some (deedOf number hub now message) ∧
      link.turn hub turn = ({ link with
        upward := rest
        downward := link.downward ++ replies (Hub.answer hub.1 hub.2 now message).1 },
        (Hub.answer hub.1 hub.2 now message).2) := by
  cases turn with
  | ask now =>
    cases waiting : link.upward with
    | nil => simp [turn, ask, deed?, waiting]
    | cons frame rest =>
      cases read : Message.decode frame with
      | error fault => simp [turn, ask, deed?, waiting, read, serve_fault hub now frame fault read]
      | ok message =>
        right
        refine ⟨now, frame, rest, message, rfl, rfl, read, ?_, ?_⟩
        · simp [deed?, waiting, read]
        · simp [turn, ask, waiting, serve_message hub now frame message read]
  | join id => exact .inl ⟨rfl, rfl⟩
  | leave id => exact .inl ⟨rfl, rfl⟩
  | add id delta => exact .inl ⟨rfl, rfl⟩
  | poll => exact .inl ⟨rfl, rfl⟩
  | tell => exact .inl ⟨rfl, rfl⟩

@[simp] theorem messages_forward (dependent : Dependent) (sent : List Message)
    (heard : dependent.isHeard = true) : messages (dependent.forward sent) = sent := by
  simp [Dependent.forward, heard]

theorem isHeard_receive (dependent : Dependent) (frame : Frame) :
    (dependent.receive [frame]).isHeard = dependent.isHeard := by
  cases read : Message.decode frame with
  | error fault => rw [receive_fault dependent frame fault read]
  | ok message =>
    rw [receive_message dependent frame message read]
    unfold Dependent.apply
    split <;> rfl

theorem isHeard_turn (link : Link) (hub : Sessions × σ) (turn : Turn) :
    (link.turn hub turn).1.dependent.isHeard = link.dependent.isHeard := by
  cases turn with
  | tell =>
    show link.tell.dependent.isHeard = _
    unfold tell
    split
    · rfl
    · exact isHeard_receive link.dependent _
  | ask now =>
    show (link.ask hub now).1.dependent.isHeard = _
    unfold ask
    split <;> rfl
  | join id => rfl
  | leave id => rfl
  | add id delta => rfl
  | poll => rfl

/-- The hub acts on what the dependent sends in order, and on nothing else. -/
theorem messages_turn (link : Link) (number : Nat) (hub : Sessions × σ) (turn : Turn)
    (heard : link.dependent.isHeard = true) :
    messages link.upward ++ turn.sends link.dependent =
      (link.deed? number hub turn).toList.map Deed.message ++ messages (link.turn hub turn).1.upward := by
  cases turn with
  | join id => simp [turn, join, send, deed?, Turn.sends, Dependent.join, heard]
  | leave id => simp [turn, leave, deed?, Turn.sends]
  | add id delta => simp [turn, add, send, deed?, Turn.sends, Dependent.add, heard]
  | poll => simp [turn, poll, send, deed?, Turn.sends, Dependent.poll, heard]
  | tell =>
    unfold turn tell
    cases waiting : link.downward <;> simp [deed?, Turn.sends]
  | ask now =>
    cases waiting : link.upward with
    | nil => simp [turn, ask, deed?, Turn.sends, waiting]
    | cons frame rest =>
      cases read : Message.decode frame with
      | error fault => simp [turn, ask, deed?, Turn.sends, waiting, read, messages_of_fault frame rest fault read]
      | ok message =>
        simp [turn, ask, deed?, Turn.sends, waiting, read, messages_of_message frame rest message read, deedOf]

end Link

end Playtime.Replication
