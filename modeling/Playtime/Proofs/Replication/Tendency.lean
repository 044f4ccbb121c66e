import Playtime.Proofs.Replication.Turns

namespace Playtime.Replication

variable {σ : Type} [Ledger σ]

def Message.total? (id : PlayerId) (message : Message) : Option Int64 :=
  match message.command with
  | .send seconds => if message.id = id then some seconds else none
  | .get | .add _ => none

def totalsOf (id : PlayerId) (frames : List Frame) : List Int64 := (messages frames).filterMap (Message.total? id)

/-- The dependent of a link ends up with a total of a player, unless it does not track the player or asks again. -/
structure Link.Tends (id : PlayerId) (total : Int64) (link : Link) : Prop where
  heard : link.dependent.isHeard = true
  last : (totalsOf id link.downward).getLast? = some total ∨ totalsOf id link.downward = [] ∧
    (link.dependent.tracked[id]? = none ∨ link.dependent.tracked[id]? = some ⟨total, .known⟩ ∨
      ⟨id, .get⟩ ∈ messages link.upward)

theorem totalsOf_append (id : PlayerId) (first second : List Frame) :
    totalsOf id (first ++ second) = totalsOf id first ++ totalsOf id second := by
  simp [totalsOf]

theorem totalsOf_replies (id : PlayerId) (hub : Sessions × σ) (now : Int64) (message : Message) :
    totalsOf id (replies (Hub.answer hub.1 hub.2 now message).1) =
      if message = ⟨id, .get⟩ then (hub.1.seconds hub.2 id now).toOption.toList else [] := by
  obtain ⟨player, command⟩ := message
  cases command with
  | send seconds => simp [Hub.answer, replies, totalsOf]
  | add delta =>
    have silent : replies (Hub.answer hub.1 hub.2 now ⟨player, .add delta⟩).1 = [] := by
      unfold Hub.answer replies
      dsimp only
      cases (hub.1.add hub.2 player delta).1 <;> rfl
    simp [silent, totalsOf]
  | get =>
    unfold Hub.answer totalsOf
    cases read : hub.1.seconds hub.2 player now with
    | error error =>
      by_cases same : player = id
      · subst same
        simp [read, Except.map, Except.toOption, replies]
      · simp [Except.map, replies, same]
    | ok seconds =>
      simp only [Except.map, replies, messages_encode, Option.toList_some]
      by_cases same : player = id
      · subst same
        simp [read, Except.toOption, Message.total?]
      · simp [Message.total?, same]

namespace Dependent

theorem tracked_join (dependent : Dependent) (player id : PlayerId) :
    (dependent.join player).1.tracked[id]? = dependent.tracked[id]? ∨ player = id := by
  by_cases same : player = id
  · exact .inr same
  · left
    simp [join, Std.ExtTreeMap.getElem?_insertIfNew, same]

theorem tracked_apply (dependent : Dependent) (message : Message) (id : PlayerId) :
    (dependent.apply message).tracked[id]? = match message.total? id with
      | some seconds => dependent.tracked[id]?.map fun _ => ⟨seconds, .known⟩
      | none => dependent.tracked[id]? := by
  obtain ⟨player, command⟩ := message
  unfold apply Message.total?
  cases command with
  | get => rfl
  | add delta => rfl
  | send seconds =>
    by_cases same : player = id
    · subst same
      simp
    · simp [same, Std.ExtTreeMap.getElem?_modify]

end Dependent

namespace Link

variable {id : PlayerId} {total : Int64} {link : Link}

theorem Tends.answered (heard : link.dependent.isHeard = true) (hub : Sessions × σ) (now : Int64)
    (frame : Frame) (rest : List Frame) (waiting : link.upward = frame :: rest)
    (read : Message.decode frame = .ok ⟨id, .get⟩) (told : hub.1.seconds hub.2 id now = .ok total) :
    Tends id total (link.turn hub (.ask now)).1 := by
  refine ⟨(isHeard_turn link hub _).trans heard, .inl ?_⟩
  have reply := totalsOf_replies id hub now ⟨id, .get⟩
  rw [if_pos rfl, told] at reply
  simp [turn, ask, waiting, serve_message hub now frame _ read, totalsOf_append, reply, Except.toOption]

theorem Tends.ask (tends : Tends id total link) (hub : Sessions × σ) (now : Int64)
    (steady : Steady id total hub) : Tends id total (link.turn hub (.ask now)).1 := by
  have heard := (isHeard_turn link hub (.ask now)).trans tends.heard
  have last := tends.last
  cases waiting : link.upward with
  | nil => simpa [turn, Link.ask, waiting] using tends
  | cons frame rest =>
    rw [waiting] at last
    cases read : Message.decode frame with
    | error fault =>
      rw [messages_of_fault frame rest fault read] at last
      refine ⟨heard, ?_⟩
      simpa [turn, Link.ask, waiting, serve_fault hub now frame fault read] using last
    | ok message =>
      have reply := totalsOf_replies id hub now message
      by_cases question : message = ⟨id, .get⟩
      · subst question
        exact Tends.answered tends.heard hub now frame rest waiting read (steady now)
      · rw [if_neg question] at reply
        rw [messages_of_message frame rest message read] at last
        refine ⟨heard, ?_⟩
        simpa [turn, Link.ask, waiting, serve_message hub now frame message read, totalsOf_append, reply,
          Ne.symm question] using last

theorem Tends.tell (tends : Tends id total link) (hub : Sessions × σ) :
    Tends id total (link.turn hub .tell).1 := by
  have heard := (isHeard_turn link hub .tell).trans tends.heard
  have last := tends.last
  cases waiting : link.downward with
  | nil => simpa [turn, Link.tell, waiting] using tends
  | cons frame rest =>
    rw [waiting] at last
    cases read : Message.decode frame with
    | error fault =>
      unfold totalsOf at last
      rw [messages_of_fault frame rest fault read] at last
      refine ⟨heard, ?_⟩
      simpa [turn, Link.tell, waiting, receive_fault _ frame fault read, totalsOf] using last
    | ok message =>
      have moved : link.turn hub .tell =
          ({ link with dependent := link.dependent.apply message, downward := rest }, hub) := by
        simp [turn, Link.tell, waiting, receive_message link.dependent frame message read]
      have after := Dependent.tracked_apply link.dependent message id
      unfold totalsOf at last
      rw [messages_of_message frame rest message read] at last
      refine ⟨heard, ?_⟩
      rw [moved]
      cases told : message.total? id with
      | none =>
        rw [told] at after
        simpa [totalsOf, told, after] using last
      | some seconds =>
        rw [told] at after
        have latest : (seconds :: totalsOf id rest).getLast? = some total := by
          simpa [totalsOf, told] using last
        -- The total of this frame is the last one only if no other total of the player is behind it.
        cases others : totalsOf id rest with
        | nil =>
          have same : seconds = total := by simpa [others] using latest
          subst same
          right
          cases tracked : link.dependent.tracked[id]? <;> simp [after, tracked]
        | cons next further =>
          left
          rw [others, List.getLast?_cons_cons] at latest
          simpa [others] using latest

theorem Tends.join (tends : Tends id total link) (player : PlayerId) : Tends id total (link.join player) := by
  have asked : messages (link.join player).upward = messages link.upward ++ [⟨player, .get⟩] := by
    simp [Link.join, send, Dependent.join, tends.heard]
  refine ⟨tends.heard, ?_⟩
  rcases tends.last with coming | ⟨nothing, rest⟩
  · exact .inl coming
  · right
    refine ⟨nothing, ?_⟩
    rw [asked]
    -- A player who joins anew is pending, but the question about the player is now on its way.
    rcases Dependent.tracked_join link.dependent player id with same | rfl
    · change (link.join player).dependent.tracked[id]? = _ at same
      rw [same]
      rcases rest with absent | known | asks
      · exact .inl absent
      · exact .inr (.inl known)
      · exact .inr (.inr (List.mem_append_left _ asks))
    · simp

theorem Tends.leave (tends : Tends id total link) (player : PlayerId) : Tends id total (link.leave player) := by
  refine ⟨tends.heard, ?_⟩
  rcases tends.last with coming | ⟨nothing, rest⟩
  · exact .inl coming
  · right
    refine ⟨nothing, ?_⟩
    have tracked : (link.leave player).dependent.tracked = link.dependent.tracked.erase player := rfl
    rw [tracked, Std.ExtTreeMap.getElem?_erase]
    by_cases same : compare player id = .eq
    · simp [same]
    · rw [if_neg same]
      exact rest

theorem Tends.send (tends : Tends id total link) (frames : List Frame) : Tends id total (link.send frames) := by
  have sent : messages (link.send frames).upward = messages link.upward ++ messages frames := by simp [Link.send]
  refine ⟨tends.heard, ?_⟩
  rcases tends.last with coming | ⟨nothing, absent | known | asks⟩
  · exact .inl coming
  · exact .inr ⟨nothing, .inl absent⟩
  · exact .inr ⟨nothing, .inr (.inl known)⟩
  · right
    rw [sent]
    exact ⟨nothing, .inr (.inr (List.mem_append_left _ asks))⟩

theorem Tends.turn (tends : Tends id total link) (hub : Sessions × σ) (turn : Turn)
    (steady : Steady id total hub) : Tends id total (link.turn hub turn).1 := by
  cases turn with
  | join player => exact tends.join player
  | leave player => exact tends.leave player
  | add player delta => exact tends.send _
  | poll => exact tends.send _
  | ask now => exact tends.ask hub now steady
  | tell => exact tends.tell hub

theorem Tends.known (tends : Tends id total link) (up : link.upward = []) (down : link.downward = [])
    (tracks : id ∈ link.dependent.tracked) : link.dependent.tracked[id]? = some ⟨total, .known⟩ := by
  have tracked := Std.ExtTreeMap.isSome_getElem?_iff_mem.mpr tracks
  rcases tends.last with coming | ⟨-, absent | known | asks⟩
  · simp [down, totalsOf] at coming
  · rw [absent] at tracked
    cases tracked
  · exact known
  · simp [up] at asks

end Link

end Playtime.Replication
