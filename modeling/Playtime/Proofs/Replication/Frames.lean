import Playtime.Replication.Message

namespace Playtime.Replication

theorem take_append (field : Field) (bytes rest : List UInt8) :
    take field bytes.length (bytes ++ rest) = .ok (bytes, rest) := by
  have enough : bytes.length ≤ (bytes ++ rest).length := by simp
  rw [take, if_pos enough, List.take_left, List.drop_left]

theorem takeIdentifier_append (id : PlayerId) (rest : Frame) :
    takeIdentifier (id.toBytes ++ rest) = .ok (id, rest) := by
  have sixteen := PlayerId.length_toBytes id
  have first : (id.toBytes ++ rest).take 16 = id.toBytes := List.take_left' sixteen
  have last : (id.toBytes ++ rest).drop 16 = rest := List.drop_left' sixteen
  rw [takeIdentifier, first, PlayerId.ofBytes?_toBytes, last]

theorem takeTag_append (tag : String) (rest : Frame) (short : (Text.toUtf8 tag).length < 65536) :
    takeTag (BigEndian.digits 2 (Text.toUtf8 tag).length ++ (Text.toUtf8 tag ++ rest)) = .ok (tag, rest) := by
  have two := BigEndian.length_digits 2 (Text.toUtf8 tag).length
  have count := take_append .tagLength (BigEndian.digits 2 (Text.toUtf8 tag).length) (Text.toUtf8 tag ++ rest)
  have bytes := take_append .tag (Text.toUtf8 tag) rest
  have number : BigEndian.value (BigEndian.digits 2 (Text.toUtf8 tag).length) = (Text.toUtf8 tag).length :=
    BigEndian.value_digits 2 _ short
  rw [two] at count
  simp only [takeTag, count, bind, Except.bind, number, bytes, Text.ofUtf8?_toUtf8]

theorem takeWord_append (value : Int64) (rest : Frame) : takeWord (wordBytes value ++ rest) = .ok (value, rest) := by
  have eight : (wordBytes value).length = 8 := BigEndian.length_digits 8 _
  have bytes := take_append .payload (wordBytes value) rest
  have number : BigEndian.value (wordBytes value) = value.toUInt64.toNat :=
    BigEndian.value_digits 8 _ value.toUInt64.toNat_lt
  rw [eight] at bytes
  simp only [takeWord, bytes, bind, Except.bind, number, UInt64.ofNat_toNat, Int64.toInt64_toUInt64]

theorem takeCommand_append (command : Command) (rest : Frame) :
    takeCommand command.tag (command.payload ++ rest) = .ok (command, rest) := by
  cases command with
  | get => rfl
  | add delta => simp [takeCommand, Command.tag, Command.payload, takeWord_append, Except.map]
  | send seconds => simp [takeCommand, Command.tag, Command.payload, takeWord_append, Except.map]

theorem length_tag (command : Command) : (Text.toUtf8 command.tag).length < 65536 := by
  cases command with
  | get => decide +kernel
  | add delta =>
    show (Text.toUtf8 "add").length < 65536
    decide +kernel
  | send seconds =>
    show (Text.toUtf8 "send").length < 65536
    decide +kernel

theorem Message.decode_append (message : Message) (rest : Frame) :
    decode (message.encode ++ rest) = if rest.isEmpty then .ok message else .error (.trailingBytes rest.length) := by
  obtain ⟨id, command⟩ := message
  have identifier := takeIdentifier_append id
    (BigEndian.digits 2 (Text.toUtf8 command.tag).length ++ (Text.toUtf8 command.tag ++ (command.payload ++ rest)))
  have tag := takeTag_append command.tag (command.payload ++ rest) (length_tag command)
  have payload := takeCommand_append command rest
  simp only [encode, List.append_assoc]
  simp only [decode, identifier, tag, payload, bind, Except.bind]

theorem Message.decode_encode (message : Message) : decode message.encode = .ok message := by
  have alone := message.decode_append []
  rwa [List.append_nil] at alone

theorem bind_eq_ok {α β : Type} {first : Except FrameFault α} {next : α → Except FrameFault β} {result : β}
    (done : first >>= next = .ok result) : ∃ middle, first = .ok middle ∧ next middle = .ok result := by
  cases first with
  | error fault => cases done
  | ok middle => exact ⟨middle, rfl, done⟩

theorem map_eq_ok {α β : Type} {first : Except FrameFault α} {f : α → β} {result : β}
    (done : first.map f = .ok result) : ∃ middle, first = .ok middle ∧ f middle = result := by
  cases first with
  | error fault => cases done
  | ok middle => exact ⟨middle, rfl, Except.ok.inj done⟩

theorem append_of_take {field : Field} {count : Nat} {frame bytes rest : Frame}
    (read : take field count frame = .ok (bytes, rest)) : frame = bytes ++ rest ∧ bytes.length = count := by
  unfold take at read
  split at read
  · next enough =>
    cases read
    exact ⟨(List.take_append_drop count frame).symm, List.length_take_of_le enough⟩
  · cases read

theorem append_of_takeIdentifier {frame rest : Frame} {id : PlayerId}
    (read : takeIdentifier frame = .ok (id, rest)) : frame = id.toBytes ++ rest := by
  unfold takeIdentifier at read
  split at read
  · next found =>
    cases read
    rw [PlayerId.toBytes_of_ofBytes? found, List.take_append_drop]
  · cases read

theorem append_of_takeTag {frame rest : Frame} {tag : String} (read : takeTag frame = .ok (tag, rest)) :
    frame = BigEndian.digits 2 (Text.toUtf8 tag).length ++ (Text.toUtf8 tag ++ rest) := by
  unfold takeTag at read
  obtain ⟨⟨count, behind⟩, counted, more⟩ := bind_eq_ok read
  obtain ⟨⟨bytes, last⟩, taken, tagged⟩ := bind_eq_ok more
  obtain ⟨rfl, two⟩ := append_of_take counted
  obtain ⟨rfl, length⟩ := append_of_take taken
  dsimp only at tagged
  split at tagged
  · next found =>
    cases tagged
    rw [Text.toUtf8_of_ofUtf8? found, length, ← two, BigEndian.digits_value]
  · cases tagged

theorem append_of_takeWord {frame rest : Frame} {value : Int64} (read : takeWord frame = .ok (value, rest)) :
    frame = wordBytes value ++ rest := by
  unfold takeWord at read
  obtain ⟨⟨bytes, behind⟩, taken, word⟩ := bind_eq_ok read
  obtain ⟨rfl, eight⟩ := append_of_take taken
  cases word
  have fits : BigEndian.value bytes < UInt64.size := by
    have bound := BigEndian.value_lt bytes
    rwa [eight] at bound
  rw [wordBytes, UInt64.toUInt64_toInt64, UInt64.toNat_ofNat_of_lt' fits, ← eight, BigEndian.digits_value]

theorem append_of_takeCommand {frame rest : Frame} {tag : String} {command : Command}
    (read : takeCommand tag frame = .ok (command, rest)) : tag = command.tag ∧ frame = command.payload ++ rest := by
  unfold takeCommand at read
  split at read
  · cases read
    exact ⟨rfl, rfl⟩
  · obtain ⟨⟨delta, behind⟩, taken, same⟩ := map_eq_ok read
    cases same
    exact ⟨rfl, append_of_takeWord taken⟩
  · obtain ⟨⟨seconds, behind⟩, taken, same⟩ := map_eq_ok read
    cases same
    exact ⟨rfl, append_of_takeWord taken⟩
  · cases read

theorem Message.eq_encode_of_decode {frame : Frame} {message : Message} (read : decode frame = .ok message) :
    frame = message.encode := by
  unfold decode at read
  obtain ⟨⟨id, behind⟩, identifier, more⟩ := bind_eq_ok read
  obtain ⟨⟨tag, last⟩, tagged, further⟩ := bind_eq_ok more
  obtain ⟨⟨command, rest⟩, commanded, whole⟩ := bind_eq_ok further
  obtain ⟨rfl, payload⟩ := append_of_takeCommand commanded
  dsimp only at whole
  split at whole
  · next nothing =>
    cases whole
    rw [append_of_takeIdentifier identifier, append_of_takeTag tagged, payload, List.isEmpty_iff.mp nothing]
    simp [encode]
  · cases whole

/--
Messages and the frames that are read as messages determine each other. A message has one frame, and no frame goes on
behind the end of another.
-/
theorem frames_match_messages :
    (∀ message : Message, Message.decode message.encode = .ok message) ∧
    (∀ frame message, Message.decode frame = .ok message → frame = message.encode) ∧
    (∀ first second message, Message.decode first = .ok message → Message.decode second = .ok message →
      first = second) ∧
    (∀ first second : Message, first.encode = second.encode → first = second) ∧
    ∀ frame longer message other, Message.decode frame = .ok message → Message.decode longer = .ok other →
      frame <+: longer → frame = longer := by
  refine ⟨Message.decode_encode, fun _ _ => Message.eq_encode_of_decode, ?_, ?_, ?_⟩
  · intro first second message read again
    rw [Message.eq_encode_of_decode read, Message.eq_encode_of_decode again]
  · intro first second same
    have read := Message.decode_encode first
    rw [same, Message.decode_encode] at read
    exact (Except.ok.inj read).symm
  · rintro frame _ message other read further ⟨rest, rfl⟩
    rw [Message.eq_encode_of_decode read, Message.decode_append] at further
    split at further
    · next nothing => rw [List.isEmpty_iff.mp nothing, List.append_nil]
    · cases further

/-- The least total, whose sign is in its first byte. -/
theorem frames_match_messages_at_least_total :
    let frame : Frame := List.replicate 15 0 ++ [7, 0, 4, 115, 101, 110, 100, 128, 0, 0, 0, 0, 0, 0, 0]
    let message : Message := ⟨⟨7⟩, .send Int64.minValue⟩
    Message.decode frame = .ok message ∧ ∀ other, Message.decode other = .ok message → other = frame := by
  intro frame message
  obtain ⟨reads, -, once, -⟩ := frames_match_messages
  have written : frame = message.encode := by decide +kernel
  have read : Message.decode frame = .ok message := written ▸ reads message
  exact ⟨read, fun other again => once other frame message again read⟩

end Playtime.Replication
