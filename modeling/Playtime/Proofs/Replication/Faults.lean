import Playtime.Proofs.Replication.Frames

namespace Playtime.Replication

def tagLength (frame : Frame) : Nat := BigEndian.value ((frame.drop 16).take 2)

def tagBytes (frame : Frame) : List UInt8 := (frame.drop 18).take (tagLength frame)

def behindTag (frame : Frame) : Frame := frame.drop (18 + tagLength frame)

def payloadLength (tag : String) : Nat := if tag = "get" then 0 else 8

theorem numbered_of_payloadLength_pos {tag : String} (known : tag ∈ ["get", "add", "send"])
    (positive : 0 < payloadLength tag) : (tag = "add" ∨ tag = "send") ∧ payloadLength tag = 8 := by
  obtain rfl | rfl | rfl : tag = "get" ∨ tag = "add" ∨ tag = "send" := by simpa using known
  · exact absurd positive (by decide)
  · exact ⟨.inl rfl, rfl⟩
  · exact ⟨.inr rfl, rfl⟩

theorem tagLength_lt (frame : Frame) : tagLength frame < 65536 := by
  have bound := BigEndian.value_lt ((frame.drop 16).take 2)
  have few : ((frame.drop 16).take 2).length ≤ 2 := List.length_take_le 2 _
  have weights : ∀ count ≤ 2, BigEndian.weight count ≤ 65536 := by decide
  exact Nat.lt_of_lt_of_le bound (weights _ few)

theorem tagLength_append {frame : Frame} (more : Frame) (enough : 18 ≤ frame.length) :
    tagLength (frame ++ more) = tagLength frame := by
  have two : 2 ≤ (frame.drop 16).length := by
    rw [List.length_drop]
    omega
  rw [tagLength, tagLength, List.drop_append_of_le_length (by omega), List.take_append_of_le_length two]

theorem tagBytes_append {frame : Frame} (more : Frame) (enough : 18 + tagLength frame ≤ frame.length) :
    tagBytes (frame ++ more) = tagBytes frame := by
  have whole : tagLength frame ≤ (frame.drop 18).length := by
    rw [List.length_drop]
    omega
  rw [tagBytes, tagBytes, tagLength_append more (by omega), List.drop_append_of_le_length (by omega),
    List.take_append_of_le_length whole]

theorem take_of_le {field : Field} {count : Nat} {frame : Frame} (enough : count ≤ frame.length) :
    take field count frame = .ok (frame.take count, frame.drop count) := if_pos enough

theorem take_of_lt {field : Field} {count : Nat} {frame : Frame} (short : frame.length < count) :
    take field count frame = .error (.truncated field) := if_neg (Nat.not_le.mpr short)

theorem takeIdentifier_of_lt {frame : Frame} (short : frame.length < 16) :
    takeIdentifier frame = .error (.truncated .identifier) := by
  have fewer : (frame.take 16).length ≠ 16 := by
    rw [List.length_take]
    omega
  rw [takeIdentifier, PlayerId.ofBytes?, if_neg fewer]

theorem takeIdentifier_of_le {frame : Frame} (enough : 16 ≤ frame.length) :
    ∃ id, PlayerId.ofBytes? (frame.take 16) = some id ∧ takeIdentifier frame = .ok (id, frame.drop 16) := by
  have sixteen : (frame.take 16).length = 16 := List.length_take_of_le enough
  refine ⟨_, if_pos sixteen, ?_⟩
  rw [takeIdentifier, PlayerId.ofBytes?, if_pos sixteen]

theorem takeWord_of_lt {frame : Frame} (short : frame.length < 8) :
    takeWord frame = .error (.truncated .payload) := by
  simp only [takeWord, take_of_lt short, bind, Except.bind]

theorem takeWord_of_le {frame : Frame} (enough : 8 ≤ frame.length) :
    takeWord frame = .ok ((UInt64.ofNat (BigEndian.value (frame.take 8))).toInt64, frame.drop 8) := by
  simp only [takeWord, take_of_le enough, bind, Except.bind]

theorem takeCommand_of_unknown {tag : String} (unknown : tag ∉ ["get", "add", "send"]) (frame : Frame) :
    takeCommand tag frame = .error (.unknownCommand tag) := by
  unfold takeCommand
  split
  · exact absurd (by decide) unknown
  · exact absurd (by decide) unknown
  · exact absurd (by decide) unknown
  · rfl

theorem takeCommand_of_lt {tag : String} (numbered : tag = "add" ∨ tag = "send") {frame : Frame}
    (short : frame.length < 8) : takeCommand tag frame = .error (.truncated .payload) := by
  obtain rfl | rfl := numbered
  · simp only [takeCommand, takeWord_of_lt short, Except.map]
  · simp only [takeCommand, takeWord_of_lt short, Except.map]

theorem takeCommand_of_le {tag : String} (known : tag ∈ ["get", "add", "send"]) {frame : Frame}
    (enough : payloadLength tag ≤ frame.length) :
    ∃ command, takeCommand tag frame = .ok (command, frame.drop (payloadLength tag)) := by
  obtain rfl | rfl | rfl : tag = "get" ∨ tag = "add" ∨ tag = "send" := by simpa using known
  · exact ⟨.get, rfl⟩
  · exact ⟨_, by simp only [takeCommand, takeWord_of_le enough, Except.map]; rfl⟩
  · exact ⟨_, by simp only [takeCommand, takeWord_of_le enough, Except.map]; rfl⟩

namespace Message

theorem decode_of_noIdentifier {frame : Frame} (short : frame.length < 16) :
    decode frame = .error (.truncated .identifier) := by
  simp only [decode, takeIdentifier_of_lt short, bind, Except.bind]

theorem decode_of_noTagLength {frame : Frame} (enough : 16 ≤ frame.length) (short : frame.length < 18) :
    decode frame = .error (.truncated .tagLength) := by
  obtain ⟨id, -, identifier⟩ := takeIdentifier_of_le enough
  have fewer : (frame.drop 16).length < 2 := by
    rw [List.length_drop]
    omega
  simp only [decode, identifier, takeTag, take_of_lt fewer, bind, Except.bind]

theorem decode_of_cutTag {frame : Frame} (enough : 18 ≤ frame.length)
    (short : frame.length < 18 + tagLength frame) : decode frame = .error (.truncated .tag) := by
  obtain ⟨id, -, identifier⟩ := takeIdentifier_of_le (show 16 ≤ frame.length by omega)
  have two : 2 ≤ (frame.drop 16).length := by
    rw [List.length_drop]
    omega
  have fewer : ((frame.drop 16).drop 2).length < tagLength frame := by
    rw [List.drop_drop, List.length_drop]
    omega
  have tag : take .tag (tagLength frame) ((frame.drop 16).drop 2) = _ := take_of_lt fewer
  simp only [tagLength] at tag
  simp only [decode, identifier, takeTag, take_of_le two, tag, bind, Except.bind]

theorem decode_of_tag {frame : Frame} (enough : 18 + tagLength frame ≤ frame.length) : ∃ id,
    PlayerId.ofBytes? (frame.take 16) = some id ∧ decode frame = match Text.ofUtf8? (tagBytes frame) with
      | none => .error .invalidTag
      | some tag => takeCommand tag (behindTag frame) >>= fun (command, rest) =>
        if rest.isEmpty then .ok ⟨id, command⟩ else .error (.trailingBytes rest.length) := by
  obtain ⟨id, found, identifier⟩ := takeIdentifier_of_le (show 16 ≤ frame.length by omega)
  have two : 2 ≤ (frame.drop 16).length := by
    rw [List.length_drop]
    omega
  have whole : tagLength frame ≤ ((frame.drop 16).drop 2).length := by
    rw [List.drop_drop, List.length_drop]
    omega
  have tag : take .tag (tagLength frame) ((frame.drop 16).drop 2) = _ := take_of_le whole
  rw [List.drop_drop, List.drop_drop] at tag
  refine ⟨id, found, ?_⟩
  unfold decode takeTag
  rw [identifier]
  simp only [take_of_le two, bind, Except.bind, List.drop_drop]
  rw [← tagLength, tag]
  simp only [tagBytes, behindTag]
  cases Text.ofUtf8? ((frame.drop 18).take (tagLength frame)) with
  | none => rfl
  | some tag => rfl

theorem decode_of_invalidTag {frame : Frame} (enough : 18 + tagLength frame ≤ frame.length)
    (garbled : Text.ofUtf8? (tagBytes frame) = none) : decode frame = .error .invalidTag := by
  obtain ⟨id, -, read⟩ := decode_of_tag enough
  rw [read, garbled]

theorem decode_of_unknown {frame : Frame} {tag : String} (enough : 18 + tagLength frame ≤ frame.length)
    (tagged : Text.ofUtf8? (tagBytes frame) = some tag) (unknown : tag ∉ ["get", "add", "send"]) :
    decode frame = .error (.unknownCommand tag) := by
  obtain ⟨id, -, read⟩ := decode_of_tag enough
  rw [read, tagged]
  simp only [takeCommand_of_unknown unknown, bind, Except.bind]

theorem decode_of_cutPayload {frame : Frame} {tag : String} (enough : 18 + tagLength frame ≤ frame.length)
    (tagged : Text.ofUtf8? (tagBytes frame) = some tag) (numbered : tag = "add" ∨ tag = "send")
    (short : frame.length < 18 + tagLength frame + 8) : decode frame = .error (.truncated .payload) := by
  obtain ⟨id, -, read⟩ := decode_of_tag enough
  have fewer : (behindTag frame).length < 8 := by
    rw [behindTag, List.length_drop]
    omega
  rw [read, tagged]
  simp only [takeCommand_of_lt numbered fewer, bind, Except.bind]

theorem decode_of_known {frame : Frame} {tag : String} {count : Nat}
    (tagged : Text.ofUtf8? (tagBytes frame) = some tag) (known : tag ∈ ["get", "add", "send"])
    (length : frame.length = 18 + tagLength frame + payloadLength tag + count) :
    ∃ message, decode frame = if count = 0 then .ok message else .error (.trailingBytes count) := by
  obtain ⟨id, -, read⟩ := decode_of_tag (show 18 + tagLength frame ≤ frame.length by omega)
  have behind : (behindTag frame).length = payloadLength tag + count := by
    rw [behindTag, List.length_drop]
    omega
  obtain ⟨command, taken⟩ := takeCommand_of_le known (show payloadLength tag ≤ (behindTag frame).length by omega)
  have left : ((behindTag frame).drop (payloadLength tag)).length = count := by
    rw [List.length_drop]
    omega
  refine ⟨⟨id, command⟩, ?_⟩
  rw [read, tagged]
  simp only [taken, bind, Except.bind, List.isEmpty_iff_length_eq_zero, left]

end Message

/-- What reading a frame gives, by the lengths of its parts and its tag. -/
inductive Reads (frame : Frame) : Except FrameFault Message → Prop
  | noIdentifier (short : frame.length < 16) : Reads frame (.error (.truncated .identifier))
  | noTagLength (enough : 16 ≤ frame.length) (short : frame.length < 18) :
    Reads frame (.error (.truncated .tagLength))
  | cutTag (enough : 18 ≤ frame.length) (short : frame.length < 18 + tagLength frame) :
    Reads frame (.error (.truncated .tag))
  | invalidTag (enough : 18 + tagLength frame ≤ frame.length) (garbled : Text.ofUtf8? (tagBytes frame) = none) :
    Reads frame (.error .invalidTag)
  | unknownCommand {tag : String} (enough : 18 + tagLength frame ≤ frame.length)
    (tagged : Text.ofUtf8? (tagBytes frame) = some tag) (unknown : tag ∉ ["get", "add", "send"]) :
    Reads frame (.error (.unknownCommand tag))
  | cutPayload {tag : String} (enough : 18 + tagLength frame ≤ frame.length)
    (tagged : Text.ofUtf8? (tagBytes frame) = some tag) (numbered : tag = "add" ∨ tag = "send")
    (short : frame.length < 18 + tagLength frame + 8) : Reads frame (.error (.truncated .payload))
  | trailingBytes {tag : String} {count : Nat} (tagged : Text.ofUtf8? (tagBytes frame) = some tag)
    (known : tag ∈ ["get", "add", "send"]) (more : 0 < count)
    (length : frame.length = 18 + tagLength frame + payloadLength tag + count) :
    Reads frame (.error (.trailingBytes count))
  | message {tag : String} {message : Message} (tagged : Text.ofUtf8? (tagBytes frame) = some tag)
    (known : tag ∈ ["get", "add", "send"]) (length : frame.length = 18 + tagLength frame + payloadLength tag)
    (framed : frame = message.encode) : Reads frame (.ok message)

theorem Reads.decode_eq {frame : Frame} {outcome : Except FrameFault Message} (reads : Reads frame outcome) :
    Message.decode frame = outcome := by
  cases reads with
  | noIdentifier short => exact Message.decode_of_noIdentifier short
  | noTagLength enough short => exact Message.decode_of_noTagLength enough short
  | cutTag enough short => exact Message.decode_of_cutTag enough short
  | invalidTag enough garbled => exact Message.decode_of_invalidTag enough garbled
  | unknownCommand enough tagged unknown => exact Message.decode_of_unknown enough tagged unknown
  | cutPayload enough tagged numbered short => exact Message.decode_of_cutPayload enough tagged numbered short
  | trailingBytes tagged known more length =>
    obtain ⟨message, read⟩ := Message.decode_of_known tagged known length
    rw [read, if_neg (Nat.ne_of_gt more)]
  | message tagged known length framed => rw [framed, Message.decode_encode]

theorem reads_decode (frame : Frame) : Reads frame (Message.decode frame) := by
  by_cases identifier : frame.length < 16
  · rw [Message.decode_of_noIdentifier identifier]
    exact .noIdentifier identifier
  by_cases counted : frame.length < 18
  · rw [Message.decode_of_noTagLength (by omega) counted]
    exact .noTagLength (by omega) counted
  by_cases tagged : frame.length < 18 + tagLength frame
  · rw [Message.decode_of_cutTag (by omega) tagged]
    exact .cutTag (by omega) tagged
  have enough : 18 + tagLength frame ≤ frame.length := by omega
  cases found : Text.ofUtf8? (tagBytes frame) with
  | none =>
    rw [Message.decode_of_invalidTag enough found]
    exact .invalidTag enough found
  | some tag =>
    by_cases known : tag ∈ ["get", "add", "send"]
    · by_cases short : frame.length < 18 + tagLength frame + payloadLength tag
      · obtain ⟨numbered, eight⟩ := numbered_of_payloadLength_pos known (by omega)
        rw [eight] at short
        rw [Message.decode_of_cutPayload enough found numbered short]
        exact .cutPayload enough found numbered short
      · obtain ⟨count, length⟩ := Nat.exists_eq_add_of_le (Nat.not_lt.mp short)
        obtain ⟨message, read⟩ := Message.decode_of_known found known length
        obtain rfl | more := Nat.eq_zero_or_pos count
        · rw [if_pos rfl] at read
          rw [read]
          exact .message found known length (Message.eq_encode_of_decode read)
        · rw [read, if_neg (Nat.ne_of_gt more)]
          exact .trailingBytes found known more length
    · rw [Message.decode_of_unknown enough found known]
      exact .unknownCommand enough found known

theorem decode_eq_iff {frame : Frame} {outcome : Except FrameFault Message} :
    Message.decode frame = outcome ↔ Reads frame outcome :=
  ⟨fun read => read ▸ reads_decode frame, Reads.decode_eq⟩

theorem append_of_trailingBytes {frame : Frame} {tag : String} {count : Nat}
    (tagged : Text.ofUtf8? (tagBytes frame) = some tag) (known : tag ∈ ["get", "add", "send"])
    (length : frame.length = 18 + tagLength frame + payloadLength tag + count) :
    ∃ message : Message, ∃ more, frame = message.encode ++ more ∧ more.length = count := by
  obtain ⟨whole, more, rfl, ends⟩ : ∃ whole more, frame = whole ++ more ∧
      whole.length = 18 + tagLength frame + payloadLength tag :=
    ⟨_, _, (List.take_append_drop (18 + tagLength frame + payloadLength tag) frame).symm,
      List.length_take_of_le (by omega)⟩
  have same := tagLength_append more (show 18 ≤ whole.length by omega)
  rw [same] at ends
  rw [tagBytes_append more (by omega)] at tagged
  obtain ⟨message, read⟩ := Message.decode_of_known tagged known (show _ = _ + 0 from ends)
  refine ⟨message, more, by rw [Message.eq_encode_of_decode read], ?_⟩
  rw [List.length_append, same] at length
  omega

theorem truncated_of_append {cut more : Frame} {message : Message} (framed : cut ++ more = message.encode)
    (strict : more ≠ []) : ∃ field, Message.decode cut = .error (.truncated field) := by
  have whole : Message.decode (cut ++ more) = .ok message := by rw [framed, Message.decode_encode]
  have reads := reads_decode cut
  generalize Message.decode cut = outcome at reads ⊢
  cases reads with
  | noIdentifier short => exact ⟨_, rfl⟩
  | noTagLength enough short => exact ⟨_, rfl⟩
  | cutTag enough short => exact ⟨_, rfl⟩
  | cutPayload enough tagged numbered short => exact ⟨_, rfl⟩
  | invalidTag enough garbled =>
    have same := tagLength_append more (show 18 ≤ cut.length by omega)
    rw [← tagBytes_append more enough] at garbled
    rw [Message.decode_of_invalidTag (by rw [same, List.length_append]; omega) garbled] at whole
    cases whole
  | unknownCommand enough tagged unknown =>
    have same := tagLength_append more (show 18 ≤ cut.length by omega)
    rw [← tagBytes_append more enough] at tagged
    rw [Message.decode_of_unknown (by rw [same, List.length_append]; omega) tagged unknown] at whole
    cases whole
  | @trailingBytes tag count tagged known surplus length =>
    have same := tagLength_append more (show 18 ≤ cut.length by omega)
    rw [← tagBytes_append more (by omega)] at tagged
    have longer : (cut ++ more).length =
        18 + tagLength (cut ++ more) + payloadLength tag + (count + more.length) := by
      rw [same, List.length_append]
      omega
    rw [Reads.decode_eq (.trailingBytes tagged known (by omega) longer)] at whole
    cases whole
  | @message tag other tagged known length framed =>
    rw [framed, Message.decode_append, if_neg (by simpa using strict)] at whole
    cases whole

/-- Reading that gives none where it reaches outside the bytes, or copies bytes to where another count of them goes. -/
abbrev Reading := ExceptT FrameFault Option

def slice? (frame : Frame) (start stop : Nat) : Option (List UInt8) :=
  if start ≤ stop ∧ stop ≤ frame.length then some ((frame.drop start).take (stop - start)) else none

def subtract? (whole part : Nat) : Option Nat := if part ≤ whole then some (whole - part) else none

def sliceAt (field : Field) (count : Nat) (frame : Frame) (place : Nat) : Reading (List UInt8 × Nat) :=
  let stop := place + count
  if stop < UInt64.size ∧ stop ≤ frame.length then do
    let bytes ← ExceptT.lift (slice? frame place stop)
    pure (bytes, stop)
  else throw (.truncated field)

def arrayAt (field : Field) (count : Nat) (frame : Frame) (place : Nat) : Reading (List UInt8 × Nat) := do
  let (bytes, stop) ← sliceAt field count frame place
  if bytes.length = count then pure (bytes, stop) else ExceptT.lift none

def wordAt (frame : Frame) (place : Nat) : Reading (Int64 × Nat) := do
  let (bytes, stop) ← arrayAt .payload 8 frame place
  pure ((UInt64.ofNat (BigEndian.value bytes)).toInt64, stop)

def commandAt (tag : String) (frame : Frame) (place : Nat) : Reading (Command × Nat) :=
  match tag with
  | "get" => pure (.get, place)
  | "add" => (wordAt frame place).map fun (delta, stop) => (.add delta, stop)
  | "send" => (wordAt frame place).map fun (seconds, stop) => (.send seconds, stop)
  | other => throw (.unknownCommand other)

def finishAt (message : Message) (frame : Frame) (place : Nat) : Reading Message :=
  if place = frame.length then pure message
  else do
    let count ← ExceptT.lift (subtract? frame.length place)
    throw (.trailingBytes count)

/-- Reads a message by moving a place through the bytes. -/
def decodeByPlaces (frame : Frame) : Reading Message := do
  let (bytes, place) ← arrayAt .identifier 16 frame 0
  let id ← ExceptT.lift (PlayerId.ofBytes? bytes)
  let (count, place) ← arrayAt .tagLength 2 frame place
  let (bytes, place) ← sliceAt .tag (BigEndian.value count) frame place
  match Text.ofUtf8? bytes with
  | none => throw .invalidTag
  | some tag =>
    let (command, place) ← commandAt tag frame place
    finishAt ⟨id, command⟩ frame place

section Places

variable {frame : Frame} {place count : Nat}

theorem throw_bind_reading {α β : Type} (fault : FrameFault) (next : α → Reading β) :
    (throw fault >>= next : Reading β) = throw fault := rfl

theorem sliceAt_of_le (field : Field) (near : place + count < UInt64.size) (enough : place + count ≤ frame.length) :
    sliceAt field count frame place = pure ((frame.drop place).take count, place + count) := by
  rw [sliceAt, if_pos ⟨near, enough⟩, slice?, if_pos ⟨Nat.le_add_right place count, enough⟩,
    Nat.add_sub_cancel_left]
  rfl

theorem sliceAt_of_lt (field : Field) (short : frame.length < place + count) :
    sliceAt field count frame place = throw (.truncated field) :=
  if_neg fun both => Nat.not_le.mpr short both.2

theorem arrayAt_of_le (field : Field) (near : place + count < UInt64.size) (enough : place + count ≤ frame.length) :
    arrayAt field count frame place = pure ((frame.drop place).take count, place + count) := by
  have length : ((frame.drop place).take count).length = count := by
    rw [List.length_take, List.length_drop]
    omega
  rw [arrayAt, sliceAt_of_le field near enough, pure_bind]
  exact if_pos length

theorem arrayAt_of_lt (field : Field) (short : frame.length < place + count) :
    arrayAt field count frame place = throw (.truncated field) := by
  rw [arrayAt, sliceAt_of_lt field short, throw_bind_reading]

theorem wordAt_of_le (near : place + 8 < UInt64.size) (enough : place + 8 ≤ frame.length) :
    wordAt frame place =
      pure ((UInt64.ofNat (BigEndian.value ((frame.drop place).take 8))).toInt64, place + 8) := by
  rw [wordAt, arrayAt_of_le .payload near enough, pure_bind]

theorem wordAt_of_lt (short : frame.length < place + 8) : wordAt frame place = throw (.truncated .payload) := by
  rw [wordAt, arrayAt_of_lt .payload short, throw_bind_reading]

theorem finishAt_eq (message : Message) (inside : place ≤ frame.length) :
    finishAt message frame place = ExceptT.mk (some (if (frame.drop place).isEmpty then .ok message
      else .error (.trailingBytes (frame.drop place).length))) := by
  unfold finishAt
  by_cases whole : place = frame.length
  · have nothing : (frame.drop place).isEmpty := by simp [whole]
    rw [if_pos whole, if_pos nothing]
    rfl
  · have something : ¬ (frame.drop place).isEmpty := by
      rw [List.isEmpty_iff_length_eq_zero, List.length_drop]
      omega
    rw [if_neg whole, if_neg something, subtract?, if_pos inside, List.length_drop]
    rfl

theorem commandAt_of_unknown {tag : String} (unknown : tag ∉ ["get", "add", "send"]) :
    commandAt tag frame place = throw (.unknownCommand tag) := by
  unfold commandAt
  split
  · exact absurd (by decide) unknown
  · exact absurd (by decide) unknown
  · exact absurd (by decide) unknown
  · rfl

theorem commandAt_of_lt {tag : String} (numbered : tag = "add" ∨ tag = "send")
    (short : frame.length < place + 8) : commandAt tag frame place = throw (.truncated .payload) := by
  obtain rfl | rfl := numbered
  · rw [commandAt, wordAt_of_lt short]
    rfl
  · rw [commandAt, wordAt_of_lt short]
    rfl

theorem commandAt_of_le {tag : String} (known : tag ∈ ["get", "add", "send"]) (near : place + 8 < UInt64.size)
    (enough : place + payloadLength tag ≤ frame.length) : ∃ command,
    takeCommand tag (frame.drop place) = .ok (command, frame.drop (place + payloadLength tag)) ∧
      commandAt tag frame place = pure (command, place + payloadLength tag) := by
  have left : payloadLength tag ≤ (frame.drop place).length := by
    rw [List.length_drop]
    omega
  rw [← List.drop_drop]
  obtain rfl | rfl | rfl : tag = "get" ∨ tag = "add" ∨ tag = "send" := by simpa using known
  · exact ⟨.get, rfl, rfl⟩
  · refine ⟨_, by rw [takeCommand, takeWord_of_le left]; rfl, ?_⟩
    rw [commandAt, wordAt_of_le near enough]
    rfl
  · refine ⟨_, by rw [takeCommand, takeWord_of_le left]; rfl, ?_⟩
    rw [commandAt, wordAt_of_le near enough]
    rfl

theorem commandAt_bind (tag : String) (near : place + 8 < UInt64.size) (within : place ≤ frame.length) (id : PlayerId) :
    (commandAt tag frame place >>= fun (command, stop) => finishAt ⟨id, command⟩ frame stop) =
      ExceptT.mk (some (takeCommand tag (frame.drop place) >>= fun (command, rest) =>
        if rest.isEmpty then .ok ⟨id, command⟩ else .error (.trailingBytes rest.length))) := by
  by_cases known : tag ∈ ["get", "add", "send"]
  · by_cases enough : place + payloadLength tag ≤ frame.length
    · obtain ⟨command, taken, same⟩ := commandAt_of_le known near enough
      rw [same, taken, pure_bind]
      exact finishAt_eq ⟨id, command⟩ enough
    · obtain ⟨numbered, eight⟩ := numbered_of_payloadLength_pos known (by omega)
      have short : (frame.drop place).length < 8 := by
        rw [List.length_drop]
        omega
      rw [commandAt_of_lt numbered (by omega), takeCommand_of_lt numbered short]
      rfl
  · rw [commandAt_of_unknown known, takeCommand_of_unknown known]
    rfl

theorem decodeByPlaces_eq (frame : Frame) : decodeByPlaces frame = ExceptT.mk (some (Message.decode frame)) := by
  have word : UInt64.size = 18446744073709551616 := rfl
  unfold decodeByPlaces
  by_cases identifier : frame.length < 16
  · rw [arrayAt_of_lt .identifier (by omega), Message.decode_of_noIdentifier identifier]
    rfl
  have enough : 16 ≤ frame.length := Nat.not_lt.mp identifier
  obtain ⟨id, found, -⟩ := takeIdentifier_of_le enough
  rw [arrayAt_of_le .identifier (by omega) (by omega), pure_bind, List.drop_zero]
  simp only [found]
  show (arrayAt .tagLength 2 frame (0 + 16) >>= _ : Reading Message) = _
  by_cases counted : frame.length < 18
  · rw [arrayAt_of_lt .tagLength (by omega), Message.decode_of_noTagLength (by omega) counted]
    rfl
  rw [arrayAt_of_le .tagLength (by omega) (by omega), pure_bind]
  show (sliceAt .tag (tagLength frame) frame 18 >>= _ : Reading Message) = _
  have near := tagLength_lt frame
  by_cases tagged : frame.length < 18 + tagLength frame
  · rw [sliceAt_of_lt .tag tagged, Message.decode_of_cutTag (by omega) tagged]
    rfl
  obtain ⟨other, same, read⟩ := Message.decode_of_tag (Nat.not_lt.mp tagged)
  obtain rfl : id = other := Option.some.inj (found.symm.trans same)
  rw [sliceAt_of_le .tag (by omega) (by omega), pure_bind, read]
  show (match Text.ofUtf8? (tagBytes frame) with
    | none => throw .invalidTag
    | some tag => commandAt tag frame (18 + tagLength frame) >>= _ : Reading Message) = _
  cases Text.ofUtf8? (tagBytes frame) with
  | none => rfl
  | some tag => exact commandAt_bind tag (by omega) (by omega) id

end Places

/--
Each fault is found exactly in the frames that have it, in the order of the parts: the length for the identifier, for
the length of the tag and for the tag, then the tag's text, the command it names, the length for a number, and bytes
left over. So a frame cut short anywhere is truncated, a frame with bytes behind it has these counted, and reading by
places never reaches for bytes that are not there.
-/
theorem faults_classified :
    (∀ frame : Frame,
      (Message.decode frame = .error (.truncated .identifier) ↔ frame.length < 16) ∧
      (Message.decode frame = .error (.truncated .tagLength) ↔ 16 ≤ frame.length ∧ frame.length < 18) ∧
      (Message.decode frame = .error (.truncated .tag) ↔
        18 ≤ frame.length ∧ frame.length < 18 + tagLength frame) ∧
      (Message.decode frame = .error .invalidTag ↔
        18 + tagLength frame ≤ frame.length ∧ Text.ofUtf8? (tagBytes frame) = none) ∧
      (∀ tag, Message.decode frame = .error (.unknownCommand tag) ↔
        18 + tagLength frame ≤ frame.length ∧ Text.ofUtf8? (tagBytes frame) = some tag ∧
          tag ∉ ["get", "add", "send"]) ∧
      (Message.decode frame = .error (.truncated .payload) ↔
        18 + tagLength frame ≤ frame.length ∧ frame.length < 18 + tagLength frame + 8 ∧
          ∃ tag, Text.ofUtf8? (tagBytes frame) = some tag ∧ (tag = "add" ∨ tag = "send")) ∧
      (∀ count, Message.decode frame = .error (.trailingBytes count) ↔
        0 < count ∧ ∃ tag, Text.ofUtf8? (tagBytes frame) = some tag ∧ tag ∈ ["get", "add", "send"] ∧
          frame.length = 18 + tagLength frame + payloadLength tag + count) ∧
      ((∃ message, Message.decode frame = .ok message) ↔
        ∃ tag, Text.ofUtf8? (tagBytes frame) = some tag ∧ tag ∈ ["get", "add", "send"] ∧
          frame.length = 18 + tagLength frame + payloadLength tag)) ∧
    (∀ (message : Message) (cut more : Frame), cut ++ more = message.encode → more ≠ [] →
      ∃ field, Message.decode cut = .error (.truncated field)) ∧
    (∀ (frame : Frame) (count : Nat), Message.decode frame = .error (.trailingBytes count) ↔
      0 < count ∧ ∃ message : Message, ∃ more, frame = message.encode ++ more ∧ more.length = count) ∧
    ∀ frame, (decodeByPlaces frame).run = some (Message.decode frame) := by
  refine ⟨fun frame => ⟨?_, ?_, ?_, ?_, fun tag => ?_, ?_, fun count => ?_, ?_⟩, ?_, ?_,
    fun frame => decodeByPlaces_eq frame⟩
  · exact decode_eq_iff.trans ⟨fun | .noIdentifier short => short, .noIdentifier⟩
  · exact decode_eq_iff.trans ⟨fun | .noTagLength enough short => ⟨enough, short⟩,
      fun | ⟨enough, short⟩ => .noTagLength enough short⟩
  · exact decode_eq_iff.trans ⟨fun | .cutTag enough short => ⟨enough, short⟩,
      fun | ⟨enough, short⟩ => .cutTag enough short⟩
  · exact decode_eq_iff.trans ⟨fun | .invalidTag enough garbled => ⟨enough, garbled⟩,
      fun | ⟨enough, garbled⟩ => .invalidTag enough garbled⟩
  · exact decode_eq_iff.trans ⟨fun | .unknownCommand enough tagged unknown => ⟨enough, tagged, unknown⟩,
      fun | ⟨enough, tagged, unknown⟩ => .unknownCommand enough tagged unknown⟩
  · exact decode_eq_iff.trans ⟨
      fun | .cutPayload enough tagged numbered short => ⟨enough, short, _, tagged, numbered⟩,
      fun | ⟨enough, short, _, tagged, numbered⟩ => .cutPayload enough tagged numbered short⟩
  · exact decode_eq_iff.trans ⟨fun | .trailingBytes tagged known more length => ⟨more, _, tagged, known, length⟩,
      fun | ⟨more, _, tagged, known, length⟩ => .trailingBytes tagged known more length⟩
  · constructor
    · rintro ⟨message, read⟩
      cases decode_eq_iff.mp read with
      | message tagged known length framed => exact ⟨_, tagged, known, length⟩
    · rintro ⟨tag, tagged, known, length⟩
      obtain ⟨message, read⟩ := Message.decode_of_known tagged known (show _ = _ + 0 from length)
      exact ⟨message, read⟩
  · exact fun message cut more framed strict => truncated_of_append framed strict
  · intro frame count
    constructor
    · intro read
      cases decode_eq_iff.mp read with
      | trailingBytes tagged known more length => exact ⟨more, append_of_trailingBytes tagged known length⟩
    · rintro ⟨positive, message, more, rfl, rfl⟩
      have something : ¬ more.isEmpty := by
        rw [List.isEmpty_iff_length_eq_zero]
        omega
      rw [Message.decode_append, if_neg something]

/-- The longest tag there can be, of which nothing is there, and a number that lacks its last byte. -/
theorem faults_classified_at_missing_bytes :
    let tagless : Frame := List.replicate 16 0 ++ [255, 255]
    let whole : Frame := (Message.mk ⟨7⟩ (.send Int64.minValue)).encode
    tagLength tagless = 65535 ∧ Message.decode tagless = .error (.truncated .tag) ∧
      ∃ field, Message.decode whole.dropLast = .error (.truncated field) := by
  intro tagless whole
  obtain ⟨classified, cut, -, -⟩ := faults_classified
  have lacking : 18 ≤ tagless.length ∧ tagless.length < 18 + tagLength tagless := by decide +kernel
  have last : whole.dropLast ++ [0] = whole := by decide +kernel
  exact ⟨by decide +kernel, (classified tagless).2.2.1.mpr lacking, cut _ _ [0] last (by decide)⟩

end Playtime.Replication
