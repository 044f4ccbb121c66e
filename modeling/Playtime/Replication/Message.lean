import Playtime.Bytes.BigEndian
import Playtime.Player.Identifier
import Playtime.Text.Utf8

/-!
Frames between a hub and its dependents: sixteen bytes of identifier, two bytes that count the bytes of a tag, the
tag, and the eight bytes of a number if the tag calls for one. Numbers are big-endian.
-/

namespace Playtime.Replication

def presenceChannel : String := "onlinetime:afk"

def storageChannel : String := "onlinetime:storage"

abbrev Frame := List UInt8

inductive Command where
  | get
  | add (delta : Int64)
  | send (seconds : Int64)
deriving DecidableEq, Repr

structure Message where
  id : PlayerId
  command : Command
deriving DecidableEq, Repr

inductive Field where
  | identifier
  | tagLength
  | tag
  | payload
deriving DecidableEq, Repr

inductive FrameFault where
  | truncated (field : Field)
  | invalidTag
  | unknownCommand (tag : String)
  | trailingBytes (count : Nat)
deriving DecidableEq, Repr

namespace Field

def text : Field → String
  | identifier => "identifier"
  | tagLength => "tag length"
  | tag => "tag"
  | payload => "payload"

end Field

namespace FrameFault

def message : FrameFault → String
  | truncated field => "frame truncated while reading " ++ field.text
  | invalidTag => "command tag is not valid utf-8"
  | unknownCommand tag => "unknown command '" ++ tag ++ "'"
  | trailingBytes count => toString count ++ " unexpected bytes after payload"

end FrameFault

def wordBytes (value : Int64) : List UInt8 := BigEndian.digits 8 value.toUInt64.toNat

namespace Command

def tag : Command → String
  | get => "get"
  | add _ => "add"
  | send _ => "send"

def payload : Command → List UInt8
  | get => []
  | add delta => wordBytes delta
  | send seconds => wordBytes seconds

end Command

namespace Message

def encode (message : Message) : Frame :=
  let tag := Text.toUtf8 message.command.tag
  message.id.toBytes ++ BigEndian.digits 2 tag.length ++ tag ++ message.command.payload

end Message

def take (field : Field) (count : Nat) (frame : Frame) : Except FrameFault (List UInt8 × Frame) :=
  if count ≤ frame.length then .ok (frame.take count, frame.drop count) else .error (.truncated field)

def takeIdentifier (frame : Frame) : Except FrameFault (PlayerId × Frame) :=
  match PlayerId.ofBytes? (frame.take 16) with
  | some id => .ok (id, frame.drop 16)
  | none => .error (.truncated .identifier)

def takeTag (frame : Frame) : Except FrameFault (String × Frame) := do
  let (count, rest) ← take .tagLength 2 frame
  let (bytes, rest) ← take .tag (BigEndian.value count) rest
  match Text.ofUtf8? bytes with
  | some tag => .ok (tag, rest)
  | none => .error .invalidTag

def takeWord (frame : Frame) : Except FrameFault (Int64 × Frame) := do
  let (bytes, rest) ← take .payload 8 frame
  .ok ((UInt64.ofNat (BigEndian.value bytes)).toInt64, rest)

def takeCommand (tag : String) (frame : Frame) : Except FrameFault (Command × Frame) :=
  match tag with
  | "get" => .ok (.get, frame)
  | "add" => (takeWord frame).map fun (delta, rest) => (.add delta, rest)
  | "send" => (takeWord frame).map fun (seconds, rest) => (.send seconds, rest)
  | other => .error (.unknownCommand other)

namespace Message

def decode (frame : Frame) : Except FrameFault Message := do
  let (id, rest) ← takeIdentifier frame
  let (tag, rest) ← takeTag rest
  let (command, rest) ← takeCommand tag rest
  if rest.isEmpty then .ok ⟨id, command⟩ else .error (.trailingBytes rest.length)

end Message

end Playtime.Replication
