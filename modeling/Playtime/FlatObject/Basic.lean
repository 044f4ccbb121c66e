import Std.Data.ExtTreeMap
import Playtime.Arithmetic
import Playtime.FlatObject.Token
import Playtime.Text.Utf8

/-!
Flat objects: one pair of braces around members whose values are all texts or all integers. Reading takes any
spelling that JSON allows for such an object and keeps the last of several members of one key. Writing gives each
member a line of its own, in the order of the keys.
-/

namespace Playtime.FlatObject

/-- The kind of value that the members of an object hold. -/
class Scalar (ν : Type) where
  ofToken? : Token → Option ν
  render : ν → List Char

def plainDigits (digits : List Char) : Bool := digits = ['0'] || digits.head? ≠ some '0'

/-- An integer that is in range and not minus zero. -/
def integer? (digits : List Char) : Option Int64 :=
  match digits with
  | '-' :: magnitude =>
    if plainDigits magnitude && magnitude ≠ ['0'] then int64? (-(Nat.ofDigitChars 10 magnitude 0 : Int)) else none
  | magnitude =>
    if plainDigits magnitude then int64? (Nat.ofDigitChars 10 magnitude 0 : Int) else none

def members? {ν : Type} [Scalar ν] : List Token → Option (List (String × ν))
  | [.text key, .colon, value, .closing] =>
    (Scalar.ofToken? value).map fun value => [(String.ofList key, value)]
  | .text key :: .colon :: value :: .comma :: rest =>
    match Scalar.ofToken? value, members? rest with
    | some value, some others => some ((String.ofList key, value) :: others)
    | _, _ => none
  | _ => none

def object? {ν : Type} [Scalar ν] : List Token → Option (List (String × ν))
  | [.opening, .closing] => some []
  | .opening :: rest => members? rest
  | _ => none

/-- The members of an object by key; of several with one key the last counts. -/
abbrev Members (ν : Type) := Std.ExtTreeMap String ν compare

def ofText? {ν : Type} [Scalar ν] (text : String) : Option (Members ν) :=
  ((tokens? text.toList).bind object?).map fun members => Std.ExtTreeMap.ofList members compare

def ofBytes? {ν : Type} [Scalar ν] (bytes : List UInt8) : Option (Members ν) :=
  (Text.ofUtf8? bytes).bind ofText?

def controlEscape (c : Char) : List Char :=
  let digits := Nat.toDigits 16 c.toNat
  '\\' :: 'u' :: (List.replicate (4 - digits.length) '0' ++ digits)

def escape (c : Char) : List Char :=
  match c with
  | '"' => ['\\', '"']
  | '\\' => ['\\', '\\']
  | '\x08' => ['\\', 'b']
  | '\x0c' => ['\\', 'f']
  | '\n' => ['\\', 'n']
  | '\r' => ['\\', 'r']
  | '\t' => ['\\', 't']
  | c => if c < ' ' then controlEscape c else [c]

def quote (text : String) : List Char := '"' :: text.toList.flatMap escape ++ ['"']

def decimal (number : Int) : List Char :=
  if number < 0 then '-' :: Nat.toDigits 10 number.natAbs else Nat.toDigits 10 number.natAbs

def renderMember {ν : Type} [Scalar ν] (member : String × ν) : List Char :=
  ' ' :: ' ' :: quote member.1 ++ ':' :: ' ' :: Scalar.render member.2

def renderMembers {ν : Type} [Scalar ν] : List (String × ν) → List Char
  | [] => []
  | [member] => renderMember member
  | member :: rest => renderMember member ++ ',' :: '\n' :: renderMembers rest

def render {ν : Type} [Scalar ν] (members : List (String × ν)) : List Char :=
  if members.isEmpty then ['\x7b', '\x7d'] else '\x7b' :: '\n' :: renderMembers members ++ ['\n', '\x7d']

def toText {ν : Type} [Scalar ν] (members : Members ν) : String := String.ofList (render members.toList)

def toBytes {ν : Type} [Scalar ν] (members : Members ν) : List UInt8 := Text.toUtf8 (toText members)

instance : Scalar String where
  ofToken?
    | .text value => some (String.ofList value)
    | _ => none
  render := quote

instance : Scalar Int64 where
  ofToken?
    | .number digits => integer? digits
    | _ => none
  render value := decimal value.toInt

end Playtime.FlatObject
