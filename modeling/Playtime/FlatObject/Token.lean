import Playtime.Bytes.Hex

/-!
The tokens of a flat object: braces, commas, colons, quoted texts and integers.

A quoted text is read as pieces, each a plain character or one 16-bit unit written as `\uXXXX`; two units that
form a surrogate pair are one character, and a unit of half a pair alone is refused.
-/

namespace Playtime.FlatObject

inductive Token where
  | opening
  | closing
  | comma
  | colon
  | text (value : List Char)
  | number (digits : List Char)
deriving DecidableEq, Repr

inductive Piece where
  | char (c : Char)
  | unit (code : Nat)
deriving DecidableEq, Repr

def isSpace (c : Char) : Bool := c = ' ' || c = '\n' || c = '\r' || c = '\t'

def unit? (a b c d : Char) : Option Nat :=
  match Hex.digitValue? a, Hex.digitValue? b, Hex.digitValue? c, Hex.digitValue? d with
  | some a, some b, some c, some d => some (((a * 16 + b) * 16 + c) * 16 + d)
  | _, _, _, _ => none

def escaped? (letter : Char) : Option Char :=
  match letter with
  | '"' => some '"'
  | '\\' => some '\\'
  | '/' => some '/'
  | 'b' => some '\x08'
  | 'f' => some '\x0c'
  | 'n' => some '\n'
  | 'r' => some '\r'
  | 't' => some '\t'
  | _ => none

def isHighHalf (code : Nat) : Bool := 0xD800 ≤ code && code < 0xDC00

def isLowHalf (code : Nat) : Bool := 0xDC00 ≤ code && code < 0xE000

def join? : List Piece → Option (List Char)
  | [] => some []
  | .char c :: rest => (join? rest).map (c :: ·)
  | .unit high :: .unit low :: rest =>
    if isHighHalf high then
      if isLowHalf low then
        (join? rest).map (Char.ofNat (0x10000 + (high - 0xD800) * 0x400 + (low - 0xDC00)) :: ·)
      else none
    else if isLowHalf high then none
    else (join? (.unit low :: rest)).map (Char.ofNat high :: ·)
  | .unit code :: rest =>
    if isHighHalf code || isLowHalf code then none else (join? rest).map (Char.ofNat code :: ·)

/-- Puts a digit or a minus before the number that follows it at once, or starts a number with a digit. -/
def joinNumber? (c : Char) (adjacent : Bool) (tokens : List Token) : Option (List Token) :=
  match tokens with
  | .number digits :: others =>
    if adjacent then some (.number (c :: digits) :: others)
    else if c = '-' then none else some (.number [c] :: tokens)
  | _ => if c = '-' then none else some (.number [c] :: tokens)

def mark? (c : Char) : Option Token :=
  match c with
  | '\x7b' => some .opening
  | '\x7d' => some .closing
  | ',' => some .comma
  | ':' => some .colon
  | _ => none

/-- Splits a text into tokens. Inside a quoted text, `quoted` holds the pieces read so far, the last one first. -/
def scan (quoted : Option (List Piece)) (input : List Char) : Option (List Token) :=
  match quoted, input with
  | none, [] => some []
  | some _, [] => none
  | some pieces, '"' :: rest =>
    match join? pieces.reverse, scan none rest with
    | some value, some tokens => some (.text value :: tokens)
    | _, _ => none
  | some pieces, '\\' :: 'u' :: a :: b :: c :: d :: rest =>
    match unit? a b c d with
    | some code => scan (some (.unit code :: pieces)) rest
    | none => none
  | some pieces, '\\' :: letter :: rest =>
    match escaped? letter with
    | some c => scan (some (.char c :: pieces)) rest
    | none => none
  | some pieces, c :: rest => if c < ' ' then none else scan (some (.char c :: pieces)) rest
  | none, c :: rest =>
    if isSpace c then scan none rest
    else if c = '"' then scan (some []) rest
    else if c.isDigit || c = '-' then
      (scan none rest).bind (joinNumber? c (rest.head?.any Char.isDigit))
    else
      match mark? c, scan none rest with
      | some token, some tokens => some (token :: tokens)
      | _, _ => none

def tokens? (text : List Char) : Option (List Token) := scan none text

end Playtime.FlatObject
