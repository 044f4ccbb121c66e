namespace Playtime.Sql

def opensIdentifier (c : Char) : Bool := c.isAlpha || c = '_' || 128 ≤ c.toNat

def inIdentifier (c : Char) : Bool := opensIdentifier c || c.isDigit || c = '$'

/-- Characters that separate words of a statement. A byte order mark does so before a word. -/
def isSeparator (c : Char) : Bool := c = ' ' || (9 ≤ c.toNat && c.toNat ≤ 13) || c = '\ufeff'

inductive Gap where
  | blank
  | line
  | block
deriving DecidableEq, Repr

def afterGap? : Gap → List Char → Option (List Char)
  | .blank, '-' :: '-' :: rest => afterGap? .line rest
  | .blank, '/' :: '*' :: rest => afterGap? .block rest
  | .blank, c :: rest => if isSeparator c then afterGap? .blank rest else some (c :: rest)
  | .blank, [] => some []
  | .line, '\n' :: rest => afterGap? .blank rest
  | .line, _ :: rest => afterGap? .line rest
  | .line, [] => none
  | .block, '*' :: '/' :: rest => afterGap? .blank rest
  | .block, _ :: rest => afterGap? .block rest
  | .block, [] => none

def foldCase (text : String) : String := String.ofList (text.toList.map Char.toLower)

def reservedOpening : List Char := "sqlite_".toList

/-- An identifier that is plain and not reserved; the empty text may become one before a noun. -/
def isStem (cs : List Char) : Bool :=
  cs.all inIdentifier && cs.head?.all opensIdentifier && (cs.take 7).map Char.toLower ≠ reservedOpening

/--
The stem that a text put before each noun gives to the table names, if they are identifiers at all: a gap before it is
dropped, and the rest must go on into the noun as one identifier.
-/
def stem? (text : String) : Option String :=
  match afterGap? .blank text.toList with
  | some cs => if isStem cs then some (String.ofList cs) else none
  | none => none

inductive Noun where
  | player
  | server
  | world
  | time
  | statistic
deriving DecidableEq, Repr

namespace Noun

def all : List Noun := [player, server, world, time, statistic]

def text : Noun → String
  | player => "player"
  | server => "server"
  | world => "world"
  | time => "time"
  | statistic => "statistic"

def tableName (noun : Noun) (stem : String) : String := stem ++ noun.text

end Noun

end Playtime.Sql
