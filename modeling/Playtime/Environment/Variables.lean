import Std.Data.ExtTreeMap
import Playtime.Environment.Assignment
import Playtime.Text.Utf8

/-!
Variables of the environment, and files that add to them. A file never changes a variable that has a text, and the
first line in it that cannot be read ends it.
-/

namespace Playtime

/-- Values by name; a value need not be a text. -/
abbrev Variables := Std.ExtTreeMap String (List UInt8) compare

namespace Variables

def text? (environment : Variables) (name : String) : Option String := (environment[name]?).bind Text.ofUtf8?

def setNew (environment : Variables) (name value : String) : Variables :=
  if (environment.text? name).isSome then environment else environment.insert name (Text.toUtf8 value)

end Variables

namespace Environment

def physicalLines : List UInt8 → List (List UInt8)
  | [] => []
  | byte :: rest =>
    if byte = 10 then [byte] :: physicalLines rest
    else
      match physicalLines rest with
      | [] => [[byte]]
      | line :: lines => (byte :: line) :: lines

inductive Span where
  | plain
  /-- After a blank that may come before a comment. -/
  | blank
  | escaped
  | weak
  | weakEscaped
  | strong
  | strongEscaped
deriving DecidableEq, Repr

namespace Span

def opened (c : Char) : Span :=
  if c = '\\' then .escaped else if c = '"' then .weak else if c = '\'' then .strong else .plain

/-- Where a character leads; a comment begins where it leads nowhere. -/
def next? (c : Char) : Span → Option Span
  | plain => some (if Text.isBlank c && c ≠ '\n' && c ≠ '\r' then blank else opened c)
  | blank => if c = '#' then none else some (opened c)
  | escaped => some plain
  | weak => some (if c = '\\' then weakEscaped else if c = '"' then plain else weak)
  | weakEscaped => some weak
  | strong => some (if c = '\\' then strongEscaped else if c = '\'' then plain else strong)
  | strongEscaped => some strong

end Span

def scan (span : Span) : List Char → List Char × Option Span
  | [] => ([], some span)
  | c :: rest =>
    match span.next? c with
    | none => ([], none)
    | some next =>
      match scan next rest with
      | (before, last) => (c :: before, last)

def chomp (line : List Char) : List Char :=
  match line.reverse with
  | '\n' :: '\r' :: rest => rest.reverse
  | '\n' :: rest => rest.reverse
  | _ => line

/--
Joins lines until quotes are closed. A line that is no text, or one that the file leaves open, is where reading
ends with a fault.
-/
def logicalLines (kept : List Char) (span : Span) : List (List UInt8) → List (Option (List Char))
  | [] => if span = .plain then [] else [none]
  | bytes :: rest =>
    match Text.ofUtf8? bytes with
    | none => [none]
    | some line =>
      let text := kept ++ line.toList
      if (text.dropWhile Text.isBlank).head? = some '#' then logicalLines [] .plain rest
      else
        match scan span line.toList with
        | (before, none) => some (kept ++ before) :: logicalLines [] .plain rest
        | (_, some .plain) => some (chomp text) :: logicalLines [] .plain rest
        | (_, some span) => logicalLines text span rest

/-- Values that names in a file stand for: those of the environment, then those that the file gave. -/
def look (environment : Variables) (given : Std.ExtTreeMap String String compare) (name : String) : String :=
  (environment.text? name).getD (given.getD name "")

def loadLines (environment : Variables) (given : Std.ExtTreeMap String String compare) :
    List (Option (List Char)) → Variables
  | [] => environment
  | none :: _ => environment
  | some line :: rest =>
    match assignment? (look environment given) line with
    | none => environment
    | some none => loadLines environment given rest
    | some (some (name, value)) => loadLines (environment.setNew name value) (given.insert name value) rest

def byteOrderMark : List UInt8 := [0xEF, 0xBB, 0xBF]

def load (environment : Variables) (file : List UInt8) : Variables :=
  let content := if byteOrderMark.isPrefixOf file then file.drop 3 else file
  loadLines environment ∅ (logicalLines [] .plain (physicalLines content))

end Environment

end Playtime
