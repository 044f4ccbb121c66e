import Playtime.Text.Blank

/-!
A line of an environment file that gives a variable its value. Values may be bare, in weak quotes, which keep blanks,
or in strong quotes, which keep everything; outside strong quotes a backslash escapes and a dollar sign stands before
a name whose value is put in.
-/

namespace Playtime.Environment

def isKeyCharacter (c : Char) : Bool := c.isAlphanum || c = '_' || c = '.'

def key? (text : List Char) : Option (String × List Char) :=
  match text with
  | [] => none
  | c :: _ =>
    if c.isAlpha || c = '_' then
      some (String.ofList (text.takeWhile isKeyCharacter), text.dropWhile isKeyCharacter)
    else none

/-- What the next character of a value stands in. -/
inductive Position where
  | bare
  | weak
  | strong
  /-- After a backslash, between weak quotes or not. -/
  | escaped (isQuoted : Bool)
  | name (isQuoted : Bool) (read : List Char)
  | braced (isQuoted : Bool) (read : List Char)
  /-- Behind the value, where only blanks and a comment may stand. -/
  | behind
deriving DecidableEq, Repr

/-- Where a value goes on after an escape or a name. -/
def Position.resumed (isQuoted : Bool) : Position := if isQuoted then .weak else .bare

def unescape? (c : Char) : Option Char :=
  if c = 'n' then some '\n'
  else if c = '\\' || c = '\'' || c = '"' || c = '$' || c = ' ' then some c
  else none

def isBlankInLine (c : Char) : Bool := c = ' ' || c = '\t'

def value? (look : String → String) : Position → List Char → Option (List Char)
  | .bare, [] => some []
  | .behind, [] => some []
  | .escaped false, [] => some []
  | .name false read, [] => some (look (String.ofList read)).toList
  | _, [] => none
  | .bare, c :: rest =>
    if c = '$' then value? look (.name false []) rest
    else if c = '\'' then value? look .strong rest
    else if c = '"' then value? look .weak rest
    else if c = '\\' then value? look (.escaped false) rest
    else if isBlankInLine c then value? look .behind rest
    else (value? look .bare rest).map (c :: ·)
  | .weak, c :: rest =>
    if c = '$' then value? look (.name true []) rest
    else if c = '"' then value? look .bare rest
    else if c = '\\' then value? look (.escaped true) rest
    else (value? look .weak rest).map (c :: ·)
  | .strong, c :: rest =>
    if c = '\'' then value? look .bare rest else (value? look .strong rest).map (c :: ·)
  | .escaped isQuoted, c :: rest =>
    match unescape? c with
    | some plain => (value? look (.resumed isQuoted) rest).map (plain :: ·)
    | none => none
  | .name isQuoted read, c :: rest =>
    if c.isAlphanum then value? look (.name isQuoted (read ++ [c])) rest
    else if c = '\x7b' && read.isEmpty then value? look (.braced isQuoted []) rest
    else if c = '$' then
      (value? look (.name isQuoted []) rest).map ((look (String.ofList read)).toList ++ ·)
    else
      (value? look (.resumed isQuoted) rest).map ((look (String.ofList read)).toList ++ c :: ·)
  | .braced isQuoted read, c :: rest =>
    if c = '\x7d' then
      (value? look (.resumed isQuoted) rest).map ((look (String.ofList read)).toList ++ ·)
    else value? look (.braced isQuoted (read ++ [c])) rest
  | .behind, c :: rest =>
    if isBlankInLine c then value? look .behind rest else if c = '#' then some [] else none

def isEmptyOrComment (text : List Char) : Bool := text.isEmpty || text.head? = some '#'

def valueAfterKey? (look : String → String) (text : List Char) : Option String :=
  match text.dropWhile Text.isBlank with
  | '=' :: rest =>
    let value := rest.dropWhile Text.isBlank
    if isEmptyOrComment value then some "" else (value? look .bare value).map String.ofList
  | _ => none

def isAssigned (text : List Char) : Bool := (text.dropWhile Text.isBlank).head? = some '='

/-- Reads a line: an assignment, nothing at all, or neither. The word `export` may come before the key. -/
def assignment? (look : String → String) (line : List Char) : Option (Option (String × String)) :=
  let text := Text.trim line
  if isEmptyOrComment text then some none
  else
    match key? text with
    | none => none
    | some (key, rest) =>
      if key = "export" && !isAssigned rest then
        match key? (rest.dropWhile Text.isBlank) with
        | none => none
        | some (key, rest) => (valueAfterKey? look rest).map fun value => some (key, value)
      else (valueAfterKey? look rest).map fun value => some (key, value)

end Playtime.Environment
