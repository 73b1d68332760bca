import EventCanvas.Entries
import EventCanvas.Text.Blank

/-!
# Environment files

A file of statements `NAME=value` that stand in for environment variables which
are not set.  Blank lines and lines that begin with `#` say nothing, and `export`
may stand in front of a name.  A value is the rest of the line up to a comment,
or a quoted text, which may run over several lines.  In a value, `${NAME}` and
`${NAME:-default}` stand for variables.  A statement that cannot be read is passed
over up to the end of the line on which it fails.
-/

namespace EventCanvas.Config.EnvFile

/-! ## Statements -/

/-- A blank inside a line. -/
def isLineBlank (c : Char) : Bool := Text.isBlank c && c != '\n'

/-- A text without the blanks of the line at its front. -/
def skipBlanks (cs : List Char) : List Char := cs.dropWhile isLineBlank

/-- A text without the rest of its first line. -/
def skipLine (cs : List Char) : List Char := (cs.dropWhile (· ≠ '\n')).drop 1

/-- A text without the word `export` at its front, if a blank follows the word. -/
def skipExport (cs : List Char) : List Char :=
  let word := "export".toList
  match word.isPrefixOf cs, cs.drop word.length with
  | true, c :: rest => if isLineBlank c then skipBlanks rest else cs
  | _, _ => cs

/-- A character of a name without quotes. -/
def isNameChar (c : Char) : Bool := c != '=' && c != '#' && !Text.isBlank c

/-- The name at the front, plain or in single quotes. -/
def name? (cs : List Char) : Option (List Char × List Char) :=
  let (name, rest) := match cs with
    | '\'' :: inner =>
      match inner.dropWhile (· ≠ '\'') with
      | [] => ([], cs)
      | _ :: after => (inner.takeWhile (· ≠ '\''), after)
    | _ => (cs.takeWhile isNameChar, cs.dropWhile isNameChar)
  if name.isEmpty then none else some (name, rest)

/-- Splits a quoted text at its closing quote, which is the first one that does not follow a
backslash; where all of them do, it is the last one. -/
def splitQuoted? (quote : Char) : List Char → Option (List Char × List Char)
  | [] => none
  | c :: cs =>
    if c = quote then some ([], cs)
    else
      match cs with
      | d :: rest =>
        if c = '\\' && d = quote then
          match splitQuoted? quote rest with
          | some (body, after) => some (c :: d :: body, after)
          | none => some ([c], rest)
        else (splitQuoted? quote (d :: rest)).map fun (body, after) => (c :: body, after)
      | [] => none

/-- The characters that the escapes stand for. -/
def escapes : Entries Char Char :=
  [('\\', '\\'), ('\'', '\''), ('"', '"'), ('a', '\x07'), ('b', '\x08'), ('f', '\x0c'),
    ('n', '\n'), ('r', '\r'), ('t', '\t'), ('v', '\x0b')]

/-- The escapes that count between some quotes. -/
def escapesIn (quote : Char) : Entries Char Char :=
  if quote = '"' then escapes else escapes.filter fun e => e.1 = '\\' || e.1 = '\''

/-- A quoted text with its escapes replaced; a backslash in front of another character stays. -/
def unescaped (table : Entries Char Char) : List Char → List Char
  | '\\' :: c :: cs =>
    match Entries.lookup c table with
    | some d => d :: unescaped table cs
    | none => '\\' :: unescaped table (c :: cs)
  | c :: cs => c :: unescaped table cs
  | [] => []

/-- A value without the comment behind it, which a blank and a number sign begin. -/
def withoutComment : List Char → List Char
  | [] => []
  | c :: cs =>
    match cs with
    | '#' :: _ => if Text.isBlank c then [] else c :: withoutComment cs
    | _ => c :: withoutComment cs

/-- A text without the blanks at its end. -/
def trimmedEnd (cs : List Char) : List Char := (cs.reverse.dropWhile Text.isBlank).reverse

/-- The value at the front. -/
def value? (cs : List Char) : Option (List Char × List Char) :=
  match cs with
  | c :: rest =>
    if c = '\'' || c = '"' then
      (splitQuoted? c rest).map fun (body, after) => (unescaped (escapesIn c) body, after)
    else
      some (trimmedEnd (withoutComment (cs.takeWhile (· ≠ '\n'))), cs.dropWhile (· ≠ '\n'))
  | [] => some ([], [])

/-- What follows a statement: the next line, if nothing but a comment is left of this one. -/
def lineEnd? (cs : List Char) : Option (List Char) :=
  match skipBlanks cs with
  | [] => some []
  | c :: rest => if c = '\n' then some rest else if c = '#' then some (skipLine rest) else none

/-- The variable that a statement sets, with its value if there is one. -/
abbrev Setting := String × Option (List Char)

/-- Reads a statement that begins with no blank: what it sets, if it sets something, and what
follows it. -/
def statement (cs : List Char) : Option Setting × List Char :=
  match cs with
  | '#' :: rest => (none, skipLine rest)
  | _ =>
    let start := skipExport cs
    match name? start with
    | none => (none, skipLine start)
    | some (name, rest) =>
      match skipBlanks rest with
      | '=' :: more =>
        let body := skipBlanks more
        match value? body with
        | none => (none, skipLine body)
        | some (value, after) =>
          match lineEnd? after with
          | some next => (some (String.ofList name, some value), next)
          | none => (none, skipLine after)
      | after =>
        match lineEnd? after with
        | some next => (some (String.ofList name, none), next)
        | none => (none, skipLine after)

/-- What the statements of a text set, in order. -/
def settingsUpTo : Nat → List Char → List Setting
  | 0, _ => []
  | fuel + 1, cs =>
    match cs.dropWhile Text.isBlank with
    | [] => []
    | first =>
      let (setting, rest) := statement first
      setting.toList ++ settingsUpTo fuel rest

/-- What the statements of a text set, in order.  Line feeds are its only line breaks. -/
def settings (cs : List Char) : List Setting := settingsUpTo cs.length cs

/-- A text with line feeds as its only line breaks. -/
def plainBreaks : List Char → List Char
  | '\r' :: '\n' :: cs => '\n' :: plainBreaks cs
  | '\r' :: cs => '\n' :: plainBreaks cs
  | c :: cs => c :: plainBreaks cs
  | [] => []

/-! ## Variables in values -/

/-- A reference to a variable after its opening brace: the name, the value that stands in for a
missing variable, and the rest. -/
def reference? (cs : List Char) : Option (String × List Char × List Char) :=
  let stop (c : Char) : Bool := c = '\x7d' || c = ':'
  let name := String.ofList (cs.takeWhile (!stop ·))
  match cs.dropWhile (!stop ·) with
  | '\x7d' :: rest => some (name, [], rest)
  | ':' :: '-' :: more =>
    match more.dropWhile (· ≠ '\x7d') with
    | _ :: rest => some (name, more.takeWhile (· ≠ '\x7d'), rest)
    | [] => none
  | _ => none

/-- A value with the references in it replaced. -/
def expandUpTo (get : String → Option (List Char)) : Nat → List Char → List Char
  | 0, _ => []
  | fuel + 1, cs =>
    match cs with
    | [] => []
    | '$' :: '\x7b' :: inner =>
      match reference? inner with
      | some (name, default, rest) => (get name).getD default ++ expandUpTo get fuel rest
      | none => '$' :: expandUpTo get fuel ('\x7b' :: inner)
    | c :: rest => c :: expandUpTo get fuel rest

/-- A value with the references in it replaced. -/
def expand (get : String → Option (List Char)) (cs : List Char) : List Char :=
  expandUpTo get cs.length cs

/-- What a reference to a variable stands for: what is set in the environment comes before what
the file sets, and a name without a value in the file is the empty text. -/
def meaning (environment : Entries String String) (known : Entries String (Option (List Char)))
    (name : String) : Option (List Char) :=
  match Entries.lookup name environment with
  | some v => some v.toList
  | none => (Entries.lookup name known).map fun v => v.getD []

/-- The variables that a file sets, each with references to those before it replaced: of a
variable that is set twice the last value counts. -/
def vars (environment : Entries String String) (text : String) :
    Entries String (Option (List Char)) :=
  (settings (plainBreaks text.toList)).foldl
    (fun known s => Entries.put s.1 (s.2.map (expand (meaning environment known))) known) []

/-- An environment with the variables of a file that it does not have itself. -/
def extend (environment : Entries String String) (text : String) : Entries String String :=
  (vars environment text).foldl
    (fun acc e => match e.2 with
      | some v => Entries.putNew e.1 (String.ofList v) acc
      | none => acc)
    environment

end EventCanvas.Config.EnvFile
