import ChangeReview.Toml.Quoted
import ChangeReview.Toml.Table

/-!
# TOML documents

A document is a sequence of lines: keys with values, and headers that say to which table the keys
below them belong.

## Main definitions

- `Toml.value?`: a value at the head of a text.
- `Toml.document?`: the root table of a document.
-/

namespace ChangeReview.Toml

/-- Drops spaces and tabs. -/
def dropGap (text : Text) : Text := text.dropWhile fun c => c == ' ' || c == '\t'

/-- Drops spaces, tabs, line ends and comments. -/
def dropTrivia? (inComment : Bool) : Text → Option Text
  | [] => some []
  | c :: rest =>
    if c == '\n' then dropTrivia? false rest
    else if c == '\r' then if headIs '\n' rest then dropTrivia? false rest else none
    else if inComment then if isControl c then none else dropTrivia? true rest
    else if c == ' ' || c == '\t' then dropTrivia? false rest
    else if c == '#' then dropTrivia? true rest
    else some (c :: rest)

/-- The text after the end of a line on which only spaces and a comment are left. -/
def lineEnd? (text : Text) : Option Text :=
  match dropGap text with
  | [] => some []
  | c :: rest =>
    if c == '#' then
      let comment := rest.takeWhile (· != '\n')
      let after := rest.dropWhile (· != '\n')
      let comment :=
        if !after.isEmpty && comment.getLast? == some '\r' then comment.dropLast else comment
      if comment.any isControl then none else some (after.drop 1)
    else if startsLineEnd (c :: rest) then some (dropLineEnd (c :: rest))
    else none

/-- A character of a key without quotes. -/
def isBareKey (c : Char) : Bool := c.isAlphanum || c == '_' || c == '-'

/-- One part of a key. -/
def keyPart? (text : Text) : Option (Text × Text) :=
  match text with
  | '\x22' :: rest => basic? rest
  | '\x27' :: rest => literal? rest
  | text =>
    let key := text.takeWhile isBareKey
    if key.isEmpty then none else some (key, text.dropWhile isBareKey)

/-- A key of at most `fuel` parts with dots between them, and the text after the spaces that follow
it. -/
def key? : Nat → Text → Option (List Text × Text)
  | 0, _ => none
  | fuel + 1, text => do
    let (part, rest) ← keyPart? (dropGap text)
    match dropGap rest with
    | '.' :: rest =>
      let (parts, rest) ← key? fuel rest
      some (part :: parts, rest)
    | rest => some ([part], rest)

/-- The parts of a key before the last one, and the last one. -/
def splitKey? (parts : List Text) : Option (List Text × Text) :=
  parts.getLast?.map fun last => (parts.dropLast, last)

/-- A character of an unquoted value. -/
def isScalarPart (c : Char) : Bool :=
  c.isAlphanum || c == '_' || c == '-' || c == '+' || c == '.' || c == ':'

/-- An unquoted value. A date and a time of day may be separated by a space. -/
def unquoted? (text : Text) : Option (TomlValue × Text) :=
  let word := text.takeWhile isScalarPart
  let rest := text.dropWhile isScalarPart
  match date? word, rest with
  | some [], ' ' :: more =>
    if more.head?.any Char.isDigit then
      (scalar? (word ++ ' ' :: more.takeWhile isScalarPart)).map fun value =>
        (value, more.dropWhile isScalarPart)
    else (scalar? word).map fun value => (value, rest)
  | _, _ => (scalar? word).map fun value => (value, rest)

/-- A quoted text. -/
def quoted? (text : Text) : Option (Text × Text) :=
  if "\x22\x22\x22".toList.isPrefixOf text then longBasic? (text.drop 3)
  else if "'''".toList.isPrefixOf text then longLiteral? (text.drop 3)
  else
    match text with
    | '\x22' :: rest => basic? rest
    | '\x27' :: rest => literal? rest
    | _ => none

/-- Puts an item before the items that are read. -/
def prependItem {α : Type} (item : α) (read : Option (List α × Text)) : Option (List α × Text) :=
  read.map fun (items, rest) => (item :: items, rest)

mutual

/-- A value at the head of a text, and what follows it. Every bracket and every item takes one step
of the fuel. -/
def value? : Nat → Text → Option (TomlValue × Text)
  | 0, _ => none
  | fuel + 1, text =>
    match text with
    | '[' :: rest => (items? fuel rest).map fun (items, rest) => (.array items, rest)
    | '\x7b' :: rest => do
      let (entries, rest) ← inlineEntries? fuel .header [] rest
      some ((Node.table .header entries).toValue, rest)
    | text =>
      if headIs '\x22' text || headIs '\x27' text then
        (quoted? text).map fun (text, rest) => (.string text, rest)
      else unquoted? text

/-- The items of an array up to its closing bracket. -/
def items? : Nat → Text → Option (List TomlValue × Text)
  | 0, _ => none
  | fuel + 1, text =>
    match dropTrivia? false text with
    | some (']' :: rest) => some ([], rest)
    | some text =>
      match value? fuel text with
      | none => none
      | some (item, rest) =>
        match dropTrivia? false rest with
        | some (',' :: rest) => prependItem item (items? fuel rest)
        | some (']' :: rest) => some ([item], rest)
        | _ => none
    | none => none

/-- The entries of an inline table up to its closing brace, after those that were read before. Like
the items of an array they may stand on several lines, with a comma after the last one. -/
def inlineEntries? : Nat → Origin → Node.Entries → Text → Option (Node.Entries × Text)
  | 0, _, _, _ => none
  | fuel + 1, origin, entries, text =>
    match dropTrivia? false text with
    | none => none
    | some ('\x7d' :: rest) => some (entries, rest)
    | some text =>
      match key? text.length text with
      | some (parts, '=' :: rest) =>
        match splitKey? parts, value? fuel (dropGap rest) with
        | some (path, key), some (value, rest) =>
          match Node.assign? path key value origin entries with
          | some (origin, entries) =>
            match dropTrivia? false rest with
            | some (',' :: rest) => inlineEntries? fuel origin entries rest
            | some ('\x7d' :: rest) => some (entries, rest)
            | _ => none
          | none => none
        | _, _ => none
      | _ => none

end

/-- The root table while a document is read, and the path of the table that a header opened last. -/
structure Progress where
  entries : Node.Entries := []
  current : List Text := []

/-- The effect of a header, and the text after its line. -/
def header? (progress : Progress) (text : Text) : Option (Progress × Text) := do
  let isElement := headIs '[' text
  let (parts, rest) ← key? text.length (if isElement then text.drop 1 else text)
  let (path, key) ← splitKey? parts
  let closing : Text := if isElement then [']', ']'] else [']']
  if !closing.isPrefixOf rest then none
  let open? := if isElement then Node.openElement? path key else Node.openTable? path key
  let (_, entries) ← open? .header progress.entries
  let rest ← lineEnd? (rest.drop closing.length)
  some ({ entries, current := parts }, rest)

/-- The effect of a key with its value, and the text after its line. -/
def assignment? (progress : Progress) (text : Text) : Option (Progress × Text) := do
  let (parts, rest) ← key? text.length text
  let (path, key) ← splitKey? parts
  let rest ← after? '=' rest
  let (value, rest) ← value? (2 * rest.length + 2) (dropGap rest)
  let (_, entries) ←
    Node.atPath false (Node.assign? path key value) progress.current .header progress.entries
  let rest ← lineEnd? rest
  some ({ progress with entries }, rest)

/-- The root table of the lines of a text, of which there are less than `fuel`. -/
def lines? : Nat → Progress → Text → Option Node.Entries
  | 0, _, _ => none
  | fuel + 1, progress, text =>
    match dropTrivia? false text with
    | none => none
    | some [] => some progress.entries
    | some ('[' :: rest) => do
      let (progress, rest) ← header? progress rest
      lines? fuel progress rest
    | some text => do
      let (progress, rest) ← assignment? progress text
      lines? fuel progress rest

/-- The root table of a document, which a byte order mark may precede. -/
def document? (text : Text) : Option (List (Text × TomlValue)) :=
  let text := if headIs '\ufeff' text then text.drop 1 else text
  (lines? (text.length + 1) {} text).map Node.entriesToValues

end ChangeReview.Toml
