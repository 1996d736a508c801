import LedgerService.Toml.Moment
import LedgerService.Toml.Number
import LedgerService.Toml.Table

/-!
# TOML documents

A document is a sequence of lines, each with a key and a value or with the header of a table. Reading one gives its
table, or nothing if the text is not well formed.
-/

namespace LedgerService.Toml

/-- The characters behind the blanks of a line. -/
def skipGap (characters : List Char) : List Char := characters.dropWhile isGap

/-- What follows a comment, if there is one. -/
def skipComment : List Char → List Char
  | '#' :: rest => rest.dropWhile isPlain
  | rest => rest

/-- What follows the end of a line, blanks and comment included; nothing may follow at the end of the document. -/
def endOfLine (characters : List Char) : Option (List Char) :=
  match skipComment (skipGap characters) with
  | [] => some []
  | rest => lineBreak? rest

/-- What follows blanks, comments and line breaks, up to so many lines of them. -/
def skipLines : Nat → List Char → List Char
  | 0, characters => characters
  | fuel + 1, characters =>
    let rest := skipComment (skipGap characters)
    match lineBreak? rest with
    | some rest => skipLines fuel rest
    | none => rest

/-- A character of a key without quotes. -/
def isKeyCharacter (character : Char) : Bool := character.isAlphanum || character = '_' || character = '-'

/-- One part of a key. -/
def keyPart (characters : List Char) : Option (String × List Char) :=
  match characters with
  | '"' :: rest => (basicString (rest.length + 1) rest).map fun (key, rest) => (String.ofList key, rest)
  | '\'' :: rest => (literalString rest).map fun (key, rest) => (String.ofList key, rest)
  | _ =>
    let (key, rest) := characters.span isKeyCharacter
    if key.isEmpty then none else some (String.ofList key, rest)

/-- The greatest depth of nested values and the greatest number of parts of a key. -/
def depthLimit : Nat := 80

/-- A key: its parts with points between them. -/
def keyParts : Nat → List Char → Option (List String × List Char)
  | 0, _ => none
  | fuel + 1, characters => do
    let (part, rest) ← keyPart (skipGap characters)
    match skipGap rest with
    | '.' :: rest =>
      let (parts, rest) ← keyParts fuel rest
      return (part :: parts, rest)
    | rest => return ([part], rest)

/-- A key: the path to a table, and the key in that table. -/
def key (characters : List Char) : Option (List String × String × List Char) := do
  let (parts, rest) ← keyParts (depthLimit - 1) characters
  let last ← parts.getLast?
  return (parts.dropLast, last, rest)

/-- A truth value. -/
def truth? : List Char → Option (Toml × List Char)
  | 't' :: 'r' :: 'u' :: 'e' :: rest => some (.boolean true, rest)
  | 'f' :: 'a' :: 'l' :: 's' :: 'e' :: rest => some (.boolean false, rest)
  | _ => none

/-- A value without others inside. -/
def scalar? (characters : List Char) : Option (Toml × List Char) :=
  ((string? characters).map fun (value, rest) => (.text value, rest)) <|>
    truth? characters <|>
    ((moment? characters).map fun (shown, rest) => (.moment shown, rest)) <|>
    number? characters

/-- The brace that opens a table within a value. -/
def openingBrace : Char := Char.ofNat 0x7b

/-- The brace that closes a table within a value. -/
def closingBrace : Char := Char.ofNat 0x7d

mutual

/-- A value; at most so many more may be nested in it. -/
def value (depth : Nat) : Nat → List Char → Option (Toml × List Char)
  | 0, _ => none
  | fuel + 1, characters =>
    match characters with
    | '[' :: rest =>
      if depth + 1 < depthLimit then do
        let (items, rest) ← items (depth + 1) fuel (skipLines rest.length rest)
        return (.array items, rest)
      else none
    | first :: rest =>
      if first = openingBrace then
        if depth + 1 < depthLimit then do
          let (entries, rest) ← pairs (depth + 1) fuel true [] (skipGap rest)
          return (.table (entriesToToml entries), rest)
        else none
      else scalar? characters
    | [] => none

/-- The items of an array up to its closing bracket. -/
def items (depth : Nat) : Nat → List Char → Option (List Toml × List Char)
  | 0, _ => none
  | fuel + 1, characters =>
    match characters with
    | ']' :: rest => some ([], rest)
    | _ => do
      let (item, rest) ← value depth fuel characters
      match skipLines rest.length rest with
      | ',' :: rest =>
        let (others, rest) ← items depth fuel (skipLines rest.length rest)
        return (item :: others, rest)
      | ']' :: rest => return ([item], rest)
      | _ => none

/-- The pairs of a table within a value up to its closing brace. -/
def pairs (depth : Nat) : Nat → (first : Bool) → Entries → List Char → Option (Entries × List Char)
  | 0, _, _, _ => none
  | fuel + 1, first, entries, characters =>
    if first && characters.head? = some closingBrace then some (entries, characters.tail)
    else do
      let (path, last, rest) ← key characters
      let rest ← behind '=' rest
      let (item, rest) ← value depth fuel (skipGap rest)
      let entries ← addValue entries path last item
      match skipGap rest with
      | ',' :: rest => pairs depth fuel false entries (skipGap rest)
      | mark :: rest => if mark = closingBrace then some (entries, rest) else none
      | [] => none

end

/-- A document while it is read. -/
structure Draft where
  /-- The tables that are finished. -/
  root : Entries
  /-- The table to which lines belong. -/
  current : Entries
  /-- The header of the table to which lines belong; none at the beginning. -/
  header : List String
  /-- The header is one of those that may be repeated. -/
  repeated : Bool

/-- Puts the table to which lines belong in its place. -/
def Draft.finish (draft : Draft) : Option Entries :=
  match draft.header.getLast? with
  | none => some draft.current
  | some last =>
    descend false draft.root
      (fun _ parent =>
        match parent.find? last, draft.repeated with
        | none, true => some (parent.put last (.tables draft.current []))
        | some (.tables latest earlier), true => some (parent.put last (.tables draft.current (latest :: earlier)))
        | none, false => some (parent.put last (.table .header draft.current))
        | _, _ => none)
      .header draft.header.dropLast

/-- The node that a path leads to, through the latest of repeated tables. -/
def lookUp : Entries → List String → Option Node
  | _, [] => none
  | entries, [key] => entries.find? key
  | entries, key :: path =>
    match entries.find? key with
    | some (.table _ inner) => lookUp inner path
    | some (.tables latest _) => lookUp latest path
    | _ => none

/-- Starts the table under a header. -/
def Draft.start (draft : Draft) (header : List String) (repeated : Bool) : Option Draft := do
  let root ← draft.finish
  let last ← header.getLast?
  let made ← descend false root (fun _ parent => some parent) .header header.dropLast
  match repeated, lookUp made header with
  | _, none => return ⟨made, [], header, repeated⟩
  | true, some (.tables _ _) => return ⟨made, [], header, true⟩
  | false, some (.table .passage inner) =>
    let root ← descend false made (fun _ parent => some (parent.without last)) .header header.dropLast
    return ⟨root, inner, header, false⟩
  | _, _ => none

/-- A header with its brackets. -/
def headerLine (characters : List Char) : Option (List String × Bool × List Char) :=
  match characters with
  | '[' :: '[' :: rest => do
    let (path, last, rest) ← key rest
    let rest ← behind ']' (← behind ']' rest)
    return (path ++ [last], true, rest)
  | '[' :: rest => do
    let (path, last, rest) ← key rest
    let rest ← behind ']' rest
    return (path ++ [last], false, rest)
  | _ => none

/-- Reads lines until the end. -/
def lines : Nat → Draft → List Char → Option Entries
  | 0, _, _ => none
  | fuel + 1, draft, characters =>
    match skipLines characters.length characters with
    | [] => draft.finish
    | '[' :: rest => do
      let (header, repeated, rest) ← headerLine ('[' :: rest)
      let draft ← draft.start header repeated
      lines fuel draft (← endOfLine rest)
    | rest => do
      let (path, last, rest) ← key rest
      let rest := skipGap (← behind '=' rest)
      let (item, rest) ← value 0 (rest.length + 1) rest
      let current ← addValue draft.current path last item
      lines fuel { draft with current } (← endOfLine rest)

/-- The text without a byte order mark. -/
def withoutMark : List Char → List Char
  | [] => []
  | first :: rest => if first.toNat = 0xfeff then rest else first :: rest

/-- The table that a text describes. -/
def parse (text : String) : Option Toml :=
  let characters := withoutMark text.toList
  (lines (characters.length + 1) ⟨[], [], [], false⟩ characters).map fun entries => .table (entriesToToml entries)

end LedgerService.Toml
