/-!
# Strings of TOML

Strings on one line and on several lines, with and without escapes. A reader takes the characters behind the
opening quotes and gives the string together with what follows its closing quotes.
-/

namespace LedgerService.Toml

/-- A character that may stand in a comment or, quotes apart, in a string. -/
def isPlain (character : Char) : Bool :=
  character = '\t' || (0x20 ≤ character.toNat && character.toNat ≠ 0x7f)

/-- The value of a hexadecimal digit. -/
def hexValue? (character : Char) : Option Nat :=
  if character.isDigit then some (character.toNat - '0'.toNat)
  else if 'a' ≤ character && character ≤ 'f' then some (character.toNat - 'a'.toNat + 10)
  else if 'A' ≤ character && character ≤ 'F' then some (character.toNat - 'A'.toNat + 10)
  else none

/-- The character whose number is written in so many hexadecimal digits. -/
def numbered : Nat → Nat → List Char → Option (Char × List Char)
  | 0, value, rest => if value.isValidChar then some (Char.ofNat value, rest) else none
  | count + 1, value, digit :: rest => do numbered count (value * 16 + (← hexValue? digit)) rest
  | _ + 1, _, [] => none

/-- The character that is written behind a backslash. -/
def escape : List Char → Option (Char × List Char)
  | 'b' :: rest => some (Char.ofNat 8, rest)
  | 't' :: rest => some ('\t', rest)
  | 'n' :: rest => some ('\n', rest)
  | 'f' :: rest => some (Char.ofNat 12, rest)
  | 'r' :: rest => some ('\r', rest)
  | '"' :: rest => some ('"', rest)
  | '\\' :: rest => some ('\\', rest)
  | 'u' :: rest => numbered 4 0 rest
  | 'U' :: rest => numbered 8 0 rest
  | _ => none

/-- A string on one line with escapes. -/
def basicString : Nat → List Char → Option (List Char × List Char)
  | 0, _ => none
  | _, [] => none
  | fuel + 1, '\\' :: rest => do
    let (character, rest) ← escape rest
    let (others, rest) ← basicString fuel rest
    return (character :: others, rest)
  | fuel + 1, character :: rest =>
    if character = '"' then some ([], rest)
    else if isPlain character then do
      let (others, rest) ← basicString fuel rest
      return (character :: others, rest)
    else none

/-- A string on one line without escapes. -/
def literalString : List Char → Option (List Char × List Char)
  | [] => none
  | character :: rest =>
    if character = '\'' then some ([], rest)
    else if isPlain character then do
      let (others, rest) ← literalString rest
      return (character :: others, rest)
    else none

/-- What follows a line break, if there is one. -/
def lineBreak? : List Char → Option (List Char)
  | '\n' :: rest => some rest
  | '\r' :: '\n' :: rest => some rest
  | _ => none

/-- A blank within a line. -/
def isGap (character : Char) : Bool := character = ' ' || character = '\t'

/-- A blank or a character of a line break. -/
def isGapOrBreak (character : Char) : Bool := isGap character || character = '\n' || character = '\r'

/-- What follows a line break and all blanks and line breaks after it, if only blanks stand before. -/
def continuation? (characters : List Char) : Option (List Char) :=
  (lineBreak? (characters.dropWhile isGap)).map fun rest => rest.dropWhile isGapOrBreak

/-- The line breaks are well formed: a carriage return stands only before a line feed. -/
def goodBreaks : List Char → Bool
  | [] => true
  | '\r' :: '\n' :: rest => goodBreaks rest
  | character :: rest => character ≠ '\r' && goodBreaks rest

/--
Quotes inside a string on several lines, or at its end: three quotes end it, of up to five the first two belong to
it.
-/
def quoteRun (quote : Char) (characters : List Char) : Nat × Bool × List Char :=
  let run := (characters.takeWhile (· = quote)).length
  if run < 3 then (run, false, characters.drop run)
  else (min run 5 - 3, true, characters.drop (min run 5))

/-- A string on several lines, with or without escapes. -/
def longString (quote : Char) : Nat → List Char → Option (List Char × List Char)
  | 0, _ => none
  | _, [] => none
  | fuel + 1, character :: rest =>
    if character = quote then
      let (count, ended, rest) := quoteRun quote (character :: rest)
      let quotes := List.replicate count quote
      if ended then some (quotes, rest)
      else do
        let (others, rest) ← longString quote fuel rest
        return (quotes ++ others, rest)
    else if character = '\\' && quote = '"' then
      match continuation? rest with
      | some rest' =>
        if goodBreaks (rest.take (rest.length - rest'.length)) then longString quote fuel rest' else none
      | none => do
        let (character, rest) ← escape rest
        let (others, rest) ← longString quote fuel rest
        return (character :: others, rest)
    else
      match lineBreak? (character :: rest) with
      | some rest => do
        let (others, rest) ← longString quote fuel rest
        return ('\n' :: others, rest)
      | none =>
        if isPlain character then do
          let (others, rest) ← longString quote fuel rest
          return (character :: others, rest)
        else none

/-- The text without a line break at its beginning. -/
def withoutBreak (characters : List Char) : List Char := (lineBreak? characters).getD characters

/-- A string with its quotes. -/
def string? (characters : List Char) : Option (String × List Char) :=
  let fuel := characters.length + 1
  let found :=
    match characters with
    | '"' :: '"' :: '"' :: rest => longString '"' fuel (withoutBreak rest)
    | '\'' :: '\'' :: '\'' :: rest => longString '\'' fuel (withoutBreak rest)
    | '"' :: rest => basicString fuel rest
    | '\'' :: rest => literalString rest
    | _ => none
  found.map fun (value, rest) => (String.ofList value, rest)

end LedgerService.Toml
