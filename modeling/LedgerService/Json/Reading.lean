import LedgerService.Json.Fault
import LedgerService.Word

/-!
# Reading JSON text

Text is read once from left to right. A fault that concerns the text itself is reported where it is met; a
fault that concerns the described value is reported where the innermost list, object or scalar around it ends.
Values that nobody asked for are skipped under laxer rules: they may be nested without limit, and neither their
surrogate escapes nor the size of their numbers matter.
-/

namespace LedgerService.Json

/-- The text still to be read, the place reached, and how many more levels may be opened. -/
structure Cursor where
  rest : List Char
  place : Place
  levels : Nat
  /-- The number of characters of the whole text. -/
  size : Nat
deriving Repr, Inhabited

/-- Lists and objects may be nested less deeply than this. -/
def levelLimit : Nat := 128

/-- The start of a text. -/
def Cursor.start (text : String) : Cursor :=
  ⟨text.toList, ⟨1, 0⟩, levelLimit, text.toList.length⟩

/-- The place after one more character. -/
def Place.after (place : Place) (character : Char) : Place :=
  if character = '\n' then ⟨place.line + 1, 0⟩ else ⟨place.line, place.column + character.utf8Size⟩

/-- The place after the first byte of the next character; the place itself at the end of the text. -/
def Cursor.ahead (cursor : Cursor) : Place :=
  match cursor.rest with
  | [] => cursor.place
  | character :: _ =>
    if character = '\n' then ⟨cursor.place.line + 1, 0⟩
    else ⟨cursor.place.line, cursor.place.column + 1⟩

/-- The cursor past one character. -/
def Cursor.next (cursor : Cursor) : Cursor :=
  match cursor.rest with
  | [] => cursor
  | character :: rest => { cursor with rest, place := cursor.place.after character }

/-- The cursor past so many bytes, of which the last may lie inside a character. -/
def Cursor.skipBytes (cursor : Cursor) : Nat → List Char → Cursor
  | 0, _ => cursor
  | _ + 1, [] => cursor
  | count + 1, character :: rest =>
    if character.utf8Size ≤ count + 1 then
      skipBytes { cursor with rest, place := cursor.place.after character }
        (count + 1 - character.utf8Size) rest
    else { cursor with rest, place := ⟨cursor.place.line, cursor.place.column + (count + 1)⟩ }
termination_by _ characters => characters.length

/-- A blank between tokens. -/
def isBlank (character : Char) : Bool :=
  character = ' ' || character = '\n' || character = '\t' || character = '\r'

/-- A computation that consumes text; the text read stays read when it fails. -/
abbrev Reading := ExceptT DecodeError (StateM Cursor)

namespace Reading

/-- Fails with a malformation at a place. -/
def failAt {α : Type} (malformation : Malformation) (place : Place) : Reading α :=
  throw ⟨.malformed malformation, some place⟩

/-- Fails at the place reached. -/
def failHere {α : Type} (malformation : Malformation) : Reading α := do
  failAt malformation (← get).place

/-- Fails at the next byte. -/
def failAhead {α : Type} (malformation : Malformation) : Reading α := do
  failAt malformation (← get).ahead

/-- Fails with a fault whose place is still to be found. -/
def fail {α : Type} (fault : Fault) : Reading α := throw ⟨fault, none⟩

/-- The outcome of a reading as a value. -/
def attempt {α : Type} (reading : Reading α) : Reading (Except DecodeError α) :=
  ExceptT.mk do return .ok (← reading.run)

/-- Gives a fault without a place the place reached. -/
def locate {α : Type} (reading : Reading α) : Reading α := do
  match ← attempt reading with
  | .ok value => pure value
  | .error ⟨fault, none⟩ => throw ⟨fault, some (← get).place⟩
  | .error failure => throw failure

/-- The next character, which stays unread. -/
def peek : Reading (Option Char) := do return (← get).rest.head?

/-- Reads one character. -/
def bump : Reading Unit := modify Cursor.next

/-- Reads blanks, then looks at the next character. -/
def peekToken : Reading (Option Char) := do
  let cursor ← get
  set ((cursor.rest.takeWhile isBlank).foldl (fun reached _ => Cursor.next reached) cursor)
  peek

/-- Reads the given characters, or fails where one differs. -/
def word : List Char → Reading Unit
  | [] => pure ()
  | wanted :: others => do
    match ← peek with
    | none => failAhead .endInValue
    | some character =>
      if character = wanted then bump; word others else failAhead .expectedWord

/-- Reads decimal digits as far as they go. -/
def digits : Reading (List Char) := do
  let cursor ← get
  let run := cursor.rest.takeWhile Char.isDigit
  set { cursor with
    rest := cursor.rest.drop run.length
    place := ⟨cursor.place.line, cursor.place.column + run.length⟩ }
  return run

/-- At least one digit is next; the end of the text is a fault of its own unless the value is skipped. -/
def wantDigit (skipping : Bool) : Reading Unit := do
  match ← peek with
  | none => failAhead (if skipping then .invalidNumber else .endInValue)
  | some character => if character.isDigit then pure () else failAhead .invalidNumber

/-- The parts of a number as written. -/
structure Spelling where
  negative : Bool
  whole : List Char
  fraction : List Char
  /-- Whether the power of ten is negative, and its digits. -/
  power : Option (Bool × List Char)

/-- Reads the power of ten, if there is one: whether it is negative, and its digits. -/
def powerPart (skipping : Bool) : Reading (Option (Bool × List Char)) := do
  match ← peek with
  | some 'e' | some 'E' =>
    bump
    let negative ←
      match ← peek with
      | some '+' => bump; pure false
      | some '-' => bump; pure true
      | _ => pure false
    wantDigit skipping
    return some (negative, ← digits)
  | _ => return none

/-- Reads the sign, if there is one: whether the number is negative. -/
def signPart : Reading Bool := do
  match ← peek with
  | some '-' => bump; return true
  | _ => return false

/-- Reads the digits before a point; a zero in front is the only one of them. -/
def wholePart (skipping : Bool) : Reading (List Char) := do
  wantDigit skipping
  match ← peek with
  | some '0' =>
    bump
    match ← peek with
    | some character => if character.isDigit then failAhead .invalidNumber else return ['0']
    | none => return ['0']
  | _ => digits

/-- Reads the digits after a point, if there is one. -/
def fractionPart (skipping : Bool) : Reading (List Char) := do
  match ← peek with
  | some '.' => bump; wantDigit skipping; digits
  | _ => return []

/-- Reads a number as it is written. -/
def spelling (skipping : Bool) : Reading Spelling := do
  return ⟨← signPart, ← wholePart skipping, ← fractionPart skipping, ← powerPart skipping⟩

/-- The digits as a number. -/
def digitValue (characters : List Char) : Nat :=
  characters.foldl (fun value character => 10 * value + (character.toNat - 48)) 0

/-- Appends digits to a significand while it fits in 64 bits; also gives the number of digits taken. -/
def accumulate (significand : Nat) : List Char → Nat × Nat
  | [] => (significand, 0)
  | character :: rest =>
    let larger := 10 * significand + (character.toNat - 48)
    if larger < UInt64.size then
      let (total, taken) := accumulate larger rest
      (total, taken + 1)
    else (significand, 0)

/-- The greatest power of ten that a table of exact powers holds. -/
def greatestTenth : Nat := 308

/-- A rounded significand times a power of ten, scaled in steps; none when the number is too large. -/
def scaleByTen (number : Binary64) (exponent : Int) : Nat → Option Binary64
  | 0 => some number
  | fuel + 1 =>
    if exponent.natAbs ≤ greatestTenth then
      if 0 ≤ exponent then
        match number.mul (Binary64.ofNat (Nat.pow 10 exponent.natAbs)) with
        | .infinite _ => none
        | product => some product
      else some (number.divNat (Nat.pow 10 exponent.natAbs))
    else
      match number with
      | .finite _ 0 _ => some number
      | _ =>
        if 0 ≤ exponent then none
        else scaleByTen (number.divNat (Nat.pow 10 greatestTenth)) (exponent + greatestTenth) fuel

/-- The significand of a spelled number that is no integer, and its power of ten without the written one. -/
def significandOf (spelled : Spelling) : Nat × Int :=
  let (whole, taken) := accumulate 0 spelled.whole
  let dropped := spelled.whole.length - taken
  let (significand, places) := accumulate whole spelled.fraction
  (significand, (dropped : Int) - (places : Int))

/-- The greatest power of ten that may be written out. -/
def greatestPower : Nat := 2147483647

/-- The number of digits after which a written power of ten passes the greatest one. -/
def overlongPower (characters : List Char) : Option Nat :=
  (List.range characters.length).map (· + 1) |>.find? fun count =>
    greatestPower < digitValue (characters.take count)

/-- The value of a spelled number: exact if it is an integer of 64 bits, otherwise rounded and scaled by ten. -/
def numberOf (spelled : Spelling) : Reading Json := do
  match spelled.fraction, spelled.power with
  | [], none =>
    let magnitude := digitValue spelled.whole
    if !spelled.negative && magnitude < UInt64.size then return .integer magnitude
    else if spelled.negative && 0 < magnitude && Word.least64 ≤ -magnitude then return .integer (-magnitude)
  | _, _ => pure ()
  let (significand, exponent) := significandOf spelled
  let signed (number : Binary64) : Json := .real (if spelled.negative then number.neg else number)
  let scaled (exponent : Int) : Reading Json :=
    match scaleByTen (Binary64.ofNat significand) exponent 8 with
    | some number => pure (signed number)
    | none => failHere .numberOutOfRange
  match spelled.power with
  | none => scaled exponent
  | some (negative, characters) =>
    match overlongPower characters with
    | some count =>
      if significand ≠ 0 && !negative then
        let unread := characters.length - count
        let place := (← get).place
        failAt .numberOutOfRange ⟨place.line, place.column - unread⟩
      else return signed (Binary64.zero false)
    | none =>
      let power : Int := digitValue characters
      let total := if negative then exponent - power else exponent + power
      scaled (max (-2147483648) (min total greatestPower))

/-- Reads a number. -/
def number : Reading Json := do numberOf (← spelling false)

/-- The value of a hexadecimal digit. -/
def hexDigit? (character : Char) : Option Nat :=
  if character.isDigit then some (character.toNat - 48)
  else if 'a' ≤ character && character ≤ 'f' then some (character.toNat - 87)
  else if 'A' ≤ character && character ≤ 'F' then some (character.toNat - 55)
  else none

/-- Reads four hexadecimal digits. -/
def hexUnit : Reading Nat := do
  let cursor ← get
  let bytes := (cursor.rest.take 4).foldl (fun count character => count + character.utf8Size) 0
  if bytes < 4 then
    set (cursor.skipBytes bytes cursor.rest)
    failHere .endInText
  else
    match cursor.rest with
    | first :: second :: third :: fourth :: _ =>
      match hexDigit? first, hexDigit? second, hexDigit? third, hexDigit? fourth with
      | some a, some b, some c, some d =>
        bump; bump; bump; bump
        return ((16 * a + b) * 16 + c) * 16 + d
      | _, _, _, _ =>
        set (cursor.skipBytes 4 cursor.rest)
        failHere .invalidEscape
    | _ =>
      set (cursor.skipBytes 4 cursor.rest)
      failHere .invalidEscape

/-- Reads the rest of an escaped pair of surrogates, given the leading one. -/
def trailingSurrogate (leading : Nat) : Reading Char := do
  match ← peek with
  | none => failHere .endInText
  | some '\\' => bump
  | some _ => failAhead .unfinishedSurrogate
  match ← peek with
  | none => failHere .endInText
  | some 'u' => bump
  | some _ => failAhead .unfinishedSurrogate
  let trailing ← hexUnit
  if trailing < 0xDC00 || 0xDFFF < trailing then failHere .loneSurrogate
  else return Char.ofNat ((leading - 0xD800) * 0x400 + (trailing - 0xDC00) + 0x10000)

/-- Reads what follows a backslash. -/
def escaped (skipping : Bool) : Reading Char := do
  match ← peek with
  | none => failHere .endInText
  | some '"' => bump; return '"'
  | some '\\' => bump; return '\\'
  | some '/' => bump; return '/'
  | some 'b' => bump; return Char.ofNat 8
  | some 'f' => bump; return Char.ofNat 12
  | some 'n' => bump; return '\n'
  | some 'r' => bump; return '\r'
  | some 't' => bump; return '\t'
  | some 'u' =>
    bump
    let unit ← hexUnit
    if skipping then return ' '
    else if 0xDC00 ≤ unit && unit ≤ 0xDFFF then failHere .loneSurrogate
    else if 0xD800 ≤ unit && unit ≤ 0xDBFF then trailingSurrogate unit
    else return Char.ofNat unit
  | some _ => failAhead .invalidEscape

/-- Reads the characters of a string and its closing quote. -/
def textBody (skipping : Bool) : Nat → List Char → Reading String
  | 0, _ => failHere .endInText
  | fuel + 1, collected => do
    match ← peek with
    | none => failHere .endInText
    | some '"' => bump; return String.ofList collected.reverse
    | some '\\' =>
      bump
      let character ← escaped skipping
      textBody skipping fuel (character :: collected)
    | some character =>
      if character.toNat < 32 then failAhead .controlCharacter
      else
        bump
        textBody skipping fuel (character :: collected)

/-- A number of steps that suffices for reading the rest of the text. -/
def fuel : Reading Nat := do return (← get).size + 1

/-- Reads a string whose opening quote is next. -/
def textToken : Reading String := do
  bump
  textBody false (← fuel) []

/--
Reads a list or object whose opening bracket is next: its body and its end, of which the body's fault counts first.
-/
def delimited {α : Type} (body : Reading α) (ending : Reading Unit) : Reading α := do
  let cursor ← get
  if cursor.levels ≤ 1 then failAhead .tooDeep
  else
    set { cursor.next with levels := cursor.levels - 1 }
    let outcome ← attempt body
    let closing ← attempt ending
    modify fun reached => { reached with levels := cursor.levels }
    match outcome, closing with
    | .ok value, .ok () => pure value
    | .error failure, _ => throw failure
    | .ok _, .error failure => throw failure

/-- Reads the end of a list. -/
def listEnd : Reading Unit := do
  match ← peekToken with
  | some ']' => bump
  | some ',' =>
    bump
    match ← peekToken with
    | some ']' => failAhead .trailingComma
    | _ => failAhead .trailingCharacters
  | some _ => failAhead .trailingCharacters
  | none => failAhead .endInList

/-- The closing brace. -/
def closingBrace : Char := Char.ofNat 0x7d

/-- The opening brace. -/
def openingBrace : Char := Char.ofNat 0x7b

/-- Reads the end of an object. -/
def objectEnd : Reading Unit := do
  match ← peekToken with
  | none => failAhead .endInObject
  | some character =>
    if character = closingBrace then bump
    else if character = ',' then failAhead .trailingComma
    else failAhead .trailingCharacters

/-- Another item follows in a list. -/
def moreItems (first : Bool) : Reading Bool := do
  match ← peekToken with
  | none => failAhead .endInList
  | some ']' => return false
  | some ',' =>
    if first then return true
    else
      bump
      match ← peekToken with
      | some ']' => failAhead .trailingComma
      | some _ => return true
      | none => failAhead .endInValue
  | some _ => if first then return true else failAhead .expectedListSeparator

/-- The key of the next member of an object, none at its end. -/
def nextKey (first : Bool) : Reading (Option String) := do
  match ← peekToken with
  | none => failAhead .endInObject
  | some character =>
    if character = closingBrace then return none
    else if character = ',' && !first then
      bump
      match ← peekToken with
      | none => failAhead .endInValue
      | some '"' => return some (← textToken)
      | some other =>
        if other = closingBrace then failAhead .trailingComma else failAhead .keyIsNoText
    else if first then
      if character = '"' then return some (← textToken) else failAhead .keyIsNoText
    else failAhead .expectedObjectSeparator

/-- Reads the colon after a key. -/
def colon : Reading Unit := do
  match ← peekToken with
  | some ':' => bump
  | some _ => failAhead .expectedColon
  | none => failAhead .endInObject

/-- Reads all items of a list up to its end. -/
def itemsWith {α : Type} (item : Reading α) : Nat → Bool → Reading (List α)
  | 0, _ => failHere .endInList
  | steps + 1, first => do
    if ← moreItems first then
      let head ← item
      return head :: (← itemsWith item steps false)
    else return []

/-- Reads all members of an object up to its end; each key and the text after it change a state. -/
def membersWith {σ : Type} (member : σ → String → Reading σ) : Nat → Bool → σ → Reading σ
  | 0, _, _ => failHere .endInObject
  | steps + 1, first, state => do
    match ← nextKey first with
    | none => return state
    | some key => membersWith member steps false (← member state key)

/-- Reads any value. -/
def value : Nat → Reading Json
  | 0 => failHere .endInValue
  | steps + 1 => do
    match ← peekToken with
    | none => failAhead .endInValue
    | some 'n' => bump; word "ull".toList; return .null
    | some 't' => bump; word "rue".toList; return .boolean true
    | some 'f' => bump; word "alse".toList; return .boolean false
    | some '"' => return .text (← textToken)
    | some '[' =>
      return .array (← delimited (do itemsWith (value steps) (← fuel) true) listEnd)
    | some character =>
      if character = openingBrace then
        let member (members : List (String × Json)) (key : String) : Reading (List (String × Json)) := do
          colon
          return (key, ← value steps) :: members
        let members ← delimited (do membersWith member (← fuel) true []) objectEnd
        return .object members.reverse
      else if character = '-' || character.isDigit then number
      else failAhead .expectedValue

/-- Reads the characters of a string that nobody asked for. -/
def skipText : Reading Unit := do
  bump
  let _ ← textBody true (← fuel) []

mutual

/-- Reads a value that nobody asked for. -/
def skipValue : Nat → Reading Unit
  | 0 => failHere .endInValue
  | steps + 1 => do
    match ← peekToken with
    | none => failAhead .endInValue
    | some 'n' => bump; word "ull".toList
    | some 't' => bump; word "rue".toList
    | some 'f' => bump; word "alse".toList
    | some '"' => skipText
    | some '[' => bump; skipItems steps true
    | some character =>
      if character = openingBrace then bump; skipMembers steps true
      else if character = '-' || character.isDigit then
        let _ ← spelling true
      else failAhead .expectedValue

/-- Reads the items of a list that nobody asked for, and its end. -/
def skipItems : Nat → Bool → Reading Unit
  | 0, _ => failHere .endInList
  | steps + 1, first => do
    match ← peekToken with
    | none => failAhead .endInList
    | some ']' => bump
    | some ',' =>
      if first then skipValue steps
      else
        bump
        skipValue steps
      skipItems steps false
    | some _ =>
      if first then
        skipValue steps
        skipItems steps false
      else failAhead .expectedListSeparator

/-- Reads the members of an object that nobody asked for, and its end. -/
def skipMembers : Nat → Bool → Reading Unit
  | 0, _ => failHere .endInObject
  | steps + 1, first => do
    match ← peekToken with
    | none => failAhead .endInObject
    | some character =>
      if character = closingBrace then bump
      else if !first && character ≠ ',' then failAhead .expectedObjectSeparator
      else
        if !first then bump
        match ← peekToken with
        | some '"' => skipText
        | some _ => failAhead .keyIsNoText
        | none => failAhead .endInObject
        colon
        skipValue steps
        skipMembers steps false

end

/-- Nothing but blanks is left. -/
def textEnd : Reading Unit := do
  match ← peekToken with
  | none => pure ()
  | some _ => failAhead .trailingCharacters

/-- Reads a whole text. -/
def whole {α : Type} (reading : Reading α) (text : String) : Except DecodeError α :=
  let complete : Reading α := do
    let result ← reading
    textEnd
    return result
  (complete.run.run (Cursor.start text)).1

end Reading

/-- The value that a text describes. -/
def parse (text : String) : Except DecodeError Json :=
  Reading.whole (do Reading.value (← Reading.fuel)) text

end LedgerService.Json
