/-!
# Octets as text

Octets are read as UTF-8, one character at a time. Where they form no character, the longest beginning of one is
taken as a whole; what is wrong with it decides the wording, and a lenient reader puts one replacement character
in its place.
-/

namespace LedgerService.Octets

/-- What stands at the front of some octets. -/
inductive Front where
  | character (value : Char) (width : Nat)
  /-- So many octets that begin a character which the next octet does not continue. -/
  | malformed (width : Nat)
  /-- The octets end within a character. -/
  | truncated

/-- The octets that may follow the first octet of a character of several octets, and its length. -/
def secondOctet? (first : Nat) : Option (Nat × Nat × Nat) :=
  if first < 0xc2 then none
  else if first < 0xe0 then some (0x80, 0xbf, 2)
  else if first = 0xe0 then some (0xa0, 0xbf, 3)
  else if first = 0xed then some (0x80, 0x9f, 3)
  else if first < 0xf0 then some (0x80, 0xbf, 3)
  else if first = 0xf0 then some (0x90, 0xbf, 4)
  else if first < 0xf4 then some (0x80, 0xbf, 4)
  else if first = 0xf4 then some (0x80, 0x8f, 4)
  else none

/-- The character of the given first octet and continuation octets. -/
def assemble (first : Nat) (continuation : List Nat) : Char :=
  let lead := first % (1 <<< (6 - continuation.length))
  Char.ofNat (continuation.foldl (fun value octet => value * 64 + octet % 64) lead)

/-- Continues a character of which some octets have been taken, the last one first. -/
def continueFront (first : Nat) (taken : List Nat) : Nat → List UInt8 → Front
  | 0, _ => .character (assemble first taken.reverse) (taken.length + 1)
  | _ + 1, [] => .truncated
  | missing + 1, octet :: rest =>
    if 0x80 ≤ octet.toNat && octet.toNat ≤ 0xbf then continueFront first (octet.toNat :: taken) missing rest
    else .malformed (taken.length + 1)

/-- What stands at the front of octets whose first one is given. -/
def front (first : UInt8) (rest : List UInt8) : Front :=
  if first < 0x80 then .character (Char.ofNat first.toNat) 1
  else
    match secondOctet? first.toNat with
    | none => .malformed 1
    | some (lower, upper, width) =>
      match rest with
      | [] => .truncated
      | second :: others =>
        if lower ≤ second.toNat && second.toNat ≤ upper then
          continueFront first.toNat [second.toNat] (width - 2) others
        else .malformed 1

/-- The character put where octets form none. -/
def replacement : Char := Char.ofNat 0xfffd

/-- The characters read so far, and how many octets of them are still to be passed over. -/
def lenientFrom : Nat → List UInt8 → List Char
  | _, [] => []
  | skipped + 1, _ :: rest => lenientFrom skipped rest
  | 0, first :: rest =>
    match front first rest with
    | .character value width => value :: lenientFrom (width - 1) rest
    | .malformed width => replacement :: lenientFrom (width - 1) rest
    | .truncated => [replacement]

/-- The text of octets, with a replacement character for each malformed sequence. -/
def lenient (octets : List UInt8) : String := String.ofList (lenientFrom 0 octets)

/-- The characters from a position on, or what is wrong with the octets. -/
def strictFrom : (position skipped : Nat) → List UInt8 → Except String (List Char)
  | _, _, [] => .ok []
  | position, skipped + 1, _ :: rest => strictFrom (position + 1) skipped rest
  | position, 0, first :: rest =>
    match front first rest with
    | .character value width => do return value :: (← strictFrom (position + 1) (width - 1) rest)
    | .malformed width =>
      .error ("invalid utf-8 sequence of " ++ toString width ++ " bytes from index " ++ toString position)
    | .truncated => .error ("incomplete utf-8 byte sequence from index " ++ toString position)

/-- The text of octets, or what is wrong with them. -/
def strict (octets : List UInt8) : Except String String := do
  return String.ofList (← strictFrom 0 0 octets)

/-- The value of a hexadecimal digit. -/
def hexDigit? (octet : UInt8) : Option UInt8 :=
  if 0x30 ≤ octet && octet ≤ 0x39 then some (octet - 0x30)
  else if 0x41 ≤ octet && octet ≤ 0x46 then some (octet - 0x37)
  else if 0x61 ≤ octet && octet ≤ 0x66 then some (octet - 0x57)
  else none

/-- The octets in which each `%` with two hexadecimal digits is replaced by the octet that it stands for. -/
def percentDecoded : List UInt8 → List UInt8
  | first :: second :: third :: rest =>
    if first = 0x25 then
      match hexDigit? second, hexDigit? third with
      | some high, some low => (high * 16 + low) :: percentDecoded rest
      | _, _ => first :: percentDecoded (second :: third :: rest)
    else first :: percentDecoded (second :: third :: rest)
  | short => short
termination_by octets => octets.length

/-- The octets of a text. -/
def ofText (text : String) : List UInt8 := text.toUTF8.toList

end LedgerService.Octets
