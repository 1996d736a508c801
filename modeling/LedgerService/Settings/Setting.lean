import LedgerService.Text.Casing
import LedgerService.Toml.Value

/-!
# Settings

A tree of settings gathered from several sources. Keys do not depend on the case of their letters. A later setting
takes the place of an earlier one, but tables are merged.
-/

namespace LedgerService

/-- A setting. -/
inductive Setting where
  | absent
  | boolean (value : Bool)
  | integer (value : Int)
  | real (value : Binary64)
  | text (value : String)
  | list (items : List Setting)
  | table (entries : List (String × Setting))
deriving Repr, Inhabited

namespace Setting

mutual

/-- The setting that a TOML value describes. -/
def ofToml : Toml → Setting
  | .text value => .text value
  | .integer value => .integer value
  | .real value => .real value
  | .boolean value => .boolean value
  | .moment shown => .text shown
  | .array items => .list (ofItems items)
  | .table entries => .table (ofEntries entries)

/-- The settings that the items of an array describe. -/
def ofItems : List Toml → List Setting
  | [] => []
  | item :: rest => ofToml item :: ofItems rest

/-- The settings that the entries of a table describe. -/
def ofEntries : List (String × Toml) → List (String × Setting)
  | [] => []
  | (key, value) :: rest => (key, ofToml value) :: ofEntries rest

end

/-- The entries of a table; anything else has none. -/
def entries : Setting → List (String × Setting)
  | .table entries => entries
  | _ => []

/-- The items of a list; anything else has none. -/
def items : Setting → List Setting
  | .list items => items
  | _ => []

/-- The setting under a key. -/
def find? (setting : Setting) (key : String) : Option Setting := setting.entries.lookup key

/-- The entries with a setting under a key, in the place of the one that is there or at the end. -/
def putEntry (key : String) (value : Setting) : List (String × Setting) → List (String × Setting)
  | [] => [(key, value)]
  | (otherKey, other) :: rest =>
    if otherKey = key then (key, value) :: rest else (otherKey, other) :: putEntry key value rest

/-- The table with a setting under a key; anything else becomes a table first. -/
def put (setting : Setting) (key : String) (value : Setting) : Setting :=
  .table (putEntry key value setting.entries)

mutual

/-- The table with a setting under a key, into which a table is merged. -/
def assign (setting : Setting) (key : String) : Setting → Setting
  | .table inner =>
    let key := Text.lowerCase key
    setting.put key (assignAll ((setting.find? key).getD (.table [])) inner)
  | value => setting.put (Text.lowerCase key) value

/-- The table with several settings, one after the other. -/
def assignAll (setting : Setting) : List (String × Setting) → Setting
  | [] => setting
  | (key, value) :: rest => assignAll (setting.assign key value) rest

end

/-- A step on a path into a setting. -/
inductive PathStep where
  | child (key : String)
  | item (index : Int)
deriving DecidableEq, Repr, Inhabited

/-- A character of a key in a path. -/
def isPathCharacter (character : Char) : Bool :=
  character.isAlphanum || character = '_' || character = '-' || character = ' '

/-- A key at the front of a path, and what follows it. -/
def pathKey (characters : List Char) : Option (String × List Char) :=
  let (key, rest) := characters.span isPathCharacter
  if key.isEmpty then none else some (String.ofList key, rest)

/-- The steps that follow the first key of a path: `.key` or `[index]`. -/
def pathSteps : Nat → List Char → Option (List PathStep)
  | _, [] => some []
  | 0, _ => none
  | fuel + 1, '.' :: rest => do
    let (key, rest) ← pathKey rest
    return .child key :: (← pathSteps fuel rest)
  | fuel + 1, '[' :: rest => do
    let (index, rest) := rest.span (· ≠ ']')
    let index ← Decimal.integer? index
    match rest with
    | _ :: rest => return .item index :: (← pathSteps fuel rest)
    | [] => none
  | _, _ => none

/-- The first key of a path and the steps that follow it; a text that is no path is a key as it stands. -/
def path (text : String) : String × List PathStep :=
  let steps := do
    let (key, rest) ← pathKey text.toList
    return (key, ← pathSteps rest.length rest)
  steps.getD (text, [])

/-- The position that an index names in a list; a negative index counts from the end. -/
def position (index : Int) (length : Nat) : Nat :=
  if 0 ≤ index then index.toNat else length - index.natAbs

/-- Changes the setting at a position of a list; anything else becomes a list first, long enough for the position. -/
def changeItem (setting : Setting) (index : Int) (change : Setting → Setting) : Setting :=
  let items := setting.items
  let place := position index items.length
  let longer := items ++ List.replicate (place + 1 - items.length) .absent
  .list (longer.modify place change)

/-- Changes what a path leads to; what is not there is made. -/
def change (change : Setting → Setting) : List PathStep → Setting → Setting
  | [], setting => change setting
  | .child key :: steps, setting =>
    setting.put key (Setting.change change steps ((setting.find? key).getD .absent))
  | .item index :: steps, setting => setting.changeItem index (Setting.change change steps)

/-- The table with a setting at the place that a path names. -/
def assignPath (setting : Setting) (text : String) (value : Setting) : Setting :=
  let (key, steps) := path text
  match steps.getLast? with
  | none => setting.assign key value
  | some last =>
    let place (parent : Setting) : Setting :=
      match last with
      | .child key => parent.assign key value
      | .item index => parent.changeItem index fun _ => value
    let key := Text.lowerCase key
    setting.put key (change place steps.dropLast ((setting.find? key).getD .absent))

end Setting

end LedgerService
