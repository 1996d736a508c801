import LedgerService.Failure
import LedgerService.Text.Octets
import LedgerService.Text.Quoted

/-!
# Locations of databases

Where a database lives: in memory, or in a file. A location is written as a URL whose query part chooses how the
database is opened.
-/

namespace LedgerService

/-- Where a database lives and how it is opened. -/
structure StoreLocation where
  /-- The path of the file, or none for a database in memory. -/
  path : Option String
  readOnly : Bool
  /-- The name of the file system layer, if it is not the usual one. -/
  layer : Option String
deriving DecidableEq, Repr, Inhabited

namespace StoreLocation

/-- The text without repetitions of a beginning. -/
def withoutLeading (beginning : List Char) (text : List Char) : List Char :=
  if _shorter : beginning ≠ [] ∧ beginning.isPrefixOf text then
    withoutLeading beginning (text.drop beginning.length)
  else text
termination_by text.length
decreasing_by
  have positive : 0 < beginning.length := List.length_pos_iff.mpr _shorter.1
  have inside : beginning.length ≤ text.length := (List.isPrefixOf_iff_prefix.mp _shorter.2).length_le
  simp only [List.length_drop]
  omega

/-- A failure to understand a location. -/
def misconfigured (reason : String) : Failure := .database ("error with configuration: " ++ reason)

/-- A query parameter, decoded: `+` stands for a blank, and `%` introduces an octet. -/
def parameterText (part : String) : String :=
  Octets.lenient (Octets.percentDecoded
    ((Octets.ofText part).map fun octet => if octet = 0x2b then 0x20 else octet))

/-- The parameters of a query, in order. -/
def parameters (query : String) : List (String × String) :=
  (query.splitOn "&").filterMap fun part =>
    if part.isEmpty then none
    else
      let (key, value) := part.toList.span (· ≠ '=')
      some (parameterText (String.ofList key), parameterText (String.ofList value.tail))

/-- The failure of a parameter whose value is none of those that it may have. -/
def unknownValue (key value : String) : Failure :=
  misconfigured ("unknown value " ++ Text.quoted value ++ " for \x60" ++ key ++ "\x60")

/-- Applies one parameter. -/
def applyParameter (location : StoreLocation) : String × String → Except Failure StoreLocation
  | ("mode", "ro") => .ok { location with readOnly := true }
  | ("mode", "rw") | ("mode", "rwc") => .ok location
  | ("mode", "memory") => .ok { location with path := none }
  | ("cache", "private") | ("cache", "shared") => .ok location
  | ("immutable", "true") | ("immutable", "1") | ("immutable", "false") | ("immutable", "0") => .ok location
  | ("vfs", name) => .ok { location with layer := some name }
  | ("mode", value) => .error (unknownValue "mode" value)
  | ("cache", value) => .error (unknownValue "cache" value)
  | ("immutable", value) => .error (unknownValue "immutable" value)
  | (key, _) =>
    .error (misconfigured ("unknown query parameter \x60" ++ key ++ "\x60 while parsing connection URL"))

/-- The location without its parameters. -/
def ofDatabase (database : String) : Except Failure StoreLocation :=
  if database = ":memory:" then .ok ⟨none, false, none⟩
  else
    match Octets.strict (Octets.percentDecoded (Octets.ofText database)) with
    | .ok path => .ok ⟨some path, false, none⟩
    | .error reason => .error (misconfigured reason)

/-- The location that a URL describes. -/
def parse (url : String) : Except Failure StoreLocation := do
  let body := withoutLeading "sqlite:".toList (withoutLeading "sqlite://".toList url.toList)
  let (database, query) := body.span (· ≠ '?')
  let location ← ofDatabase (String.ofList database)
  (parameters (String.ofList query.tail)).foldlM applyParameter location

/-- The layers that there are. -/
def layers : List String := ["unix", "unix-none", "unix-dotfile", "unix-excl", "memdb"]

/-- The directory of a path: all before its last `/`. -/
def directory (path : String) : String :=
  String.ofList ((path.toList.reverse.dropWhile (· ≠ '/')).reverse)

/-- The directories in which a file can be made: the current one and the one for temporary files. -/
def writableDirectories : List String := ["", "./", "/tmp/"]

/-- The paths that name a directory. -/
def directoryNames : List String := ["/tmp/", "./", "."]

/-- A file can be made at the path. -/
def accessible (path : String) : Bool :=
  writableDirectories.contains (directory path) && !directoryNames.contains path

/-- The failure to open a database that no file can hold. -/
def unopenable : Failure := .database "Database error [14]: unable to open database file"

/-- The failure to change a database that is only read. -/
def unwritable : Failure := .database "Database error [8]: attempt to write a readonly database"

/-- The reason why a database cannot be opened there, if there is one. -/
def refusal? (location : StoreLocation) : Option Failure :=
  match location.layer with
  | some name =>
    if layers.contains name then placeRefusal?
    else some (.database ("Database error [1]: no such vfs: " ++ name))
  | none => placeRefusal?
where
  /-- The reason that lies in the path. -/
  placeRefusal? : Option Failure :=
    match location.path with
    | none => none
    | some path => if accessible path && !(location.readOnly && path ≠ "") then none else some unopenable

/-- The location that a URL describes, if a database can be opened there. -/
def connect (url : String) : Except Failure StoreLocation := do
  let location ← parse url
  match location.refusal? with
  | none => return location
  | some failure => throw failure

end StoreLocation

end LedgerService
