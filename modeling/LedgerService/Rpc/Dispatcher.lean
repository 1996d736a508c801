/-!
# Dispatchers

Handlers by the name of their method. A name keeps the first handler that was put in under it.
-/

namespace LedgerService

/-- Handlers under distinct names, in the order in which they were put in. -/
structure Dispatcher (α : Type) where
  entries : List (String × α)
deriving Repr, Inhabited

namespace Dispatcher

variable {α : Type}

/-- A dispatcher without handlers. -/
def empty : Dispatcher α := ⟨[]⟩

/-- The handler of a method. -/
def find? (dispatcher : Dispatcher α) (name : String) : Option α :=
  (dispatcher.entries.find? fun entry => entry.1 == name).map Prod.snd

/-- Puts in a handler unless its name is taken; tells whether it was put in. -/
def insert (dispatcher : Dispatcher α) (name : String) (handler : α) : Dispatcher α × Bool :=
  if (dispatcher.find? name).isSome then (dispatcher, false)
  else (⟨dispatcher.entries ++ [(name, handler)]⟩, true)

/-- The names in the order in which they were put in. -/
def names (dispatcher : Dispatcher α) : List String := dispatcher.entries.map Prod.fst

/-- The names in alphabetical order. -/
def sortedNames (dispatcher : Dispatcher α) : List String :=
  dispatcher.names.mergeSort fun left right => decide (left ≤ right)

/-- The number of handlers. -/
def size (dispatcher : Dispatcher α) : Nat := dispatcher.entries.length

end Dispatcher

end LedgerService
