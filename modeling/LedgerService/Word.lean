/-!
# Words

The ranges of the numbers of a fixed width.
-/

namespace LedgerService.Word

/-- The least signed number of 64 bits. -/
abbrev least64 : Int := -9223372036854775808

/-- The greatest signed number of 64 bits. -/
abbrev most64 : Int := 9223372036854775807

/-- The greatest unsigned number of 32 bits. -/
abbrev unsigned32 : Nat := UInt32.size - 1

/-- The greatest unsigned number of 64 bits. -/
abbrev unsigned64 : Nat := UInt64.size - 1

end LedgerService.Word
