import LedgerService.Proofs.Rpc.Walk

/-!
# What a cursor says

A cursor is a numeral (`Text.numeral_eq_ok`), and a request is refused for four reasons only (`LedgersRequest.Amiss`,
`LedgersRequest.page_cases`). A page from a start on begins there, and a page with a cursor resumes behind the sequence
that the cursor names (`PageBounds.Resumes`). The greatest sequence has no successor: a request that names it starts at
it, so that it is given that ledger once more or, with an empty page, a cursor that steps back
(`PageBounds.ledgers_greatest`). For every other cursor the page resumes, and the cursor never steps back
(`page_resumes_iff`).
-/

namespace LedgerService

open ClosedLedger (since)

namespace Text

/-- The text is the number in decimal digits; a plus sign may stand in front. -/
def Denotes (text : String) (number : Nat) : Prop :=
  ∃ digits : List Char, digits ≠ [] ∧ (∀ character ∈ digits, character.isDigit = true) ∧
    (text.toList = digits ∨ text.toList = '+' :: digits) ∧ Nat.ofDigitChars 10 digits 0 = number

theorem addDigit_eq_ok {bound value larger : Nat} {character : Char}
    (added : addDigit bound value character = .ok larger) :
    character.isDigit = true ∧ 10 * value + (character.toNat - '0'.toNat) = larger ∧ larger < bound := by
  rw [addDigit] at added
  split at added
  case isTrue => cases added
  case isFalse decimal =>
    dsimp only at added
    split at added
    case isTrue small =>
      have same := Except.ok.inj added
      rw [same] at small
      exact ⟨by simpa using decimal, by rw [Nat.mul_comm]; exact same, small⟩
    case isFalse => cases added

theorem foldlM_addDigit_eq_ok {bound : Nat} {digits : List Char} {value number : Nat} (below : value < bound) :
    digits.foldlM (addDigit bound) value = .ok number ↔
      (∀ character ∈ digits, character.isDigit = true) ∧ Nat.ofDigitChars 10 digits value = number ∧
        number < bound := by
  constructor
  · intro read
    induction digits generalizing value with
    | nil =>
        cases read
        exact ⟨nofun, rfl, below⟩
    | cons digit others ih =>
        rw [List.foldlM_cons] at read
        cases added : addDigit bound value digit with
        | error fault =>
            rw [added] at read
            cases read
        | ok larger =>
            rw [added] at read
            rcases addDigit_eq_ok added with ⟨decimal, same, small⟩
            rcases ih small read with ⟨rest, whole, bounded⟩
            refine ⟨List.forall_mem_cons.mpr ⟨decimal, rest⟩, ?_, bounded⟩
            rw [Nat.ofDigitChars_cons, same]
            exact whole
  · rintro ⟨decimal, rfl, bounded⟩
    exact foldlM_addDigit decimal bounded

/-- A text is read as the number that it denotes, if that is below the bound. -/
theorem numeral_eq_ok {bound : Nat} (positive : 0 < bound) {text : String} {number : Nat} :
    numeral bound text = .ok number ↔ Denotes text number ∧ number < bound := by
  rw [numeral]
  constructor
  · intro read
    split at read
    case h_1 => cases read
    case h_2 => cases read
    case h_3 digits different plus =>
      rcases (foldlM_addDigit_eq_ok positive).mp read with ⟨decimal, whole, bounded⟩
      exact ⟨⟨digits, fun empty => different empty, decimal, .inr plus, whole⟩, bounded⟩
    case h_4 nonempty _ _ =>
      rcases (foldlM_addDigit_eq_ok positive).mp read with ⟨decimal, whole, bounded⟩
      exact ⟨⟨_, fun empty => nonempty empty, decimal, .inl rfl, whole⟩, bounded⟩
  · rintro ⟨⟨digits, nonempty, decimal, written, whole⟩, bounded⟩
    have read := (foldlM_addDigit_eq_ok positive).mpr ⟨decimal, whole, bounded⟩
    have unsigned : '+' ∉ digits := fun member => absurd (decimal '+' member) (by decide)
    rcases written with plain | plus
    · rw [plain]
      split
      case h_1 => exact absurd rfl nonempty
      case h_2 => exact absurd (List.mem_singleton_self _) unsigned
      case h_3 => exact absurd List.mem_cons_self unsigned
      case h_4 => exact read
    · rw [plus]
      split
      case h_1 none => cases none
      case h_2 alone => exact absurd (List.cons.inj alone).2 nonempty
      case h_3 same =>
        rw [← (List.cons.inj same).2]
        exact read
      case h_4 signless => exact absurd rfl (signless digits)

end Text

theorem cursorSequence_eq_ok {cursor : String} {sequence : UInt32} :
    cursorSequence cursor = .ok sequence ↔ Text.Denotes cursor sequence.toNat := by
  have numeral {number : Nat} : Text.numeral UInt32.size cursor = .ok number ↔
      Text.Denotes cursor number ∧ number < UInt32.size := Text.numeral_eq_ok (by decide)
  rw [cursorSequence]
  constructor
  · intro read
    split at read
    case h_1 number found =>
      rcases numeral.mp found with ⟨denoted, small⟩
      rw [← Except.ok.inj read, UInt32.toNat_ofNat_of_lt' small]
      exact denoted
    case h_2 => cases read
  · intro denoted
    rw [numeral.mpr ⟨denoted, sequence.toNat_lt⟩]
    exact congrArg Except.ok UInt32.ofNat_toNat

theorem cursorSequence_eq_error {cursor : String} {error : RequestError} (read : cursorSequence cursor = .error error) :
    ∃ text, error = .invalidParams text := by
  rw [cursorSequence] at read
  split at read
  case h_1 => cases read
  case h_2 => exact ⟨_, (Except.error.inj read).symm⟩

namespace LedgersRequest

/-- The cursor that a request gives, if any. -/
def cursor? (request : LedgersRequest) : Option String := request.pagination.bind Pagination.cursor

/-- The number of ledgers that a request asks for, or zero. -/
def requested (request : LedgersRequest) : UInt32 := (request.pagination.map Pagination.limit).getD 0

/-- The number of ledgers that a page of the request may have. -/
def size (request : LedgersRequest) (limits : PageLimits) : Nat :=
  if request.requested = 0 then limits.usual.toNat else request.requested.toNat

/-- The start of a request is astray if a cursor is given with it, is no number of 32 bits, or leaves the range. -/
def Astray (request : LedgersRequest) (range : SequenceRange) : Prop :=
  (request.cursor?.isSome = true ∧ request.startLedger ≠ 0) ∨
    (∃ cursor ∈ request.cursor?, ∀ number : UInt32, ¬Text.Denotes cursor number.toNat) ∨
    (request.cursor? = none ∧ ¬(range.first ≤ request.startLedger ∧ request.startLedger ≤ range.last))

/-- A sequence where the pages of a request may start. -/
def Starts (request : LedgersRequest) (start : UInt32) : Prop :=
  (request.cursor? = none ∧ start = request.startLedger) ∨
    ∃ cursor ∈ request.cursor?, ∃ number : UInt32, Text.Denotes cursor number.toNat ∧ start = successor number

namespace Starts

variable {request : LedgersRequest} {start : UInt32}

theorem eq_startLedger (starts : request.Starts start) (absent : request.cursor? = none) :
    start = request.startLedger := by
  rcases starts with ⟨-, same⟩ | ⟨cursor, given, -⟩
  · exact same
  · rw [absent] at given
    cases given

theorem eq_successor (starts : request.Starts start) {cursor : String} (given : cursor ∈ request.cursor?)
    {number : UInt32} (denoted : Text.Denotes cursor number.toNat) : start = successor number := by
  rcases starts with ⟨absent, -⟩ | ⟨other, found, same, denotes, rfl⟩
  · rw [absent] at given
    cases given
  · rw [given] at found
    rw [← Option.some.inj found] at denotes
    -- both numbers are what the cursor is read as
    have read := (cursorSequence_eq_ok.mpr denotes).symm.trans (cursorSequence_eq_ok.mpr denoted)
    rw [Except.ok.inj read]

end Starts

variable (request : LedgersRequest) (limits : PageLimits) (range : SequenceRange)

theorem page_eq_bind :
    request.page limits range =
      (limits.chosen request.requested >>= fun limit =>
        (fun start => ⟨start, limit⟩) <$> request.start request.cursor? range) := by
  rcases request with ⟨start, _ | ⟨cursor, limit⟩⟩ <;> rfl

theorem chosen_cases :
    (limits.greatest < request.requested ∧ ∃ text, limits.chosen request.requested = .error (.invalidParams text)) ∨
    (¬limits.greatest < request.requested ∧
      ∃ limit, limits.chosen request.requested = .ok limit ∧ limit.toNat = request.size limits) := by
  rw [PageLimits.chosen, size]
  split
  case isTrue usual =>
    rw [usual]
    exact .inr ⟨UInt32.not_lt.mpr UInt32.zero_le, limits.usual, rfl, rfl⟩
  case isFalse =>
    split
    case isTrue exceeds => exact .inl ⟨exceeds, _, rfl⟩
    case isFalse allowed => exact .inr ⟨allowed, request.requested, rfl, rfl⟩

theorem start_cases :
    (request.Astray range ∧ ∃ text, request.start request.cursor? range = .error (.invalidParams text)) ∨
    (¬request.Astray range ∧ ∃ start, request.start request.cursor? range = .ok start ∧ request.Starts start) := by
  unfold Astray Starts
  cases request.cursor? with
  | none =>
      rw [start]
      split
      case isTrue outside =>
        have excluded : ¬(range.first ≤ request.startLedger ∧ request.startLedger ≤ range.last) := by
          simpa [UInt32.not_le, or_iff_not_imp_left, UInt32.not_lt] using outside
        exact .inl ⟨.inr (.inr ⟨rfl, excluded⟩), _, rfl⟩
      case isFalse inside =>
        have included : range.first ≤ request.startLedger ∧ request.startLedger ≤ range.last := by
          simpa [UInt32.not_lt] using inside
        exact .inr ⟨by simp [included], request.startLedger, rfl, .inl ⟨rfl, rfl⟩⟩
  | some cursor =>
      rw [start]
      split
      case isTrue started => exact .inl ⟨.inl ⟨rfl, started⟩, _, rfl⟩
      case isFalse unstarted =>
        cases read : cursorSequence cursor with
        | error error =>
            rcases cursorSequence_eq_error read with ⟨text, rfl⟩
            refine .inl ⟨.inr (.inl ⟨cursor, rfl, ?_⟩), text, rfl⟩
            intro number denoted
            rw [cursorSequence_eq_ok.mpr denoted] at read
            cases read
        | ok number =>
            have denoted := cursorSequence_eq_ok.mp read
            refine .inr ⟨?_, successor number, rfl, .inr ⟨cursor, rfl, number, denoted, rfl⟩⟩
            rintro (⟨-, started⟩ | ⟨other, given, undenoted⟩ | ⟨absent, -⟩)
            · exact unstarted started
            · rw [← Option.some.inj given] at undenoted
              exact undenoted number denoted
            · cases absent

/-- A request is amiss if it asks for more ledgers than it may or if its start is astray. -/
def Amiss : Prop := limits.greatest < request.requested ∨ request.Astray range

theorem page_cases :
    (request.Amiss limits range ∧ ∃ text, request.page limits range = .error (.invalidParams text)) ∨
    (¬request.Amiss limits range ∧
      ∃ bounds, request.page limits range = .ok bounds ∧ bounds.limit.toNat = request.size limits ∧
        request.Starts bounds.start) := by
  rw [page_eq_bind, Amiss]
  rcases request.chosen_cases limits with ⟨exceeds, text, chosen⟩ | ⟨allowed, limit, chosen, size⟩
  · exact .inl ⟨.inl exceeds, text, by rw [chosen]; rfl⟩
  · rw [chosen]
    rcases request.start_cases range with ⟨astray, text, found⟩ | ⟨straight, start, found, starts⟩
    · exact .inl ⟨.inr astray, text, by rw [found]; rfl⟩
    · exact .inr ⟨not_or.mpr ⟨allowed, straight⟩, ⟨start, limit⟩, by rw [found]; rfl, size, starts⟩

end LedgersRequest

namespace PageBounds

variable {bounds : PageBounds} {stored : List ClosedLedger} {number : UInt32}

/-- A page with its cursor resumes behind a sequence with the first ledgers that come later, up to a number of them. -/
structure Resumes (stored : List ClosedLedger) (number : UInt32) (size : Nat) (page : List ClosedLedger)
    (cursor : UInt32) : Prop where
  ledgers : page = (stored.filter fun ledger => number < ledger.sequence).take size
  position : cursor = (page.getLast?.map ClosedLedger.sequence).getD number

theorem Resumes.number_le {size : Nat} {page : List ClosedLedger} {cursor : UInt32}
    (resumes : Resumes stored number size page cursor) : number ≤ cursor := by
  rw [resumes.position]
  cases final : page.getLast? with
  | none => exact UInt32.le_refl _
  | some last =>
      have member := List.mem_of_getLast? final
      rw [resumes.ledgers] at member
      have later := (List.mem_filter.mp (List.mem_of_mem_take member)).2
      exact UInt32.le_of_lt (of_decide_eq_true later)

theorem cursor_eq (page : List ClosedLedger) :
    bounds.cursor page = (page.getLast?.map ClosedLedger.sequence).getD (predecessor bounds.start) := by
  rw [cursor]
  cases page.getLast? <;> rfl

/-- The pages behind a sequence with a successor start at the successor. -/
theorem resumes_of_ne (starts : bounds.start = successor number) (below : number ≠ 4294967295) :
    Resumes stored number bounds.limit.toNat (bounds.ledgers stored) (bounds.cursor (bounds.ledgers stored)) := by
  rw [successor, if_neg below] at starts
  constructor
  · rw [ledgers, since, starts]
    congr 1
    apply List.filter_congr
    intro ledger _
    rw [decide_eq_decide, UInt32.le_iff_toNat_le, UInt32.lt_iff_toNat_lt, ClosedLedger.toNat_succ below]
    exact Nat.succ_le_iff
  · rw [cursor_eq, starts, predecessor_succ below]

/-- The pages behind the greatest sequence start at that sequence. -/
theorem ledgers_greatest (starts : bounds.start = successor 4294967295) :
    bounds.ledgers stored = (stored.filter fun ledger => ledger.sequence = 4294967295).take bounds.limit.toNat ∧
      bounds.cursor (bounds.ledgers stored) =
        ((bounds.ledgers stored).getLast?.map ClosedLedger.sequence).getD 4294967294 := by
  rw [successor, if_pos rfl] at starts
  constructor
  · rw [ledgers, since, starts]
    congr 1
    apply List.filter_congr
    intro ledger _
    rw [decide_eq_decide, UInt32.le_iff_toNat_le, ← UInt32.toNat_inj]
    have small := ledger.sequence.toNat_lt
    change 4294967295 ≤ ledger.sequence.toNat ↔ ledger.sequence.toNat = 4294967295
    omega
  · rw [cursor_eq, starts]
    rfl

theorem not_resumes_greatest (starts : bounds.start = successor 4294967295) :
    ¬Resumes stored 4294967295 bounds.limit.toNat (bounds.ledgers stored) (bounds.cursor (bounds.ledgers stored)) := by
  intro resumes
  have none : (stored.filter fun ledger => 4294967295 < ledger.sequence) = [] := by
    apply List.filter_eq_nil_iff.mpr
    intro ledger _ later
    exact ClosedLedger.ne_greatest_of_lt (of_decide_eq_true later) rfl
  have empty : bounds.ledgers stored = [] := by
    rw [resumes.ledgers, none, List.take_nil]
  rcases ledgers_greatest starts with ⟨-, back⟩
  rw [resumes.position, empty] at back
  exact absurd back (by decide)

end PageBounds

/--
A request to a store that gives what it holds is refused just if it is amiss. Otherwise it is answered with a page. From
a start on, that is the first stored ledgers from there on; with a cursor, the page resumes behind the number of the
cursor and names a cursor that is no smaller, just if the number is not the greatest one. Behind the greatest one it
gives the ledger with that very sequence, or an empty page and a smaller cursor.
-/
theorem page_resumes_iff {surroundings : Surroundings LedgerSession} (smooth : surroundings.Smooth)
    {stored : List ClosedLedger} (stores : surroundings.store.table.Stores stored) {oldest newest : ClosedLedger}
    (first : stored.head? = some oldest) (last : stored.getLast? = some newest) (limits : PageLimits) {params : Json}
    {request : LedgersRequest} (asked : LedgersRequest.schema.params params = .ok request) :
    ((∃ text, (answerLedgers limits params).settle surroundings = .answered (.error (.invalidParams text))) ↔
      request.Amiss limits ⟨oldest.sequence, newest.sequence⟩) ∧
    (¬request.Amiss limits ⟨oldest.sequence, newest.sequence⟩ →
      ∃ page cursor,
        (answerLedgers limits params).settle surroundings =
          .answered (.ok (LedgersResponse.schema.encode (.ofPage oldest newest page cursor))) ∧
        (LedgersResponse.schema.encode (.ofPage oldest newest page cursor)).ShowsPage page cursor ∧
        (request.cursor? = none →
          page = (stored.filter fun ledger => request.startLedger ≤ ledger.sequence).take (request.size limits) ∧
            ∀ final ∈ page.getLast?, cursor = final.sequence) ∧
        ∀ text ∈ request.cursor?, ∀ number : UInt32, Text.Denotes text number.toNat →
          (PageBounds.Resumes stored number (request.size limits) page cursor ∧ number ≤ cursor ↔
            number ≠ 4294967295) ∧
          (number = 4294967295 →
            page = (stored.filter fun ledger => ledger.sequence = 4294967295).take (request.size limits) ∧
              cursor = (page.getLast?.map ClosedLedger.sequence).getD 4294967294)) := by
  rcases request.page_cases limits ⟨oldest.sequence, newest.sequence⟩ with
    ⟨amiss, text, refused⟩ | ⟨sound, bounds, chosen, size, starts⟩
  · have settled := settle_answerLedgers_of_error smooth stores first last asked refused
    exact ⟨iff_of_true ⟨text, settled⟩ amiss, fun sound => absurd amiss sound⟩
  · have settled := settle_answerLedgers smooth stores first last asked chosen
    refine ⟨iff_of_false ?_ sound, fun _ => ⟨_, _, settled, LedgersResponse.showsPage_ofPage .., ?_, ?_⟩⟩
    · rintro ⟨text, refused⟩
      rw [settled] at refused
      cases refused
    · intro absent
      rw [← size, ← starts.eq_startLedger absent]
      refine ⟨rfl, ?_⟩
      intro final found
      rw [PageBounds.cursor_eq, found]
      rfl
    · intro text given number denoted
      have successive := starts.eq_successor given denoted
      rw [← size]
      refine ⟨⟨?_, ?_⟩, ?_⟩
      · rintro ⟨resumes, -⟩ rfl
        exact PageBounds.not_resumes_greatest successive resumes
      · intro below
        have resumes : PageBounds.Resumes stored number _ _ _ := PageBounds.resumes_of_ne successive below
        exact ⟨resumes, resumes.number_le⟩
      · rintro rfl
        exact PageBounds.ledgers_greatest successive

theorem isChain_sevenToNine : [7, 8, 9].IsChain fun earlier later : UInt32 => later = earlier + 1 := by decide

theorem bounded_sevenToNine : ∀ sequence ∈ [7, 8, 9], sequence ≠ (4294967295 : UInt32) := by simp

/-- An undisturbed request to a store with three quiet ledgers. -/
def threeQuiet : Round := .calm [7, 8, 9] none isChain_sevenToNine bounded_sevenToNine

theorem page_resumes_behind_seven :
    ∃ page cursor,
      (answerLedgers ⟨5, 3⟩ (Paging.following "7" (some 1))).settle threeQuiet.surroundings =
        .answered (.ok (LedgersResponse.schema.encode (.ofPage (.quiet 7) (.quiet 9) page cursor))) ∧
      (LedgersResponse.schema.encode (.ofPage (.quiet 7) (.quiet 9) page cursor)).ShowsPage page cursor ∧
      (PageBounds.Resumes [.quiet 7, .quiet 8, .quiet 9] 7 1 page cursor ∧ 7 ≤ cursor) ∧
      page = [.quiet 8] ∧ cursor = 8 := by
  have denoted : Text.Denotes "7" (7 : UInt32).toNat := cursorSequence_eq_ok.mp (cursorSequence_toString 7)
  have asked := Paging.params_following "7" (some 1)
  have first : threeQuiet.stored.head? = some (.quiet 7) := rfl
  have last : threeQuiet.stored.getLast? = some (.quiet 9) := rfl
  rcases page_resumes_iff threeQuiet.smooth threeQuiet.stores first last ⟨5, 3⟩ asked with ⟨-, answered⟩
  have sound : ¬LedgersRequest.Amiss ⟨0, some ⟨some "7", 1⟩⟩ ⟨5, 3⟩ ⟨7, 9⟩ := by
    rintro (exceeds | ⟨-, started⟩ | ⟨cursor, given, undenoted⟩ | ⟨absent, -⟩)
    · exact absurd exceeds (by decide)
    · exact started rfl
    · rw [← Option.some.inj given] at undenoted
      exact undenoted 7 denoted
    · cases absent
  rcases answered sound with ⟨page, cursor, settled, shown, -, behind⟩
  rcases behind "7" rfl 7 denoted with ⟨resumes, -⟩
  have resumed := resumes.mpr (by decide)
  have second : page = [.quiet 8] := resumed.1.ledgers
  have own : cursor = 8 := by
    rw [resumed.1.position, second]
    rfl
  exact ⟨page, cursor, settled, shown, resumed, second, own⟩

/-- The cursor with the greatest sequence is answered with a smaller one. -/
theorem cursor_steps_back_from_greatest :
    LedgersRequest.schema.params (Paging.following "4294967295" none) = .ok ⟨0, some ⟨some "4294967295", 0⟩⟩ ∧
    Text.Denotes "4294967295" (4294967295 : UInt32).toNat ∧
    (answerLedgers ⟨5, 3⟩ (Paging.following "4294967295" none)).settle threeQuiet.surroundings =
      .answered (.ok (LedgersResponse.schema.encode (.ofPage (.quiet 7) (.quiet 9) [] 4294967294))) ∧
    ¬(4294967295 : UInt32) ≤ 4294967294 := by
  have asked := Paging.params_following "4294967295" none
  have chosen : LedgersRequest.page ⟨0, some ⟨some "4294967295", 0⟩⟩ ⟨5, 3⟩ ⟨7, 9⟩ = .ok ⟨4294967295, 3⟩ := rfl
  have first : threeQuiet.stored.head? = some (.quiet 7) := rfl
  have last : threeQuiet.stored.getLast? = some (.quiet 9) := rfl
  have settled := settle_answerLedgers threeQuiet.smooth threeQuiet.stores first last asked chosen
  exact ⟨asked, cursorSequence_eq_ok.mp (cursorSequence_toString 4294967295), settled, by decide⟩

end LedgerService
