import LedgerService.Proofs.Ingestion.Entering
import LedgerService.Proofs.Store.Contents
import LedgerService.Replay

/-!
# What a replay enters

A replay fetches the last stored ledgers in batches and enters each batch before it fetches the next. Whatever the
size of the batches, this is the same as entering the ledgers one after the other (`Replay.batches?_eq`), up to the
first that the book refuses; the table stays as it is (`Replay.runBy_of_stores`). The loop is also followed with every
sum of words checked (`Replay.runBy?`), so what is proved of it includes that none of them is too large and that the
batches come to an end.
-/

namespace LedgerService

open ClosedLedger (since ends? Ascending)

/-- Enters ledgers one after the other, up to the first refusal. -/
def FeeBook.appendAll : List ClosedLedger → FeeBook → FeeBook × Except FeeFailure Unit
  | [], book => (book, .ok ())
  | ledger :: others, book =>
    match book.append ledger with
    | (book, .ok ()) => appendAll others book
    | (book, .error failure) => (book, .error failure)

theorem FeeBook.appendAll_append (front back : List ClosedLedger) (book : FeeBook) :
    book.appendAll (front ++ back) =
      match book.appendAll front with
      | (book, .ok ()) => book.appendAll back
      | (book, .error failure) => (book, .error failure) := by
  induction front generalizing book with
  | nil => rfl
  | cons ledger others ih =>
      rw [List.cons_append, appendAll, appendAll]
      rcases book.append ledger with ⟨larger, failure | _⟩
      · rfl
      · exact ih larger

/--
The book accepts all of the ledgers, or it accepts those before the first one to which there is an objection, which
ends the work.
-/
theorem FeeBook.Covers.appendAll_cases {book : FeeBook} {classic contract : Nat} {passphrase : String}
    {earlier : List ClosedLedger} (covers : book.Covers classic contract passphrase earlier)
    (ledgers : List ClosedLedger) :
    (∃ larger, book.appendAll ledgers = (larger, .ok ()) ∧
      larger.Covers classic contract passphrase (earlier ++ ledgers)) ∨
    ∃ front offender rest larger cause, ledgers = front ++ offender :: rest ∧
      book.appendAll front = (larger, .ok ()) ∧ larger.Covers classic contract passphrase (earlier ++ front) ∧
      offender.objection? passphrase ((earlier ++ front).getLast?.map ClosedLedger.sequence) = some cause ∧
      book.appendAll ledgers = (larger, .error cause) := by
  induction ledgers generalizing book earlier with
  | nil =>
      left
      rw [List.append_nil]
      exact ⟨book, rfl, covers⟩
  | cons ledger others ih =>
      rcases covers.append_cases ledger with ⟨-, more, accepted, coversMore⟩ | ⟨cause, objection, refused⟩
      · have onward : ∀ ledgers, book.appendAll (ledger :: ledgers) = more.appendAll ledgers := by
          intro ledgers
          rw [FeeBook.appendAll, accepted]
        have joined : ∀ ledgers, earlier ++ [ledger] ++ ledgers = earlier ++ ledger :: ledgers := by
          intro ledgers
          rw [List.append_assoc, List.singleton_append]
        rcases ih coversMore with ⟨larger, entered, covered⟩ |
          ⟨front, offender, rest, larger, cause, parts, entered, covered, objection, refused⟩
        · left
          rw [onward, ← joined]
          exact ⟨larger, entered, covered⟩
        · right
          rw [joined] at covered objection
          refine ⟨ledger :: front, offender, rest, larger, cause, ?_, ?_, covered, objection, ?_⟩
          · rw [parts, List.cons_append]
          · rw [onward, entered]
          · rw [onward, refused]
      · right
        rw [covers.classic_latest?] at objection
        refine ⟨[], ledger, others, book, cause, rfl, rfl, ?_, ?_, ?_⟩
        · rwa [List.append_nil]
        · rwa [List.append_nil]
        · rw [FeeBook.appendAll, refused]

/-- To a ledger whose fees can be read, there is no objection but that it does not follow the newest one. -/
theorem ClosedLedger.gap_of_objection {ledger : ClosedLedger} {passphrase : String} {earlier : List ClosedLedger}
    {cause : FeeFailure} (readable : ledger.fees passphrase = .ok (ledger.charges passphrase))
    (objection : ledger.objection? passphrase (earlier.getLast?.map ClosedLedger.sequence) = some cause) :
    (∃ expected received, cause = .gap expected received) ∧ ∃ newest ∈ earlier.getLast?, ¬newest.Precedes ledger := by
  rcases ledger.fees_cases passphrase with ⟨known, paired, -⟩ | ⟨other, unreadable, -⟩
  · cases last : earlier.getLast? with
    | none => simp [objection?, known, paired, last] at objection
    | some newest =>
        simp only [objection?, known, paired, last, ne_eq, not_true_eq_false, if_false, Option.map_some] at objection
        split at objection
        case isTrue => cases objection
        case isFalse apart =>
          cases objection
          exact ⟨⟨_, _, rfl⟩, newest, rfl, apart⟩
  · rw [unreadable] at readable
    cases readable

theorem FeeBook.Covers.appendAll {book : FeeBook} {classic contract : Nat} {passphrase : String}
    {earlier : List ClosedLedger} (covers : book.Covers classic contract passphrase earlier)
    (ledgers : List ClosedLedger) (chain : (earlier ++ ledgers).IsChain ClosedLedger.Precedes)
    (readable : ∀ ledger ∈ ledgers, ledger.fees passphrase = .ok (ledger.charges passphrase)) :
    ∃ larger, book.appendAll ledgers = (larger, .ok ()) ∧
      larger.Covers classic contract passphrase (earlier ++ ledgers) := by
  rcases covers.appendAll_cases ledgers with entered | ⟨front, offender, rest, -, cause, parts, -, -, objection, -⟩
  · exact entered
  · rw [parts] at chain readable
    rcases ClosedLedger.gap_of_objection (readable offender (by simp)) objection with ⟨-, newest, last, apart⟩
    rw [← List.append_assoc] at chain
    exact absurd ((List.isChain_append.mp chain).2.2 newest last offender rfl) apart

/-- The first ledger that is not the next one is refused. -/
theorem FeeBook.Covers.appendAll_of_gap {book : FeeBook} {classic contract : Nat} {passphrase : String}
    {earlier : List ClosedLedger} (covers : book.Covers classic contract passphrase earlier)
    (ledgers : List ClosedLedger) (gap : ¬(earlier ++ ledgers).IsChain ClosedLedger.Precedes)
    (readable : ∀ ledger ∈ ledgers, ledger.fees passphrase = .ok (ledger.charges passphrase)) :
    ∃ expected received, (book.appendAll ledgers).2 = .error (.gap expected received) := by
  rcases covers.appendAll_cases ledgers with
    ⟨larger, -, covered⟩ | ⟨front, offender, rest, larger, cause, parts, -, -, objection, refused⟩
  · exact absurd covered.consecutive gap
  · have own : offender ∈ ledgers := by simp [parts]
    rcases ClosedLedger.gap_of_objection (readable offender own) objection with ⟨⟨expected, received, rfl⟩, -⟩
    rw [refused]
    exact ⟨expected, received, rfl⟩

namespace Replay

/-- The sum of two words, unless a word is too small for it. -/
def sum? (left right : UInt32) : Option UInt32 :=
  if left.toNat + right.toNat < UInt32.size then some (left + right) else none

theorem sum?_sound {left right total : UInt32} (fits : sum? left right = some total) : left + right = total := by
  rw [sum?] at fits
  split at fits
  · exact Option.some.inj fits
  · cases fits

theorem sum?_eq {left right : UInt32} (fits : left.toNat + right.toNat < UInt32.size) :
    sum? left right = some (left + right) ∧ (left + right).toNat = left.toNat + right.toNat := by
  refine ⟨if_pos fits, ?_⟩
  rw [UInt32.toNat_add]
  exact Nat.mod_eq_of_lt fits

section

variable {σ : Type} [LedgerSink σ]

/-- As `enterAll`, but nothing if the count outgrows a word. -/
def enterAll? : List ClosedLedger → σ → FeeBook → UInt32 → Option (σ × FeeBook × Except FeeFailure UInt32)
  | [], store, book, count => some (store, book, .ok count)
  | ledger :: others, store, book, count =>
    match book.enter ledger store with
    | (store, book, .ok ()) => (sum? count 1).bind (enterAll? others store book)
    | (store, book, .error failure) => some (store, book, .error failure)

/-- As `batches`, but nothing if a sum outgrows a word or the batches never end. -/
def batches? [LedgerSource σ] (size last : UInt32) : Nat → UInt32 → σ → FeeBook → UInt32 →
    Option (σ × FeeBook × Except Failure UInt32)
  | 0, _, _, _, _ => none
  | fuel + 1, next, store, book, count =>
    if last < next then some (store, book, .ok count)
    else
      (sum? (last - next) 1).bind fun wanted =>
        match LedgerSource.ledgers store next (min size wanted) with
        | .error failure => some (store, book, .error failure)
        | .ok ledgers =>
          (enterAll? ledgers store book count).bind fun
            | (store, book, .error failure) => some (store, book, .error (.fees failure))
            | (store, book, .ok count) =>
              match ledgers.getLast? with
              | none => some (store, book, .ok count)
              | some newest =>
                if newest.sequence < last then
                  (sum? newest.sequence 1).bind fun next => batches? size last fuel next store book count
                else some (store, book, .ok count)

/-- As `runBy`, but nothing if a sum outgrows a word or the batches never end. -/
def runBy? [LedgerSource σ] (size retention : UInt32) (store : σ) (book : FeeBook) :
    Option (σ × FeeBook × Except Failure UInt32) :=
  match LedgerSource.range store with
  | .error failure => some (store, book, .error failure)
  | .ok none => some (store, book, .ok 0)
  | .ok (some range) =>
    let wanted := range.tail retention
    match LedgerSink.openTransaction store with
    | (store, .error failure) => some (store, book, .error failure)
    | (store, .ok ()) =>
      (batches? size wanted.last batchLimit wanted.first store book 0).map fun
        | (store, book, .error failure) => (store, book, .error failure)
        | (store, book, .ok count) =>
          match LedgerSink.commit store with
          | (store, .ok ()) => (store, book, .ok count)
          | (store, .error failure) => (store, book, .error failure)

theorem enterAll?_sound {ledgers : List ClosedLedger} {store : σ} {book : FeeBook} {count : UInt32}
    {reached : σ × FeeBook × Except FeeFailure UInt32} (checked : enterAll? ledgers store book count = some reached) :
    enterAll ledgers store book count = reached := by
  induction ledgers generalizing store book count with
  | nil => exact Option.some.inj checked
  | cons ledger others ih =>
      rw [enterAll?] at checked
      rw [enterAll]
      generalize book.enter ledger store = entered at checked ⊢
      rcases entered with ⟨after, larger, failure | _⟩
      · exact Option.some.inj checked
      · rcases Option.bind_eq_some_iff.mp checked with ⟨more, fits, rest⟩
        dsimp only
        rw [sum?_sound fits]
        exact ih rest

theorem batches?_sound [LedgerSource σ] {size last : UInt32} {fuel : Nat} {next : UInt32} {store : σ} {book : FeeBook}
    {count : UInt32} {reached : σ × FeeBook × Except Failure UInt32}
    (checked : batches? size last fuel next store book count = some reached) :
    batches size last fuel next store book count = reached := by
  induction fuel generalizing next store book count with
  | zero => cases checked
  | succ fuel ih =>
      rw [batches?] at checked
      rw [batches]
      by_cases past : last < next
      · rw [if_pos past] at checked ⊢
        exact Option.some.inj checked
      · rw [if_neg past] at checked ⊢
        rcases Option.bind_eq_some_iff.mp checked with ⟨wanted, fits, fetched⟩
        rw [sum?_sound fits]
        generalize LedgerSource.ledgers store next (min size wanted) = found at fetched ⊢
        rcases found with failure | ledgers
        · exact Option.some.inj fetched
        · rcases Option.bind_eq_some_iff.mp fetched with ⟨⟨after, larger, result⟩, entered, onward⟩
          dsimp only
          rw [enterAll?_sound entered]
          rcases result with failure | more
          · exact Option.some.inj onward
          · dsimp only at onward ⊢
            generalize ledgers.getLast? = final at onward ⊢
            rcases final with _ | newest
            · exact Option.some.inj onward
            · dsimp only at onward ⊢
              by_cases earlier : newest.sequence < last
              · rw [if_pos earlier] at onward ⊢
                rcases Option.bind_eq_some_iff.mp onward with ⟨successor, fits, rest⟩
                rw [sum?_sound fits]
                exact ih rest
              · rw [if_neg earlier] at onward ⊢
                exact Option.some.inj onward

theorem runBy?_sound [LedgerSource σ] {size retention : UInt32} {store : σ} {book : FeeBook}
    {reached : σ × FeeBook × Except Failure UInt32} (checked : runBy? size retention store book = some reached) :
    runBy size retention store book = reached := by
  rw [runBy?] at checked
  rw [runBy]
  generalize LedgerSource.range store = found at checked ⊢
  rcases found with failure | _ | range
  · exact Option.some.inj checked
  · exact Option.some.inj checked
  · dsimp only at checked ⊢
    generalize LedgerSink.openTransaction store = opening at checked ⊢
    rcases opening with ⟨opened, failure | _⟩
    · exact Option.some.inj checked
    · rcases Option.map_eq_some_iff.mp checked with ⟨walked, found, ended⟩
      dsimp only
      rw [batches?_sound found]
      exact ended

end

section

variable {σ : Type} [LedgerSink σ]

/-- What is left when ledgers have been entered: a refusal rolls the transaction back. -/
def entered (ledgers : List ClosedLedger) (store : σ) (book : FeeBook) (count : UInt32) :
    σ × FeeBook × Except FeeFailure UInt32 :=
  match book.appendAll ledgers with
  | (book, .ok ()) => (store, book, .ok (count + UInt32.ofNat ledgers.length))
  | (book, .error failure) =>
    ((LedgerSink.rollback store).1, book, .error (failure.afterRollback (LedgerSink.rollback store).2))

theorem enterAll?_eq (ledgers : List ClosedLedger) (store : σ) (book : FeeBook) {count : UInt32}
    (fits : count.toNat + ledgers.length < UInt32.size) :
    enterAll? ledgers store book count = some (entered ledgers store book count) := by
  induction ledgers generalizing book count with
  | nil => simp [enterAll?, entered, FeeBook.appendAll]
  | cons ledger others ih =>
      rw [List.length_cons] at fits
      have longer : count + 1 + UInt32.ofNat others.length = count + UInt32.ofNat (ledger :: others).length := by
        rw [List.length_cons, Nat.add_comm, UInt32.ofNat_add, UInt32.add_assoc]
        rfl
      rw [enterAll?, FeeBook.enter, entered, FeeBook.appendAll]
      rcases book.append ledger with ⟨larger, failure | _⟩
      · rfl
      · dsimp only
        have room : count.toNat + (1 : UInt32).toNat < UInt32.size := by
          rw [UInt32.toNat_one]
          omega
        rcases sum?_eq room with ⟨one, counted⟩
        rw [one, Option.bind_some, ih, entered, longer]
        rw [counted, UInt32.toNat_one]
        omega

theorem entered_append (front back : List ClosedLedger) (store : σ) (book : FeeBook) (count : UInt32) :
    entered (front ++ back) store book count =
      match entered front store book count with
      | (store, book, .ok count) => entered back store book count
      | (store, book, .error failure) => (store, book, .error failure) := by
  rw [entered, entered, FeeBook.appendAll_append]
  rcases book.appendAll front with ⟨larger, failure | _⟩
  · rfl
  · dsimp only
    rw [entered, List.length_append, UInt32.ofNat_add, UInt32.add_assoc]

theorem store_of_entered {ledgers : List ClosedLedger} {store after : σ} {book larger : FeeBook} {count more : UInt32}
    (done : entered ledgers store book count = (after, larger, .ok more)) :
    after = store ∧ more = count + UInt32.ofNat ledgers.length := by
  rw [entered] at done
  split at done
  · cases done
    exact ⟨rfl, rfl⟩
  · cases done

/-- The failure of a replay whose book refuses a ledger. -/
def concluded (reached : σ × FeeBook × Except FeeFailure UInt32) : σ × FeeBook × Except Failure UInt32 :=
  (reached.1, reached.2.1, reached.2.2.mapError .fees)

theorem toNat_min_pos {size wanted : UInt32} (positive : 0 < size) (some : 0 < wanted.toNat) :
    0 < (min size wanted).toNat := by
  change 0 < (if size ≤ wanted then size else wanted).toNat
  split
  · exact UInt32.lt_iff_toNat_lt.mp positive
  · exact some

theorem batches?_eq [LedgerSource σ] {store : σ} {ledgers : List ClosedLedger} {size last : UInt32}
    (reads : ∀ start limit, LedgerSource.ledgers store start limit = .ok ((since start ledgers).take limit.toNat))
    (ascending : Ascending ledgers) (positive : 0 < size)
    (newest : ∃ ledger ∈ ledgers, ledger.sequence = last) (greatest : ∀ ledger ∈ ledgers, ledger.sequence ≤ last)
    (fuel : Nat) (next : UInt32) (book : FeeBook) (count : UInt32) (inside : next ≤ last)
    (fewer : last.toNat - next.toNat + 1 < UInt32.size) (enough : (since next ledgers).length ≤ fuel)
    (fits : count.toNat + (since next ledgers).length < UInt32.size) :
    batches? size last fuel next store book count = some (concluded (entered (since next ledgers) store book count)) := by
  have reached : ∀ start ≤ last, since start ledgers ≠ [] := by
    intro start before
    rcases newest with ⟨ledger, member, rfl⟩
    exact List.ne_nil_of_mem (ClosedLedger.since_mem.mpr ⟨member, before⟩)
  induction fuel generalizing next book count with
  | zero => exact absurd (List.length_eq_zero_iff.mp (Nat.le_zero.mp enough)) (reached next inside)
  | succ fuel ih =>
      have distance : (last - next).toNat = last.toNat - next.toNat := UInt32.toNat_sub_of_le _ _ inside
      have room : (last - next).toNat + (1 : UInt32).toNat < UInt32.size := by
        rw [distance, UInt32.toNat_one]
        exact fewer
      rcases sum?_eq room with ⟨wanted, counted⟩
      have limit : 0 < (min size (last - next + 1)).toNat := by
        apply toNat_min_pos positive
        rw [counted, UInt32.toNat_one]
        exact Nat.succ_pos _
      have parts := List.take_append_drop (min size (last - next + 1)).toNat (since next ledgers)
      rw [batches?, if_neg (UInt32.not_lt.mpr inside), wanted, Option.bind_some, reads]
      dsimp only
      generalize (since next ledgers).drop (min size (last - next + 1)).toNat = rest at parts
      rcases List.eq_nil_or_concat ((since next ledgers).take (min size (last - next + 1)).toNat) with
        none | ⟨front, latest, batch⟩
      · rcases List.take_eq_nil_iff.mp none with zero | empty
        · omega
        · exact absurd empty (reached next inside)
      · rw [List.concat_eq_append] at batch
        rw [batch] at parts ⊢
        have shorter : (front ++ [latest]).length + rest.length = (since next ledgers).length := by
          rw [← List.length_append, parts]
        rw [enterAll?_eq _ _ _ (by omega), Option.bind_some, ← parts, entered_append (front ++ [latest]) rest]
        rcases done : entered (front ++ [latest]) store book count with ⟨after, larger, failure | more⟩
        · rfl
        · rcases store_of_entered done with ⟨rfl, total⟩
          have small : (front ++ [latest]).length < UInt32.size := by omega
          have added : more.toNat = count.toNat + (front ++ [latest]).length := by
            have single : (UInt32.ofNat (front ++ [latest]).length).toNat = (front ++ [latest]).length :=
              UInt32.toNat_ofNat_of_lt' small
            rw [total, (sum?_eq (by rw [single]; omega)).2, single]
          dsimp only
          rw [List.getLast?_concat]
          dsimp only
          have member : latest ∈ ledgers ∧ next ≤ latest.sequence := by
            apply ClosedLedger.since_mem.mp
            rw [← parts]
            simp
          rw [List.append_assoc, List.singleton_append] at parts
          split
          case isTrue earlier =>
            have below := ClosedLedger.ne_greatest_of_lt earlier
            have successor := ClosedLedger.toNat_succ below
            have bound := (latest.sequence + 1).toNat_lt
            have since_rest := ascending.since_next parts.symm below
            rw [UInt32.lt_iff_toNat_lt] at earlier
            have least := UInt32.le_iff_toNat_le.mp member.2
            have progress : 0 < (front ++ [latest]).length := by simp
            rw [(sum?_eq (by rw [UInt32.toNat_one, ← successor]; exact bound)).1, Option.bind_some,
              ih (latest.sequence + 1) larger more (UInt32.le_iff_toNat_le.mpr (by omega)) (by omega)
                (by rw [since_rest]; omega) (by rw [since_rest]; omega), since_rest]
          case isFalse final =>
            have last : ∀ ledger ∈ ledgers, ledger.sequence ≤ latest.sequence :=
              fun ledger inside => UInt32.le_trans (greatest ledger inside) (UInt32.not_lt.mp final)
            rw [ascending.since_last parts.symm last]
            simp [entered, concluded, FeeBook.appendAll, Except.mapError]

theorem runBy?_eq [LedgerSource σ] {store opened : σ} {ledgers : List ClosedLedger} {range : SequenceRange}
    (ends : ends? ledgers = some range) (ascending : Ascending ledgers)
    (stored : LedgerSource.range store = .ok (some range))
    (opening : LedgerSink.openTransaction store = (opened, .ok ()))
    (reads : ∀ start limit, LedgerSource.ledgers opened start limit = .ok ((since start ledgers).take limit.toNat))
    {size : UInt32} (positive : 0 < size) (retention : UInt32) (book : FeeBook) :
    runBy? size retention store book =
      match book.appendAll (since (range.tail retention).first ledgers) with
      | (book, .ok ()) =>
        some ((LedgerSink.commit opened).1, book, (LedgerSink.commit opened).2.map fun _ =>
          UInt32.ofNat (since (range.tail retention).first ledgers).length)
      | (book, .error failure) =>
        some ((LedgerSink.rollback opened).1, book,
          .error (.fees (failure.afterRollback (LedgerSink.rollback opened).2))) := by
  rcases ascending.bounds ends with ⟨newest, greatest, ordered⟩
  have start := SequenceRange.toNat_first_tail range retention
  have inside : (range.tail retention).first ≤ range.last := by
    rw [UInt32.le_iff_toNat_le] at ordered ⊢
    omega
  have fewer : range.last.toNat - (range.tail retention).first.toNat + 1 < UInt32.size := by
    have bound := retention.toNat_lt
    change _ < 4294967296
    omega
  have counted := ascending.length_since_le (range.tail retention).first greatest
  have enough : (since (range.tail retention).first ledgers).length ≤ batchLimit := by
    change _ ≤ UInt32.size
    omega
  have walked := batches?_eq reads ascending positive newest greatest batchLimit _ book 0 inside fewer enough
    (by rw [UInt32.toNat_zero]; omega)
  rw [runBy?, stored]
  dsimp only
  rw [opening]
  dsimp only
  rw [SequenceRange.last_tail, walked, entered]
  rcases book.appendAll (since (range.tail retention).first ledgers) with ⟨larger, failure | _⟩
  · rfl
  · simp only [concluded, Except.mapError, UInt32.zero_add, Option.map_some]
    rcases LedgerSink.commit opened with ⟨closed, failure | _⟩
    · rfl
    · rfl

end

section

variable {store : Rehearsal LedgerSession} {ledgers : List ClosedLedger}

/-- The stored ledgers that a replay enters. -/
def recent (retention : UInt32) (ledgers : List ClosedLedger) : List ClosedLedger :=
  match ends? ledgers with
  | some range => since (range.tail retention).first ledgers
  | none => []

/-- The outcome of entering ledgers, one after the other. -/
def outcome (ledgers : List ClosedLedger) (book : FeeBook) : Except Failure UInt32 :=
  match (book.appendAll ledgers).2 with
  | .ok () => .ok (UInt32.ofNat ledgers.length)
  | .error failure => .error (.fees failure)

theorem recent_eq_since (retention : UInt32) (ledgers : List ClosedLedger) :
    ∃ start, recent retention ledgers = since start ledgers := by
  rw [recent]
  cases ends : ends? ledgers with
  | some range => exact ⟨_, rfl⟩
  | none =>
      rw [ClosedLedger.ends_eq_none ends]
      exact ⟨0, rfl⟩

theorem recent_of_consecutive (consecutive : ClosedLedger.Consecutive ledgers) {retention : UInt32}
    (positive : 0 < retention) : recent retention ledgers = ledgers.rtake retention.toNat := by
  rw [recent]
  cases ends : ends? ledgers with
  | some range => exact consecutive.since_tail ends positive
  | none =>
      rw [ClosedLedger.ends_eq_none ends, List.rtake_nil]

/-- A replay that nothing disturbs comes to its end within the words, and leaves the table as it is. -/
theorem runBy?_of_stores (faultless : store.faults = .none) (stores : store.store.table.Stores ledgers) {size : UInt32}
    (positive : 0 < size) (retention : UInt32) (book : FeeBook) :
    ∃ after, after.faults = .none ∧ after.store.table = store.store.table ∧
      runBy? size retention store book =
        some (after, (book.appendAll (recent retention ledgers)).1, outcome (recent retention ledgers) book) := by
  have stored : LedgerSource.range store = .ok (ends? ledgers) := stores.range
  rcases ends : ends? ledgers with _ | range
  · refine ⟨store, faultless, rfl, ?_⟩
    rw [runBy?, stored, outcome, recent, ends]
    rfl
  · rw [ends] at stored
    rcases store with ⟨session, faults, counts⟩
    cases faultless
    let opened : Rehearsal LedgerSession :=
      ⟨⟨session.table, .opened⟩, .none, { counts with opened := counts.opened + 1 }⟩
    have reads : ∀ start limit, LedgerSource.ledgers opened start limit =
        .ok ((since start ledgers).take limit.toNat) := stores.ledgers_eq
    have opening : LedgerSink.openTransaction (⟨session, .none, counts⟩ : Rehearsal LedgerSession) =
        (opened, .ok ()) := rfl
    have replayed := runBy?_eq ends stores.ascending stored opening reads positive retention book
    rw [replayed, outcome, recent, ends]
    dsimp only
    rcases book.appendAll (since (range.tail retention).first ledgers) with ⟨larger, failure | _⟩
    · exact ⟨_, rfl, rfl, rfl⟩
    · exact ⟨_, rfl, rfl, rfl⟩

theorem runBy_of_stores (faultless : store.faults = .none) (stores : store.store.table.Stores ledgers) {size : UInt32}
    (positive : 0 < size) (retention : UInt32) (book : FeeBook) :
    ∃ after, after.faults = .none ∧ after.store.table = store.store.table ∧
      runBy size retention store book =
        (after, (book.appendAll (recent retention ledgers)).1, outcome (recent retention ledgers) book) := by
  rcases runBy?_of_stores faultless stores positive retention book with ⟨after, still, same, checked⟩
  exact ⟨after, still, same, runBy?_sound checked⟩

/-- A replay that succeeds has entered all that it was to enter, whatever operations of the store would have failed. -/
theorem appendAll_of_runBy {after : Rehearsal LedgerSession} (ordered : store.store.Ordered)
    (stores : store.store.table.Stores ledgers) {size : UInt32} (positive : 0 < size) {retention count : UInt32}
    {book larger : FeeBook} (done : runBy size retention store book = (after, larger, .ok count)) :
    book.appendAll (recent retention ledgers) = (larger, .ok ()) ∧ after.store.table = store.store.table ∧
      after.store.Ordered := by
  have stored : LedgerSource.range store = .ok (ends? ledgers) := stores.range
  rcases ends : ends? ledgers with _ | range
  · rw [runBy, stored, ends] at done
    cases done
    rw [recent, ends]
    exact ⟨rfl, rfl, ordered⟩
  · rw [ends] at stored
    rcases opening : LedgerSink.openTransaction store with ⟨opened, failure | _⟩
    · rw [runBy, stored] at done
      simp only [opening] at done
      cases done
    · have begun : opened.store = ⟨store.store.table, .opened⟩ :=
        (congrArg Prod.fst (Rehearsal.open_ok opening)).symm
      have reads : ∀ start limit, LedgerSource.ledgers opened start limit =
          .ok ((since start ledgers).take limit.toNat) := by
        intro start limit
        have same : LedgerSource.ledgers opened.store start limit = store.store.table.ledgers start limit := by
          rw [begun]
          rfl
        exact same.trans (stores.ledgers_eq start limit)
      have replayed := runBy?_eq ends stores.ascending stored opening reads positive retention book
      rw [recent, ends]
      dsimp only
      rcases appended : book.appendAll (since (range.tail retention).first ledgers) with ⟨accepted, failure | _⟩
      · rw [appended] at replayed
        rw [runBy?_sound replayed] at done
        cases done
      · rw [appended] at replayed
        rw [runBy?_sound replayed] at done
        rcases closing : LedgerSink.commit opened with ⟨closed, failure | _⟩
        · rw [closing] at done
          cases done
        · rw [closing] at done
          cases done
          have finished : closed.store = .on store.store.table := by
            have reached := congrArg Prod.fst (Rehearsal.commit_ok closing)
            rw [begun] at reached
            exact reached.symm
          rw [finished]
          exact ⟨rfl, rfl, LedgerSession.ordered_on ordered.created ordered.ascending⟩

end

end Replay

end LedgerService
