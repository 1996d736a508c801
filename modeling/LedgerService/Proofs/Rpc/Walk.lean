import LedgerService.Proofs.Ledger.Span
import LedgerService.Proofs.Rpc.Paging

/-!
# Walking through a store

A client asks for the page from a sequence on, and then time and again for the page after the cursor of the last
answer, while ledgers are added to the store (`walk?`). At any time it has seen the span from the start to the last
cursor (`Seen`): the first page is such a span (`Round.visit_opening`), and each further page extends it or, if nothing
is left to see, is empty and names the same cursor (`Round.visit_following`). By induction on the requests, a walk
visits every ledger exactly once (`cursors_visit_every_ledger`).
-/

namespace LedgerService

open ClosedLedger (since ends? span Ascending Consecutive)

/-- A request of a client, and the store that it meets. -/
structure Round where
  surroundings : Surroundings LedgerSession
  stored : List ClosedLedger
  /-- The number of ledgers asked for, if any is. -/
  limit : Option UInt32
  smooth : surroundings.Smooth
  stores : surroundings.store.table.Stores stored
  chain : stored.IsChain ClosedLedger.Precedes
  bounded : ∀ ledger ∈ stored, ledger.sequence ≠ 4294967295

/-- The answer to a request with the parameters, unless it is an error. -/
def Round.response? (round : Round) (limits : PageLimits) (params : Json) : Option LedgersResponse :=
  match (answerLedgers limits params).settle round.surroundings with
  | .answered (.ok json) => (LedgersResponse.schema.decode json).toOption
  | _ => none

/-- The parameters of the next request: those of the first one, or those that continue after a response. -/
def Round.params (round : Round) (start : UInt32) : Option LedgersResponse → Json
  | none => Paging.opening start round.limit
  | some previous => Paging.following previous.cursor round.limit

/-- The responses so far with the next one, unless that is an error. -/
def Round.ask (limits : PageLimits) (start : UInt32) (responses : List LedgersResponse) (round : Round) :
    Option (List LedgersResponse) :=
  (round.response? limits (round.params start responses.getLast?)).map fun response => responses ++ [response]

/-- The responses to requests that each carry the cursor of the response before, unless one of them is an error. -/
def walk? (limits : PageLimits) (start : UInt32) (rounds : List Round) : Option (List LedgersResponse) :=
  rounds.foldlM (Round.ask limits start) []

/-- The pages so far are the ledgers from the start to the last one, which the cursor names. -/
structure Seen (start : UInt32) (stored : List ClosedLedger) (responses : List LedgersResponse) (last : ClosedLedger) :
    Prop where
  first : ∃ ledger ∈ stored, ledger.sequence = start
  member : last ∈ stored
  inside : start ≤ last.sequence
  cursor : responses.getLast?.map LedgersResponse.cursor = some (toString last.sequence)
  pages : responses.flatMap LedgersResponse.ledgers = (span start last.sequence stored).map ClosedLedger.entry

namespace Seen

variable {start : UInt32} {stored : List ClosedLedger} {responses : List LedgersResponse} {last : ClosedLedger}

/-- Ledgers that are added leave what has been seen as it is. -/
theorem grow (seen : Seen start stored responses last) {larger : List ClosedLedger} (growing : stored <+: larger)
    (ascending : Ascending larger) : Seen start larger responses last := by
  rcases seen.first with ⟨earliest, member, started⟩
  refine ⟨⟨earliest, growing.subset member, started⟩, growing.subset seen.member, seen.inside, seen.cursor, ?_⟩
  rcases growing with ⟨added, whole⟩
  rw [← whole] at ascending ⊢
  rw [ascending.span_append seen.member]
  exact seen.pages

/-- An empty page leaves what has been seen as it is. -/
theorem idle (seen : Seen start stored responses last) {response : LedgersResponse} (empty : response.ledgers = [])
    (same : response.cursor = toString last.sequence) : Seen start stored (responses ++ [response]) last := by
  refine ⟨seen.first, seen.member, seen.inside, ?_, ?_⟩
  · rw [List.getLast?_concat, Option.map_some, same]
  · rw [List.flatMap_append, List.flatMap_singleton, empty, List.append_nil]
    exact seen.pages

/-- A page after the last ledger continues what has been seen. -/
theorem extend (seen : Seen start stored responses last) (ascending : Ascending stored)
    (below : last.sequence ≠ 4294967295) {page rest : List ClosedLedger} {next : ClosedLedger}
    (parts : since (last.sequence + 1) stored = page ++ rest) (final : page.getLast? = some next)
    {response : LedgersResponse} (ledgers : response.ledgers = page.map ClosedLedger.entry)
    (cursor : response.cursor = toString next.sequence) : Seen start stored (responses ++ [response]) next := by
  have inside : next ∈ since (last.sequence + 1) stored := by
    rw [parts]
    exact List.mem_append_left rest (List.mem_of_getLast? final)
  rcases ClosedLedger.since_mem.mp inside with ⟨member, after⟩
  rw [UInt32.le_iff_toNat_le, ClosedLedger.toNat_succ below] at after
  have ordered : start ≤ next.sequence := by
    have before := UInt32.le_iff_toNat_le.mp seen.inside
    rw [UInt32.le_iff_toNat_le]
    omega
  refine ⟨seen.first, member, ordered, ?_, ?_⟩
  · rw [List.getLast?_concat, Option.map_some, cursor]
  · rw [ascending.span_next seen.member seen.inside below parts final, List.flatMap_append, seen.pages,
      List.flatMap_singleton, ledgers, List.map_append]

end Seen

/-- After a response a client has seen a span; if the response is empty, it repeats the cursor and nothing is left. -/
def Visit (start : UInt32) (round : Round) (earlier : List LedgersResponse) (response : LedgersResponse) : Prop :=
  ∃ last, Seen start round.stored (earlier ++ [response]) last ∧
    (response.ledgers = [] → earlier.getLast?.map LedgersResponse.cursor = some (toString last.sequence) ∧
      ∀ ledger ∈ round.stored, ledger.sequence ≤ last.sequence)

namespace Round

variable {round : Round} {limits : PageLimits} {start : UInt32}

theorem consecutive (round : Round) : Consecutive round.stored :=
  round.stores.ascending.consecutive round.chain

theorem response?_eq {oldest newest : ClosedLedger} (first : round.stored.head? = some oldest)
    (last : round.stored.getLast? = some newest) {params : Json} {request : LedgersRequest} {bounds : PageBounds}
    (asked : LedgersRequest.schema.params params = .ok request)
    (chosen : request.page limits ⟨oldest.sequence, newest.sequence⟩ = .ok bounds) :
    round.response? limits params =
      some (.ofPage oldest newest (bounds.ledgers round.stored) (bounds.cursor (bounds.ledgers round.stored))) := by
  have settled := settle_answerLedgers round.smooth round.stores first last asked chosen
  rw [response?, settled]
  dsimp only
  rw [Schema.decode_encode LedgersResponse.lossless_schema]
  rfl

/-- The first request of a client that starts inside the stored range. -/
theorem visit_opening (allowed : limits.Allows round.limit) {range : SequenceRange}
    (ends : ends? round.stored = some range) (after : range.first ≤ start) (before : start ≤ range.last) :
    ∃ response, ask limits start [] round = some [response] ∧ Visit start round [] response := by
  have started := round.consecutive.gapFree range ends start after before
  rcases ClosedLedger.ends_eq_some ends with ⟨oldest, newest, first, final, rfl⟩
  rcases Paging.page_opening allowed after before with ⟨size, chosen, positive⟩
  have answered := response?_eq first final (Paging.params_opening start round.limit) chosen
  have reaches : newest ∈ since start round.stored := ClosedLedger.since_mem.mpr ⟨List.mem_of_getLast? final, before⟩
  rcases PageBounds.ledgers_cases ⟨start, size⟩ round.stored positive with
    ⟨-, none⟩ | ⟨last, rest, page, parts, cursor, member, inside⟩
  · exact absurd none (List.ne_nil_of_mem reaches)
  · have nonempty := List.ne_nil_of_mem (List.mem_of_getLast? page)
    refine ⟨_, congrArg (Option.map _) answered, last, ⟨started, member, inside, ?_, ?_⟩, ?_⟩
    · rw [cursor]
      rfl
    · rw [round.stores.ascending.span_eq parts page, List.nil_append, List.flatMap_singleton]
      rfl
    · intro empty
      exact absurd (List.map_eq_nil_iff.mp empty) nonempty

/-- A request with the cursor of the response before, to the same store or to one with more ledgers. -/
theorem visit_following (allowed : limits.Allows round.limit) {previous : Round} {earlier : List LedgersResponse}
    {response : LedgersResponse} (visit : Visit start previous earlier response)
    (growing : previous.stored <+: round.stored) :
    ∃ next, ask limits start (earlier ++ [response]) round = some (earlier ++ [response] ++ [next]) ∧
      Visit start round (earlier ++ [response]) next := by
  rcases visit with ⟨last, before, -⟩
  have seen := before.grow growing round.stores.ascending
  have below := round.bounded last seen.member
  have asked : round.params start (earlier ++ [response]).getLast? =
      Paging.following (toString last.sequence) round.limit := by
    have cursor := seen.cursor
    rw [List.getLast?_concat] at cursor ⊢
    rw [params, Option.some.inj cursor]
  rcases ClosedLedger.ends_of_mem seen.member with ⟨range, ends⟩
  rcases ClosedLedger.ends_eq_some ends with ⟨oldest, newest, first, final, rfl⟩
  rcases Paging.page_following allowed below ⟨oldest.sequence, newest.sequence⟩ with ⟨size, chosen, positive⟩
  have answered := response?_eq first final (Paging.params_following _ round.limit) chosen
  rw [← asked] at answered
  have advanced := congrArg (Option.map fun next => earlier ++ [response] ++ [next]) answered
  rcases PageBounds.ledgers_cases ⟨last.sequence + 1, size⟩ round.stored positive with
    ⟨empty, none⟩ | ⟨next, rest, page, parts, cursor, -, -⟩
  · refine ⟨_, advanced, last, seen.idle ?_ ?_, fun _ => ⟨seen.cursor, ?_⟩⟩
    · rw [empty]
      rfl
    -- an empty page steps back from where the cursor had stepped on to
    · rw [empty]
      exact congrArg toString (predecessor_succ below)
    · exact ClosedLedger.le_of_since_succ_eq_nil below none
  · refine ⟨_, advanced, next, seen.extend round.stores.ascending below parts page rfl (congrArg toString cursor), ?_⟩
    intro empty
    exact absurd (List.map_eq_nil_iff.mp empty) (List.ne_nil_of_mem (List.mem_of_getLast? page))

end Round

/-- What holds after each response, from some responses on. -/
inductive Visits (start : UInt32) : List LedgersResponse → List Round → List LedgersResponse → Prop where
  | done {earlier} : Visits start earlier [] []
  | next {earlier round response rounds responses} (visit : Visit start round earlier response)
      (others : Visits start (earlier ++ [response]) rounds responses) :
      Visits start earlier (round :: rounds) (response :: responses)

namespace Visits

variable {start : UInt32} {earlier responses : List LedgersResponse} {rounds : List Round}

theorem length_eq (visits : Visits start earlier rounds responses) : responses.length = rounds.length := by
  induction visits with
  | done => rfl
  | next _ _ ih => rw [List.length_cons, ih, List.length_cons]

theorem visit_of_split (visits : Visits start earlier rounds responses) {before after : List Round} {round : Round}
    (parts : rounds = before ++ round :: after) :
    ∃ front response later, responses = front ++ response :: later ∧ front.length = before.length ∧
      Visit start round (earlier ++ front) response := by
  induction visits generalizing before with
  | done => simp at parts
  | @next earlier _ response _ responses visit _ ih =>
      cases before with
      | nil =>
          cases parts
          exact ⟨[], response, responses, rfl, rfl, by rwa [List.append_nil]⟩
      | cons _ before =>
          rcases ih (List.cons.inj parts).2 with ⟨front, found, later, rfl, size, visited⟩
          refine ⟨response :: front, found, later, rfl, by rw [List.length_cons, size, List.length_cons], ?_⟩
          rwa [List.append_assoc, List.singleton_append] at visited

/-- After one response, every request is answered and continues what has been seen. -/
theorem of_visit {limits : PageLimits} (allowed : ∀ round ∈ rounds, limits.Allows round.limit) {previous : Round}
    (growing : (previous :: rounds).IsChain fun earlier later => earlier.stored <+: later.stored)
    {response : LedgersResponse} (visit : Visit start previous earlier response) :
    ∃ more, rounds.foldlM (Round.ask limits start) (earlier ++ [response]) = some (earlier ++ [response] ++ more) ∧
      Visits start (earlier ++ [response]) rounds more := by
  induction rounds generalizing previous earlier response with
  | nil => exact ⟨[], by rw [List.append_nil]; rfl, .done⟩
  | cons round others ih =>
      rcases List.forall_mem_cons.mp allowed with ⟨own, rest⟩
      rcases List.isChain_cons_cons.mp growing with ⟨larger, chain⟩
      rcases Round.visit_following own visit larger with ⟨next, asked, visited⟩
      rcases ih rest chain visited with ⟨more, walked, visits⟩
      refine ⟨next :: more, ?_, .next visited visits⟩
      rw [List.foldlM_cons, asked, List.append_cons _ next more]
      exact walked

theorem of_walk {limits : PageLimits} (allowed : ∀ round ∈ rounds, limits.Allows round.limit)
    (inside : ∀ first ∈ rounds.head?,
      ∃ range, ends? first.stored = some range ∧ range.first ≤ start ∧ start ≤ range.last)
    (growing : rounds.IsChain fun earlier later => earlier.stored <+: later.stored) :
    ∃ responses, walk? limits start rounds = some responses ∧ Visits start [] rounds responses := by
  cases rounds with
  | nil => exact ⟨[], rfl, .done⟩
  | cons first others =>
      rcases List.forall_mem_cons.mp allowed with ⟨own, rest⟩
      rcases inside first rfl with ⟨range, ends, after, before⟩
      rcases Round.visit_opening own ends after before with ⟨response, asked, visit⟩
      rcases of_visit rest growing visit with ⟨more, walked, visits⟩
      refine ⟨response :: more, ?_, .next visit visits⟩
      rw [walk?, List.foldlM_cons, asked]
      exact walked

end Visits

/--
A client that starts inside the stored range and follows the cursors is always answered, whatever page sizes it asks
for and however many ledgers are added meanwhile. After every response the pages are the stored ledgers from the start
to the one that the cursor names, each exactly once, in order, and shown with its own hash and close time. A page is
empty only if no ledger is stored beyond the cursor, and then repeats the cursor.
-/
theorem cursors_visit_every_ledger (limits : PageLimits) (start : UInt32) (rounds : List Round)
    (inside : ∀ first ∈ rounds.head?,
      ∃ range, ends? first.stored = some range ∧ range.first ≤ start ∧ start ≤ range.last)
    (growing : rounds.IsChain fun earlier later => earlier.stored <+: later.stored)
    (allowed : ∀ round ∈ rounds, limits.Allows round.limit) :
    ∃ responses, walk? limits start rounds = some responses ∧ responses.length = rounds.length ∧
      ∀ before round after, rounds = before ++ round :: after →
        ∃ earlier response later, responses = earlier ++ response :: later ∧ earlier.length = before.length ∧
          ∃ last ∈ round.stored, response.cursor = toString last.sequence ∧
            (earlier ++ [response]).flatMap LedgersResponse.ledgers =
              (round.stored.filter fun ledger => start ≤ ledger.sequence ∧ ledger.sequence ≤ last.sequence).map
                ClosedLedger.entry ∧
            List.Forall₂ LedgerEntry.Shows ((earlier ++ [response]).flatMap LedgersResponse.ledgers)
              (round.stored.filter fun ledger => start ≤ ledger.sequence ∧ ledger.sequence ≤ last.sequence) ∧
            ((earlier ++ [response]).flatMap LedgersResponse.ledgers).map (fun entry => entry.sequence.toNat) =
              List.range' start.toNat (last.sequence.toNat + 1 - start.toNat) ∧
            (response.ledgers = [] →
              earlier.getLast?.map LedgersResponse.cursor = some response.cursor ∧
                ∀ ledger ∈ round.stored, ledger.sequence ≤ last.sequence) := by
  rcases Visits.of_walk allowed inside growing with ⟨responses, walked, visits⟩
  refine ⟨responses, walked, visits.length_eq, ?_⟩
  intro before round after parts
  rcases visits.visit_of_split parts with ⟨earlier, response, later, split, size, last, seen, idle⟩
  rw [List.nil_append] at seen idle
  have cursor : response.cursor = toString last.sequence := by
    have found := seen.cursor
    rw [List.getLast?_concat] at found
    exact Option.some.inj found
  refine ⟨earlier, response, later, split, size, last, seen.member, cursor, seen.pages, ?_, ?_, ?_⟩
  · rw [seen.pages]
    exact ClosedLedger.shown_entries _
  · rcases seen.first with ⟨first, member, rfl⟩
    rw [seen.pages, List.map_map]
    exact round.consecutive.sequences_span member seen.member seen.inside
  · rw [cursor]
    exact idle

/-- An undisturbed request to a store with quiet ledgers. -/
def Round.calm (sequences : List UInt32) (limit : Option UInt32)
    (chain : sequences.IsChain fun earlier later => later = earlier + 1)
    (bounded : ∀ sequence ∈ sequences, sequence ≠ 4294967295) : Round :=
  let stored := sequences.map ClosedLedger.quiet
  have linked : stored.IsChain ClosedLedger.Precedes := (List.isChain_map ClosedLedger.quiet).mpr chain
  have apart : ∀ ledger ∈ stored, ledger.sequence ≠ 4294967295 := List.forall_mem_map.mpr bounded
  have consecutive : Consecutive stored := ⟨linked, fun ledger member => apart ledger (List.mem_of_mem_dropLast member)⟩
  let book : FeeBook := (FeeBook.empty 1 1 "network").toOption.get rfl
  { surroundings := ⟨.on ⟨stored.map ClosedLedger.row, true⟩, book, default, []⟩
    stored := stored
    limit := limit
    smooth := nofun
    stores := ⟨rfl, rfl, consecutive.ascending⟩
    chain := linked
    bounded := apart }

/-- Four requests, with a ledger added before the last one. -/
def fourRounds : List Round :=
  [.calm [7, 8] (some 1) (by decide) (by simp), .calm [7, 8] none (by decide) (by simp),
    .calm [7, 8] (some 2) (by decide) (by simp), .calm [7, 8, 9] (some 2) (by decide) (by simp)]

theorem cursors_visit_fourRounds :
    ∃ responses, walk? ⟨2, 1⟩ 7 fourRounds = some responses ∧
      responses.map LedgersResponse.cursor = ["7", "8", "8", "9"] ∧
      List.Forall₂ LedgerEntry.Shows (responses.flatMap LedgersResponse.ledgers) [.quiet 7, .quiet 8, .quiet 9] ∧
      (responses.flatMap LedgersResponse.ledgers).map (fun entry => entry.sequence.toNat) = [7, 8, 9] := by
  have inside : ∀ first ∈ fourRounds.head?,
      ∃ range, ends? first.stored = some range ∧ range.first ≤ 7 ∧ 7 ≤ range.last := by
    intro first found
    cases found
    exact ⟨⟨7, 8⟩, rfl, by decide, by decide⟩
  have growing : fourRounds.IsChain fun earlier later => earlier.stored <+: later.stored := by
    simp only [fourRounds, Round.calm, List.isChain_cons_cons, List.isChain_singleton]
    decide
  have allowed : ∀ round ∈ fourRounds, PageLimits.Allows ⟨2, 1⟩ round.limit := by
    simp [fourRounds, Round.calm, PageLimits.Allows]
  have cursors : (walk? ⟨2, 1⟩ 7 fourRounds).map (List.map LedgersResponse.cursor) = some ["7", "8", "8", "9"] := by
    decide +kernel
  rcases cursors_visit_every_ledger ⟨2, 1⟩ 7 fourRounds inside growing allowed with ⟨responses, walked, length, points⟩
  rcases points (fourRounds.take 3) _ [] rfl with
    ⟨earlier, response, later, rfl, size, last, member, cursor, -, shown, sequences, -⟩
  have three : earlier.length = 3 := size
  have four : (earlier ++ response :: later).length = 4 := length
  rw [List.length_append, List.length_cons, three] at four
  have ended : later = [] := List.length_eq_zero_iff.mp (by omega)
  subst ended
  rw [walked] at cursors
  have named : (earlier.map LedgersResponse.cursor).concat response.cursor = ["7", "8", "8"].concat "9" := by
    simpa using cursors
  -- of the ledgers in the last store only the newest has the sequence that the last cursor names
  have newest : last = .quiet 9 := by
    have final : toString last.sequence = "9" := cursor.symm.trans (List.concat_inj.mp named).2
    have among : last ∈ [ClosedLedger.quiet 7, .quiet 8, .quiet 9] := member
    simp only [List.mem_cons, List.not_mem_nil, or_false] at among
    rcases among with rfl | rfl | rfl
    · exact absurd final (by decide)
    · exact absurd final (by decide)
    · rfl
  subst newest
  exact ⟨_, walked, Option.some.inj cursors, shown, sequences⟩

end LedgerService
