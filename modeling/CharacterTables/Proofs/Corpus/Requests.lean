import Mathlib
import CharacterTables.Corpus.Cursors

/-!
# What requests are answered

Whoever asks for the records of a reading piece by piece gets the first of them, as many as were
asked for. The request that asks for more than there is gets the ending too; those behind it get
nothing more. Several cursors do not notice each other.
-/

set_option autoImplicit false

namespace CharacterTables

variable {α : Type}

/-! ## Runs that are cut -/

theorem Run.records_take (run : Run α) (count : Nat) :
    (run.take count).records = run.records.take count := by
  simp [take, records, ← List.map_take, List.take_range]

theorem Run.records_drop (run : Run α) (count : Nat) :
    (run.drop count).records = run.records.drop count := by
  refine List.ext_getElem (by simp [drop]) fun index first second => ?_
  simp [drop, records, Int.add_assoc]

namespace Reading

theorem records_splitRuns (count : Nat) (runs : List (Run α)) :
    (splitRuns count runs).1 = (runs.flatMap Run.records).take count ∧
      (splitRuns count runs).2.flatMap Run.records = (runs.flatMap Run.records).drop count := by
  fun_induction splitRuns count runs with
  | case1 count => simp
  | case2 count run rest inside =>
      have short : count - run.records.length = 0 := by
        rw [Run.length_records]
        omega
      rw [List.flatMap_cons, List.flatMap_cons, List.take_append, List.drop_append, short,
        Run.records_take, Run.records_drop]
      simp
  | case3 count run rest behind others remaining found ih =>
      rw [found] at ih
      have long : run.records.length ≤ count := by
        rw [Run.length_records]
        omega
      rw [List.flatMap_cons, List.take_append, List.drop_append, List.take_of_length_le long,
        List.drop_of_length_le long, Run.length_records, ← ih.1, List.nil_append]
      exact ⟨rfl, ih.2⟩

/-! ## A single request -/

/-- How many records a request asks for; without a limit, all that there may be. -/
def amount (limit : Option Nat) : ℕ∞ :=
  limit.elim ⊤ Nat.cast

def ending (reading : Reading α) : Ending :=
  reading.stop.elim .done .failed

/-- A request takes the first records of a reading and leaves the others. If it asks for more than
there are it meets the ending, and behind it no fault is left. -/
structure Delivers (reading : Reading α) (limit : Option Nat) (delivery : Delivery α)
    (rest : Reading α) : Prop where
  records : reading.records = delivery.records ++ rest.records
  length : (delivery.records.length : ℕ∞) = min (amount limit) reading.records.length
  inside : amount limit ≤ reading.records.length →
    delivery.ending = none ∧ rest.stop = reading.stop
  beyond : reading.records.length < amount limit →
    delivery.ending = some reading.ending ∧ rest.stop = none

theorem pull_some_of_lt {reading : Reading α} {count : Nat}
    (beyond : reading.records.length < count) :
    reading.pull (some count) =
      ({ records := reading.records, ending := some reading.ending }, exhausted) := by
  have taken := (records_splitRuns count reading.runs).1
  have whole : (splitRuns count reading.runs).1 = reading.records :=
    taken.trans (List.take_of_length_le beyond.le)
  simp only [pull, whole, if_pos beyond]
  rfl

theorem pull_some_of_le {reading : Reading α} {count : Nat}
    (inside : count ≤ reading.records.length) :
    reading.pull (some count) = ({ records := reading.records.take count, ending := none },
      { reading with runs := (splitRuns count reading.runs).2 }) := by
  have taken : (splitRuns count reading.runs).1 = reading.records.take count :=
    (records_splitRuns count reading.runs).1
  have enough : ¬ (reading.records.take count).length < count := by
    rw [List.length_take]
    omega
  simp only [pull, taken, if_neg enough]

theorem delivers_pull (reading : Reading α) (limit : Option Nat) :
    reading.Delivers limit (reading.pull limit).1 (reading.pull limit).2 := by
  cases limit with
  | none =>
      exact ⟨(List.append_nil _).symm, (min_eq_right le_top).symm,
        fun small => absurd small (by simp [amount]), fun _ => ⟨rfl, rfl⟩⟩
  | some count =>
      rcases Nat.lt_or_ge reading.records.length count with beyond | inside
      · have large : (reading.records.length : ℕ∞) < amount (some count) := Nat.cast_lt.mpr beyond
        rw [pull_some_of_lt beyond]
        exact ⟨(List.append_nil _).symm, (min_eq_right large.le).symm,
          fun small => absurd small large.not_ge, fun _ => ⟨rfl, rfl⟩⟩
      · have small : amount (some count) ≤ (reading.records.length : ℕ∞) := Nat.cast_le.mpr inside
        have left : reading.records.drop count =
            Reading.records { reading with runs := (splitRuns count reading.runs).2 } :=
          (records_splitRuns count reading.runs).2.symm
        rw [pull_some_of_le inside]
        refine ⟨?_, ?_, fun _ => ⟨rfl, rfl⟩, fun large => absurd small large.not_ge⟩
        · rw [← left, List.take_append_drop]
        · rw [min_eq_left small, List.length_take, Nat.min_eq_left inside]
          rfl

/-- The records and the ending of a reading say how every request is answered. -/
theorem Delivers.unique {first second rest others : Reading α} {limit : Option Nat}
    {delivery other : Delivery α} (delivers : first.Delivers limit delivery rest)
    (again : second.Delivers limit other others) (records : first.records = second.records)
    (stop : first.stop = second.stop) :
    delivery = other ∧ rest.records = others.records ∧ rest.stop = others.stop := by
  have lengths : delivery.records.length = other.records.length := by
    have both := delivers.length.trans (records ▸ again.length.symm)
    exact_mod_cast both
  have whole := delivers.records.symm.trans (records.trans again.records)
  obtain ⟨same, left⟩ := List.append_inj whole lengths
  have ends : delivery.ending = other.ending ∧ rest.stop = others.stop := by
    rcases le_or_gt (amount limit) (first.records.length : ℕ∞) with small | large
    · have inside := delivers.inside small
      rw [records] at small
      have insideAgain := again.inside small
      exact ⟨inside.1.trans insideAgain.1.symm, by rw [inside.2, insideAgain.2, stop]⟩
    · have beyond := delivers.beyond large
      rw [records] at large
      have beyondAgain := again.beyond large
      exact ⟨by rw [beyond.1, beyondAgain.1, ending, ending, stop],
        beyond.2.trans beyondAgain.2.symm⟩
  refine ⟨?_, left, ends.2⟩
  cases delivery
  cases other
  cases same
  cases ends.1
  rfl

/-! ## One request after the other -/

/-- What one request after the other is answered. -/
def answers (reading : Reading α) : List (Option Nat) → List (Delivery α)
  | [] => []
  | limit :: limits => (reading.pull limit).1 :: (reading.pull limit).2.answers limits

/-- The deliveries answer the requests in turn, each from what the one before has left. -/
inductive DeliversAll : Reading α → List (Option Nat) → List (Delivery α) → Prop
  | nil (reading : Reading α) : DeliversAll reading [] []
  | cons {reading rest : Reading α} {limit : Option Nat} {delivery : Delivery α}
      {limits : List (Option Nat)} {deliveries : List (Delivery α)} :
      reading.Delivers limit delivery rest → DeliversAll rest limits deliveries →
      DeliversAll reading (limit :: limits) (delivery :: deliveries)

theorem deliversAll_answers (reading : Reading α) (limits : List (Option Nat)) :
    reading.DeliversAll limits (reading.answers limits) := by
  induction limits generalizing reading with
  | nil => exact .nil reading
  | cons limit limits ih => exact .cons (reading.delivers_pull limit) (ih _)

theorem DeliversAll.unique {first second : Reading α} {limits : List (Option Nat)}
    {deliveries others : List (Delivery α)} (delivers : first.DeliversAll limits deliveries)
    (again : second.DeliversAll limits others) (records : first.records = second.records)
    (stop : first.stop = second.stop) : deliveries = others := by
  induction delivers generalizing second others with
  | nil =>
      cases again
      rfl
  | cons own _ ih =>
      cases again with
      | cons other rest =>
          obtain ⟨rfl, left, ends⟩ := own.unique other records stop
          rw [ih rest left ends]

/-! ## What is asked for in all -/

def asked (limits : List (Option Nat)) : ℕ∞ :=
  (limits.map amount).sum

/-- Together the answers give the first records, as many as were asked for. The first request beyond
the last record is answered with the ending, no request before it with any, and requests behind it
with nothing but the end. -/
structure Serves (reading : Reading α) (limits : List (Option Nat))
    (deliveries : List (Delivery α)) : Prop where
  count : deliveries.length = limits.length
  obtained : ∀ index, (deliveries.take index).flatMap Delivery.records <+: reading.records
  length : ∀ index, (((deliveries.take index).flatMap Delivery.records).length : ℕ∞) =
    min (asked (limits.take index)) reading.records.length
  before : ∀ (index : Nat) (delivery : Delivery α), deliveries[index]? = some delivery →
    asked (limits.take (index + 1)) ≤ reading.records.length → delivery.ending = none
  first : ∀ (index : Nat) (delivery : Delivery α), deliveries[index]? = some delivery →
    asked (limits.take index) ≤ reading.records.length →
      reading.records.length < asked (limits.take (index + 1)) →
        delivery.ending = some reading.ending
  behind : ∀ (index : Nat) (delivery : Delivery α), deliveries[index]? = some delivery →
    reading.records.length < asked (limits.take index) → delivery.records = [] ∧
      delivery.ending = if limits[index]? = some (some 0) then none else some .done

section Asked

variable {reading rest : Reading α} {limit : Option Nat} {limits : List (Option Nat)}
  {delivery : Delivery α} {deliveries : List (Delivery α)}

theorem asked_cons (limit : Option Nat) (limits : List (Option Nat)) :
    asked (limit :: limits) = amount limit + asked limits := by
  rw [asked, List.map_cons, List.sum_cons, asked]

theorem asked_take_succ {index : Nat} (found : limits[index]? = some limit) :
    asked (limits.take (index + 1)) = asked (limits.take index) + amount limit := by
  rw [List.take_add_one, found, asked, List.map_append, List.sum_append, asked]
  simp

theorem amount_eq_zero_iff : amount limit = 0 ↔ limit = some 0 := by
  cases limit with
  | none => simp [amount]
  | some count => simp [amount]

theorem Delivers.length_add (delivers : reading.Delivers limit delivery rest) :
    ((delivery.records.length : ℕ∞) + rest.records.length) = reading.records.length := by
  rw [delivers.records, List.length_append]
  push_cast
  rfl

/-- A request that does not reach the end leaves as much less. -/
theorem Delivers.add_le_iff (delivers : reading.Delivers limit delivery rest)
    (small : amount limit ≤ reading.records.length) (more : ℕ∞) :
    amount limit + more ≤ reading.records.length ↔ more ≤ rest.records.length := by
  rw [← delivers.length_add, delivers.length, min_eq_left small]
  exact WithTop.add_le_add_iff_left (ne_top_of_le_ne_top (ENat.natCast_ne_top _) small)

theorem Delivers.rest_eq_nil (delivers : reading.Delivers limit delivery rest)
    (large : reading.records.length ≤ amount limit) : rest.records = [] := by
  have all : delivery.records.length = reading.records.length := by
    exact_mod_cast delivers.length.trans (min_eq_right large)
  rw [delivers.records, List.length_append] at all
  exact List.eq_nil_of_length_eq_zero (by omega)

theorem Delivers.min_add (delivers : reading.Delivers limit delivery rest) (more : ℕ∞) :
    (delivery.records.length : ℕ∞) + min more rest.records.length =
      min (amount limit + more) reading.records.length := by
  rcases le_total (amount limit) (reading.records.length : ℕ∞) with small | large
  · rw [← delivers.length_add, delivers.length, min_eq_left small, min_add_add_left]
  · have further : (reading.records.length : ℕ∞) ≤ amount limit + more := large.trans le_self_add
    rw [delivers.rest_eq_nil large, min_eq_right further, delivers.length, min_eq_right large]
    simp

/-- Behind the end there is nothing, whatever is asked for. -/
theorem Serves.of_nil (serves : reading.Serves limits deliveries) (empty : reading.records = [])
    (stop : reading.stop = none) {index : Nat} (found : deliveries[index]? = some delivery) :
    delivery.records = [] ∧
      delivery.ending = if limits[index]? = some (some 0) then none else some .done := by
  obtain ⟨inside, own⟩ := List.getElem?_eq_some_iff.mp found
  have bound : index < limits.length := serves.count ▸ inside
  have asks := List.getElem?_eq_getElem bound
  have next := asked_take_succ asks
  constructor
  · have without := List.prefix_nil.mp (empty ▸ serves.obtained (index + 1))
    have listed : delivery ∈ deliveries.take (index + 1) := by
      rw [List.take_add_one, found]
      simp
    exact List.flatMap_eq_nil_iff.mp without delivery listed
  · have zero : (reading.records.length : ℕ∞) = 0 := by rw [empty]; rfl
    have done : reading.ending = .done := by rw [ending, stop]; rfl
    by_cases earlier : asked (limits.take index) = 0
    · rw [earlier, zero_add] at next
      by_cases nothing : limits[index]? = some (some 0)
      · rw [if_pos nothing]
        refine serves.before index delivery found ?_
        rw [next, zero, amount_eq_zero_iff.mpr (Option.some.inj (asks.symm.trans nothing))]
      · rw [if_neg nothing, ← done]
        refine serves.first index delivery found (earlier.trans_le bot_le) ?_
        rw [next, zero, pos_iff_ne_zero, ne_eq, amount_eq_zero_iff]
        exact fun same => nothing (same ▸ asks)
    · exact (serves.behind index delivery found (zero ▸ pos_iff_ne_zero.mpr earlier)).2

end Asked

theorem DeliversAll.serves {reading : Reading α} {limits : List (Option Nat)}
    {deliveries : List (Delivery α)} (delivers : reading.DeliversAll limits deliveries) :
    reading.Serves limits deliveries := by
  induction delivers with
  | nil reading =>
      exact ⟨rfl, by simp, by simp [asked], by simp, by simp, by simp⟩
  | @cons reading rest limit delivery limits deliveries own _ ih =>
      refine ⟨by rw [List.length_cons, List.length_cons, ih.count], ?obtained, ?length, ?before,
        ?first, ?behind⟩
      case obtained =>
        rintro (_ | index)
        · exact List.nil_prefix
        · rw [List.take_succ_cons, List.flatMap_cons, own.records, List.prefix_append_right_inj]
          exact ih.obtained index
      case length =>
        rintro (_ | index)
        · simp [asked]
        · rw [List.take_succ_cons, List.take_succ_cons, List.flatMap_cons, List.length_append,
            asked_cons, ← own.min_add, ← ih.length]
          push_cast
          rfl
      case before =>
        rintro (_ | index) later found small
        · cases found
          exact (own.inside (by simpa [asked] using small)).1
        · rw [List.take_succ_cons, asked_cons] at small
          have reach := le_self_add.trans small
          exact ih.before index later found ((own.add_le_iff reach _).mp small)
      case first =>
        rintro (_ | index) later found small large
        · cases found
          exact (own.beyond (by simpa [asked] using large)).1
        · rw [List.take_succ_cons, asked_cons] at small large
          have reach := le_self_add.trans small
          have same : rest.ending = reading.ending := by
            rw [ending, ending, (own.inside reach).2]
          rw [← same]
          exact ih.first index later found ((own.add_le_iff reach _).mp small)
            ((lt_iff_lt_of_le_iff_le (own.add_le_iff reach _)).mp large)
      case behind =>
        rintro (_ | index) later found large
        · simp [asked] at large
        · rw [List.take_succ_cons, asked_cons] at large
          rcases le_or_gt (amount limit) (reading.records.length : ℕ∞) with reach | beyond
          · exact ih.behind index later found
              ((lt_iff_lt_of_le_iff_le (own.add_le_iff reach _)).mp large)
          · exact ih.of_nil (own.rest_eq_nil beyond.le) (own.beyond beyond).2 found

end Reading

/-! ## Several cursors -/

/-- Of what is marked with the numbers of cursors, that of one cursor. -/
def ofCursor {β : Type} (cursor : Int) (marked : List (Int × β)) : List β :=
  marked.filterMap fun pair => if pair.1 = cursor then some pair.2 else none

namespace Cursors

/-- What cursors are answered that are asked in turn, in any order. -/
def serve (cursors : Cursors α) :
    List (Int × Option Nat) → List (Int × Reading.Delivery α)
  | [] => []
  | (cursor, limit) :: schedule =>
      (cursor, (cursors.pull cursor limit).1) :: (cursors.pull cursor limit).2.serve schedule

/-- A cursor is answered as if it were the only one. -/
theorem ofCursor_serve (cursors : Cursors α) (schedule : List (Int × Option Nat)) (cursor : Int) :
    ofCursor cursor (cursors.serve schedule) =
      (cursors.remaining cursor).answers (ofCursor cursor schedule) := by
  induction schedule generalizing cursors with
  | nil => rfl
  | cons request schedule ih =>
      obtain ⟨asking, limit⟩ := request
      by_cases own : asking = cursor
      · subst own
        have left := cursors.remaining_pull asking asking limit
        rw [if_pos rfl] at left
        simp only [serve, ofCursor, List.filterMap_cons, if_true, Reading.answers]
        rw [← left]
        exact congrArg _ (ih _)
      · have left := cursors.remaining_pull asking cursor limit
        rw [if_neg (Ne.symm own)] at left
        simp only [serve, ofCursor, List.filterMap_cons, if_neg own]
        rw [← left]
        exact ih _

end Cursors

end CharacterTables
