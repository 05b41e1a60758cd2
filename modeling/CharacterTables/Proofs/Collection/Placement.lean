import Mathlib
import CharacterTables.Collection.Position
import CharacterTables.Proofs.Collection.LastWins
import CharacterTables.Proofs.Collection.Numbering

/-!
# Values at places

Values are put at places one after another, and each is interned in a catalog. The number
stored for a place then leads back to the value that was put there last, or to the blank
value that the catalog took first.
-/

set_option autoImplicit false

namespace CharacterTables

variable {κ : Type}

/-- The value that was put last at a place. -/
def valueAt (blank : κ) (placed : List (Nat × κ)) (place : Nat) : κ :=
  placed.foldl (fun found pair => if pair.1 = place then pair.2 else found) blank

theorem valueAt_append_singleton (blank : κ) (placed : List (Nat × κ)) (put place : Nat)
    (value : κ) :
    valueAt blank (placed ++ [(put, value)]) place =
      if put = place then value else valueAt blank placed place := by
  unfold valueAt
  rw [List.foldl_append]
  rfl

theorem valueAt_mem_or (blank : κ) (placed : List (Nat × κ)) (place : Nat) :
    (place, valueAt blank placed place) ∈ placed ∨
      valueAt blank placed place = blank ∧ ∀ value, (place, value) ∉ placed := by
  induction placed using List.reverseRecOn with
  | nil => exact .inr ⟨rfl, fun value => List.not_mem_nil⟩
  | append_singleton placed last ih =>
      obtain ⟨put, value⟩ := last
      rw [valueAt_append_singleton]
      by_cases same : put = place
      · rw [if_pos same, same]
        exact .inl (List.mem_append_right placed List.mem_cons_self)
      · rw [if_neg same]
        rcases ih with member | ⟨unchanged, absent⟩
        · exact .inl (List.mem_append_left _ member)
        · refine .inr ⟨unchanged, fun other member => ?_⟩
          rcases List.mem_append.mp member with earlier | last
          · exact absent other earlier
          · cases List.mem_singleton.mp last
            exact same rfl

theorem valueAt_mem (blank : κ) (placed : List (Nat × κ)) (place : Nat) :
    valueAt blank placed place ∈ blank :: placed.map Prod.snd := by
  rcases valueAt_mem_or blank placed place with member | ⟨unchanged, _⟩
  · exact List.mem_cons_of_mem blank (List.mem_map.mpr ⟨_, member, rfl⟩)
  · rw [unchanged]
    exact List.mem_cons_self

/-- Items with different codes in an interval are no more than the interval has codes. -/
theorem length_filterMap_le {α β : Type} {items : List α} {code : α → Int}
    {select : α → Option β} {low high : Int} (distinct : (items.map code).Nodup)
    (inside : ∀ item ∈ items, (select item).isSome → low ≤ code item ∧ code item ≤ high) :
    (items.filterMap select).length ≤ (high + 1 - low).toNat := by
  have selected : ((items.filter fun item => (select item).isSome).map code).Nodup :=
    (List.filter_sublist.map code).nodup distinct
  have subset : ((items.filter fun item => (select item).isSome).map code).toFinset ⊆
      Finset.Icc low high := by
    intro value member
    obtain ⟨item, filtered, rfl⟩ := List.mem_map.mp (List.mem_toFinset.mp member)
    obtain ⟨listed, some⟩ := List.mem_filter.mp filtered
    exact Finset.mem_Icc.mpr (inside item listed some)
  have bound := Finset.card_le_card subset
  rw [List.toFinset_card_of_nodup selected, List.length_map, Int.card_Icc] at bound
  rwa [List.length_filterMap_eq_countP, List.countP_eq_length_filter]

/-! ## Items placed by their codes -/

section Items

variable {α : Type} {size : Nat} {code : α → Int} {value : α → κ} {items : List α} {item : α}

/-- The values of items at the places that the codes of the items name, in order. An item
whose code names no place is passed over. -/
def placements (size : Nat) (code : α → Int) (value : α → κ) (items : List α) :
    List (Nat × κ) :=
  items.filterMap fun item => (placeOf size (code item)).toOption.map (·, value item)

theorem mem_placements_iff {place : Nat} {entry : κ} :
    (place, entry) ∈ placements size code value items ↔
      ∃ item ∈ items, placeOf size (code item) = .ok place ∧ value item = entry := by
  unfold placements
  rw [List.mem_filterMap]
  refine exists_congr fun item => and_congr_right fun _ => ?_
  cases placeOf size (code item) with
  | error fault => simp [Except.toOption]
  | ok found => simp [Except.toOption]

theorem placements_append_of_ok {place : Nat}
    (found : placeOf size (code item) = .ok place) :
    placements size code value (items ++ [item]) =
      placements size code value items ++ [(place, value item)] := by
  unfold placements
  rw [List.filterMap_append, List.filterMap_cons, found]
  rfl

theorem placements_append_of_le (behind : (size : Int) ≤ code item) :
    placements size code value (items ++ [item]) = placements size code value items := by
  obtain ⟨fault, unnamed⟩ := placeOf_of_outside (.inr behind)
  unfold placements
  rw [List.filterMap_append, List.filterMap_cons, unnamed]
  exact List.append_nil _

/-- Different codes name each place at most twice, once from either end. -/
theorem length_placements_le (distinct : (items.map code).Nodup) :
    (placements size code value items).length ≤ 2 * size := by
  have named : ∀ item, ((placeOf size (code item)).toOption.map (·, value item)).isSome →
      -(size : Int) ≤ code item ∧ code item ≤ size - 1 := by
    intro item some
    cases found : placeOf size (code item) with
    | error fault =>
        rw [found] at some
        cases some
    | ok place =>
        have bounds := bounds_of_placeOf found
        exact ⟨bounds.1, Int.le_sub_one_of_lt bounds.2⟩
  have bound := length_filterMap_le distinct fun item _ => named item
  unfold placements
  omega

/-- At the place of a code stands the value of the item with that code, if there is one. -/
theorem valueAt_placements (blank : κ) (nonneg : ∀ item ∈ items, 0 ≤ code item) {place : Nat}
    (inside : place < size) (small : (place : Int) < wordLimit) :
    (∃ item ∈ items, code item = place ∧
        valueAt blank (placements size code value items) place = value item) ∨
      (valueAt blank (placements size code value items) place = blank ∧
        ∀ item ∈ items, code item ≠ place) := by
  rcases valueAt_mem_or blank (placements size code value items) place with
    member | ⟨unchanged, absent⟩
  · obtain ⟨item, listed, found, entry⟩ := mem_placements_iff.mp member
    exact .inl ⟨item, listed, eq_of_placeOf (nonneg item listed) found, entry.symm⟩
  · refine .inr ⟨unchanged, fun item listed own => ?_⟩
    have found : placeOf size (code item) = .ok place := by
      rw [own]
      exact placeOf_of_lt inside small
    exact absent (value item) (mem_placements_iff.mpr ⟨item, listed, found, rfl⟩)

/-- At a place stands the value of the last item whose code names it. -/
theorem valueAt_placements_eq (blank : κ) {place : Nat} {test : α → Bool}
    (names : ∀ item ∈ items, test item = true ↔ placeOf size (code item) = .ok place) :
    valueAt blank (placements size code value items) place =
      ((lastWith test items).map value).getD blank := by
  induction items using List.reverseRecOn with
  | nil => rfl
  | append_singleton items last ih =>
      have earlier := ih fun item listed => names item (List.mem_append_left [last] listed)
      have own := names last (List.mem_append_right items List.mem_cons_self)
      rw [lastWith_append_singleton]
      cases found : placeOf size (code last) with
      | error fault =>
          have skipped : ¬ test last = true := fun passes => by
            rw [own.mp passes] at found
            cases found
          rw [if_neg skipped, ← earlier]
          unfold placements
          rw [List.filterMap_append, List.filterMap_cons, found]
          exact congrArg (valueAt blank · place) (List.append_nil _)
      | ok put =>
          rw [placements_append_of_ok found, valueAt_append_singleton, earlier]
          by_cases same : put = place
          · rw [if_pos same, if_pos (own.mpr (same ▸ found))]
            rfl
          · have skipped : ¬ test last = true := fun passes => by
              rw [own.mp passes] at found
              exact same (Except.ok.inj found).symm
            rw [if_neg same, if_neg skipped]

/-- Where no code is negative, the values placed are those of the items whose codes are not
beyond the last place. -/
theorem map_snd_placements (nonneg : ∀ item ∈ items, 0 ≤ code item)
    (small : (size : Int) ≤ wordLimit) :
    (placements size code value items).map Prod.snd =
      (items.filter fun item => code item < size).map value := by
  induction items with
  | nil => rfl
  | cons item rest ih =>
      have others := ih fun other listed => nonneg other (List.mem_cons_of_mem item listed)
      obtain ⟨place, own⟩ := Int.eq_ofNat_of_zero_le (nonneg item List.mem_cons_self)
      by_cases inside : code item < size
      · have found : placeOf size (code item) = .ok place := by
          rw [own] at inside ⊢
          exact placeOf_of_lt (Int.ofNat_lt.mp inside) (inside.trans_le small)
        rw [List.filter_cons_of_pos (by simpa using inside), List.map_cons, ← others]
        unfold placements
        rw [List.filterMap_cons, found]
        rfl
      · have behind : code item < -(size : Int) ∨ (size : Int) ≤ code item :=
          .inr (Int.not_lt.mp inside)
        obtain ⟨fault, unnamed⟩ := placeOf_of_outside behind
        rw [List.filter_cons_of_neg (by simpa using inside), ← others]
        unfold placements
        rw [List.filterMap_cons, unnamed]
        rfl

end Items

/-! ## Numbers of places -/

variable [BEq κ] [LawfulBEq κ]

theorem numberIn_cons_self (value : κ) (rest : List κ) : numberIn (value :: rest) value = 0 := by
  unfold numberIn
  rw [List.eraseDups_cons, List.idxOf_cons_self]

variable [Ord κ]

/-- A catalog and the numbers of places, after values were put at places. -/
structure Placed (blank : κ) (placed : List (Nat × κ)) (catalog : Catalog κ)
    (numbers : Std.TreeMap Nat Nat) : Prop where
  took : catalog.Took (blank :: placed.map Prod.snd)
  number : ∀ place, numbers.getD place 0 =
    numberIn (blank :: placed.map Prod.snd) (valueAt blank placed place)

namespace Placed

variable {blank : κ} {placed : List (Nat × κ)} {catalog : Catalog κ}
  {numbers : Std.TreeMap Nat Nat}

theorem getElem?_number (holds : Placed blank placed catalog numbers) (place : Nat) :
    catalog.entries[numbers.getD place 0]? = some (valueAt blank placed place) := by
  rw [← Array.getElem?_toList, holds.took, holds.number]
  exact getElem?_numberIn (valueAt_mem blank placed place)

/-- Places have the same number just if they have the same value. -/
theorem number_eq_iff (holds : Placed blank placed catalog numbers) {first second : Nat} :
    numbers.getD first 0 = numbers.getD second 0 ↔
      valueAt blank placed first = valueAt blank placed second := by
  rw [holds.number, holds.number]
  exact numberIn_inj (valueAt_mem blank placed first) (valueAt_mem blank placed second)

theorem number_eq_zero_iff (holds : Placed blank placed catalog numbers) {place : Nat} :
    numbers.getD place 0 = 0 ↔ valueAt blank placed place = blank := by
  rw [holds.number, ← numberIn_cons_self blank (placed.map Prod.snd)]
  exact numberIn_inj (valueAt_mem blank placed place) List.mem_cons_self

theorem number_le (holds : Placed blank placed catalog numbers) (place : Nat) :
    numbers.getD place 0 ≤ placed.length := by
  have bound := numberIn_lt (valueAt_mem blank placed place)
  have distinct := length_eraseDups_le (blank :: placed.map Prod.snd)
  rw [List.length_cons, List.length_map] at distinct
  rw [holds.number]
  omega

variable [Std.TransOrd κ] [Std.LawfulEqOrd κ]

theorem start (blank : κ) : Placed blank [] (Catalog.empty.intern blank).2 ∅ := by
  refine ⟨(Catalog.took_empty.intern blank).1, fun place => ?_⟩
  rw [Std.TreeMap.getD_emptyc]
  exact (numberIn_cons_self blank []).symm

/-- Putting a value at a place leaves the numbers of all other places. -/
theorem put (holds : Placed blank placed catalog numbers) (place : Nat) (value : κ) :
    Placed blank (placed ++ [(place, value)]) (catalog.intern value).2
      (numbers.insert place (catalog.intern value).1) := by
  obtain ⟨took, number⟩ := holds.took.intern value
  have taken : (blank :: placed.map Prod.snd) ++ [value] =
      blank :: (placed ++ [(place, value)]).map Prod.snd := by
    rw [List.map_append, List.cons_append]
    rfl
  rw [taken] at took number
  refine ⟨took, fun other => ?_⟩
  rw [Std.TreeMap.getD_insert, valueAt_append_singleton]
  by_cases same : place = other
  · rw [if_pos same, if_pos (Std.LawfulEqCmp.compare_eq_iff_eq.mpr same)]
    exact number
  · rw [if_neg same, if_neg (mt Std.LawfulEqCmp.compare_eq_iff_eq.mp same), ← taken,
      numberIn_append (valueAt_mem blank placed other)]
    exact holds.number other

end Placed

/-! ## Listing items -/

section Listing

variable {α : Type} {size : Nat} {code : α → Int} {value : α → κ} {fits : α → Prop} {blank : κ}
  {items : List α} {item : α} {catalog : Catalog κ} {numbers : Std.TreeMap Nat Nat}

/-- Items were listed: the value of each was put at the place of its code, and all whose
codes are not beyond the last place fit. -/
structure Listing (size : Nat) (code : α → Int) (value : α → κ) (fits : α → Prop) (blank : κ)
    (items : List α) (catalog : Catalog κ) (numbers : Std.TreeMap Nat Nat) : Prop where
  placed : Placed blank (placements size code value items) catalog numbers
  fits : ∀ item ∈ items, code item < size → fits item

namespace Listing

theorem number_le (listing : Listing size code value fits blank items catalog numbers)
    (distinct : (items.map code).Nodup) (place : Nat) : numbers.getD place 0 ≤ 2 * size :=
  (listing.placed.number_le place).trans (length_placements_le distinct)

theorem number_lt_size (listing : Listing size code value fits blank items catalog numbers)
    (place : Nat) : numbers.getD place 0 < catalog.size :=
  (Array.getElem?_eq_some_iff.mp (listing.placed.getElem?_number place)).1

/-- The number of a place leads to the value of the item whose code names it, if there is
one. -/
theorem getElem?_number (listing : Listing size code value fits blank items catalog numbers)
    (nonneg : ∀ item ∈ items, 0 ≤ code item) {place : Nat} (inside : place < size)
    (small : (place : Int) < wordLimit) :
    (∃ item ∈ items, code item = place ∧ fits item ∧
        catalog.entries[numbers.getD place 0]? = some (value item)) ∨
      (catalog.entries[numbers.getD place 0]? = some blank ∧
        ∀ item ∈ items, code item ≠ place) := by
  rw [listing.placed.getElem?_number]
  rcases valueAt_placements blank nonneg inside small with
    ⟨item, listed, own, found⟩ | ⟨found, absent⟩
  · have fitting := listing.fits item listed (own ▸ Int.ofNat_lt.mpr inside)
    exact .inl ⟨item, listed, own, fitting, congrArg some found⟩
  · exact .inr ⟨congrArg some found, absent⟩

omit [LawfulBEq κ] in
theorem skip (listing : Listing size code value fits blank items catalog numbers)
    (behind : (size : Int) ≤ code item) :
    Listing size code value fits blank (items ++ [item]) catalog numbers := by
  constructor
  · rw [placements_append_of_le behind]
    exact listing.placed
  · intro other member inside
    rcases List.mem_append.mp member with earlier | last
    · exact listing.fits other earlier inside
    · cases List.mem_singleton.mp last
      exact absurd inside (Int.not_lt.mpr behind)

variable [Std.TransOrd κ] [Std.LawfulEqOrd κ]

theorem start (blank : κ) :
    Listing size code value fits blank [] (Catalog.empty.intern blank).2 ∅ :=
  ⟨Placed.start blank, fun _ member => absurd member List.not_mem_nil⟩

theorem put (listing : Listing size code value fits blank items catalog numbers) {place : Nat}
    (found : placeOf size (code item) = .ok place) (fitting : fits item) :
    Listing size code value fits blank (items ++ [item]) (catalog.intern (value item)).2
      (numbers.insert place (catalog.intern (value item)).1) := by
  constructor
  · rw [placements_append_of_ok found]
    exact listing.placed.put place (value item)
  · intro other member inside
    rcases List.mem_append.mp member with earlier | last
    · exact listing.fits other earlier inside
    · cases List.mem_singleton.mp last
      exact fitting

end Listing

end Listing

end CharacterTables
