import Mathlib
import CharacterTables.Proofs.Collection.Ascending
import CharacterTables.Proofs.Corpus.Rows
import CharacterTables.PropertySets

/-!
# Written property files

A file written from sections of ranges is read to its end just if each section states the number
of its codes. Otherwise the reading stops on the line of the first wrong total, behind the records
of its section. A total with more places than a decimal numeral may have is not compared at all.
-/

set_option autoImplicit false

namespace CharacterTables

open Text

/-! ## Sections -/

/-- How a range of codes is written: by its two ends, or by the only code that it has. -/
inductive WrittenRange : Int → Int → List Char → Prop
  | ends {first last : Int} : first ≤ last →
      WrittenRange first last ((hexCode first).toList ++ '.' :: '.' :: (hexCode last).toList)
  | alone (code : Int) : WrittenRange code code (hexCode code).toList

theorem WrittenRange.forward {first last : Int} {range : List Char}
    (written : WrittenRange first last range) : first ≤ last := by
  cases written with
  | ends forward => exact forward
  | alone => exact Int.le_refl first

structure PropertyItem where
  first : Int
  last : Int
  range : List Char
  written : WrittenRange first last range
  property : FieldText
  remark : List Char
  silent : IsSilent remark

/-- Ranges with their properties, and the number that is stated behind them. -/
structure PropertySection where
  items : List PropertyItem
  stated : Int

namespace PropertyItem

def row (item : PropertyItem) : List Char :=
  CharacterTables.row [item.range ++ [' '], ' ' :: item.property.chars] item.remark

def run (item : PropertyItem) : Run PropertyRecord :=
  Run.between item.first item.last fun code =>
    { code, property := String.ofList item.property.chars }

def records (item : PropertyItem) : List PropertyRecord :=
  (Int.range item.first (item.last + 1)).map fun code =>
    { code, property := String.ofList item.property.chars }

def size (item : PropertyItem) : Int :=
  item.last - item.first + 1

theorem records_run (item : PropertyItem) : item.run.records = item.records :=
  Run.records_between item.first item.last _

end PropertyItem

def totalRow (stated : Int) : List Char :=
  totalMark ++ ' ' :: (toString stated).toList

namespace PropertySection

def rows (part : PropertySection) : List (List Char) :=
  part.items.map PropertyItem.row ++ [totalRow part.stated]

def records (part : PropertySection) : List PropertyRecord :=
  part.items.flatMap PropertyItem.records

def size (part : PropertySection) : Int :=
  (part.items.map PropertyItem.size).sum

/-- The section states the number of its codes, in as many places as are read. -/
def StatesSize (part : PropertySection) : Prop :=
  part.stated = part.size ∧ part.stated < decimalLimit

instance (part : PropertySection) : Decidable part.StatesSize :=
  inferInstanceAs (Decidable (_ ∧ _))

theorem size_nonneg (part : PropertySection) : 0 ≤ part.size := by
  refine List.sum_nonneg fun size listed => ?_
  obtain ⟨item, _, rfl⟩ := List.mem_map.mp listed
  have forward := item.written.forward
  unfold PropertyItem.size
  omega

end PropertySection

/-- A line that may stand anywhere in a file of properties: a blank one or a comment, but no
total. -/
def IsAside (text : List Char) : Prop :=
  IsSilent text ∧ ¬ totalMark <+: text

instance (text : List Char) : Decidable (IsAside text) :=
  inferInstanceAs (Decidable (_ ∧ _))

/-! ## Reading a range -/

section Range

variable {text : List Char} {first last : Int} {range : List Char}

theorem cutAtDots_eq_none (undotted : '.' ∉ text) (before : List Char) :
    readRange.cutAtDots before text = none := by
  induction text generalizing before with
  | nil => rfl
  | cons c rest ih =>
      simp only [List.mem_cons, not_or] at undotted
      obtain ⟨other, others⟩ := undotted
      rw [readRange.cutAtDots]
      · exact ih others (c :: before)
      · rintro _ rfl
        exact absurd rfl other

theorem cutAtDots_append (undotted : '.' ∉ text) (before after : List Char) :
    readRange.cutAtDots before (text ++ '.' :: '.' :: after) =
      some (before.reverse ++ text, after) := by
  induction text generalizing before with
  | nil => simp [readRange.cutAtDots]
  | cons c rest ih =>
      simp only [List.mem_cons, not_or] at undotted
      obtain ⟨other, others⟩ := undotted
      rw [List.cons_append, readRange.cutAtDots]
      · simpa using ih others (c :: before)
      · rintro _ rfl
        exact absurd rfl other

theorem dot_not_mem_hexCode (code : Int) : '.' ∉ (hexCode code).toList :=
  fun listed => (isPlain_of_mem_hexCode '.' listed).other (by simp)

theorem readRange_written (written : WrittenRange first last range) :
    readRange range = .ok (first, last) := by
  cases written with
  | ends forward =>
      rw [readRange, cutAtDots_append (dot_not_mem_hexCode first)]
      simp [bind, Except.bind, pure, Except.pure]
  | alone =>
      rw [readRange, cutAtDots_eq_none (dot_not_mem_hexCode first)]
      simp [bind, Except.bind, pure, Except.pure]

theorem isField_range (written : WrittenRange first last range) : IsField range := by
  cases written with
  | ends forward =>
      have dots : IsField ['.', '.'] := by decide
      exact (isField_hexCode first).append (dots.append (isField_hexCode last))
  | alone => exact isField_hexCode first

theorem isTrimmed_range (written : WrittenRange first last range) : IsTrimmed range := by
  cases written with
  | ends forward =>
      have dot : isBlank '.' = false := by decide
      have behind : ∀ c ∈ '.' :: '.' :: (hexCode last).toList, isBlank c = false :=
        List.forall_mem_cons.mpr ⟨dot, List.forall_mem_cons.mpr ⟨dot, isBlank_of_mem_hexCode⟩⟩
      exact isTrimmed_of_forall (List.forall_mem_append.mpr ⟨isBlank_of_mem_hexCode, behind⟩)
  | alone => exact isTrimmed_of_forall isBlank_of_mem_hexCode

theorem exists_range_cons (written : WrittenRange first last range) :
    ∃ c rest, range = c :: rest ∧ c ≠ '#' := by
  have signed : ∀ c ∈ range, c ≠ '#' := fun c listed =>
    ne_of_mem_of_not_mem listed (isField_range written).2.2
  have filled : range ≠ [] := by
    cases written with
    | ends forward => simp
    | alone => exact hexCode_ne_nil first
  obtain ⟨c, rest, rfl⟩ := List.exists_cons_of_ne_nil filled
  exact ⟨c, rest, rfl, signed c List.mem_cons_self⟩

end Range

/-! ## Reading a row -/

namespace PropertyItem

variable {item : PropertyItem} {line : Line}

theorem isField_of_mem_row : ∀ field ∈ [item.range ++ [' '], ' ' :: item.property.chars],
    IsField field := by
  have space : IsField [' '] := by decide
  intro field listed
  simp only [List.mem_cons, List.not_mem_nil, or_false] at listed
  rcases listed with rfl | rfl
  · exact (isField_range item.written).append space
  · exact space.append item.property.field

theorem total?_of_row (written : line.text = item.row) : line.total? = none := by
  obtain ⟨c, rest, range, other⟩ := exists_range_cons item.written
  have begun : ∃ behind, line.text = c :: behind := by
    rw [written, row, CharacterTables.row, intercalate_cons_cons, range]
    exact ⟨_, rfl⟩
  obtain ⟨behind, begun⟩ := begun
  have mark : totalMark = '#' :: " Total code points:".toList := by decide
  simp [Line.total?, begun, mark, Ne.symm other]

theorem readProperty_row (written : line.text = item.row) :
    readProperty line = .ok (item.first, item.last, String.ofList item.property.chars) := by
  have blank : isBlankText [' '] = true := by decide
  have space : isBlank ' ' = true := by decide
  have cut : line.fields = [item.range, item.property.chars] := by
    have fields := fields_row written isField_of_mem_row (List.cons_ne_nil _ _) item.silent
    simpa [trim_append_of_isBlankText blank, trim_cons_of_isBlank space,
      (isTrimmed_range item.written).trim_eq, item.property.trimmed.trim_eq] using fields
  rw [readProperty, cut]
  simp [readRange_written item.written, bind, Except.bind, pure, Except.pure]

theorem step_row (written : line.text = item.row) (count : Int) :
    propertyReader.step count line = .ok (count + item.size, [item.run]) := by
  have size : item.last + 1 - item.first = item.size := by
    unfold PropertyItem.size
    omega
  have data : line.isData = true := isData_row written (by simp) isField_of_mem_row
  rw [propertyReader_step_range (total?_of_row written) data (readProperty_row written), size]
  rfl

end PropertyItem

theorem IsAside.step {line : Line} (aside : IsAside line.text) (count : Int) :
    propertyReader.step count line = .ok (count, []) := by
  have unmarked : line.total? = none := by
    simp [Line.total?, List.isPrefixOf_iff_prefix, aside.2]
  exact propertyReader_step_of_not_isData unmarked aside.1.isData

/-! ## Reading a total -/

section Total

variable {line : Line} {stated : Int}

theorem toList_toString_natCast (number : Nat) :
    (toString (number : Int)).toList = Nat.toDigits 10 number :=
  Nat.toList_repr

theorem toList_toString_negSucc (number : Nat) :
    (toString (Int.negSucc number)).toList = '-' :: Nat.toDigits 10 number.succ := by
  simp [toString, Int.repr]

theorem checkTotal_natCast (line : Line) (count : Int) (number : Nat) :
    checkTotal line count (toString (number : Int)).toList =
      if decimalLimit ≤ number then .error (.totalTooLong (Nat.toDigits 10 number).length)
      else if (number : Int) = count then .ok () else .error (totalFault line count) := by
  have places := length_toDigits_le_iff number
  rw [toList_toString_natCast, checkTotal, isDigitText_toDigits, leadingDigits_toDigits,
    readDecimal?_toDigits]
  by_cases long : decimalLimit ≤ number
  · have many : maxDecimalPlaces < (Nat.toDigits 10 number).length :=
      Nat.lt_of_not_le fun few => absurd (places.mp few) (Nat.not_lt.mpr long)
    simp [long, many]
  · have few : ¬ maxDecimalPlaces < (Nat.toDigits 10 number).length :=
      Nat.not_lt.mpr (places.mpr (Nat.lt_of_not_le long))
    simp [long, few]

theorem checkTotal_of_neg (line : Line) (count : Int) (negative : stated < 0) :
    checkTotal line count (toString stated).toList = .error (totalFault line count) := by
  have minus : isDigitForm '-' = false := by decide
  cases stated with
  | ofNat number => exact absurd negative (by simp)
  | negSucc number =>
      rw [toList_toString_negSucc, checkTotal]
      simp [isDigitText, minus]

theorem isTrimmed_toString (stated : Int) : IsTrimmed (toString stated).toList := by
  have minus : isBlank '-' = false := by decide
  have visible (number : Nat) : ∀ c ∈ Nat.toDigits 10 number, isBlank c = false := by
    have each : ∀ digit < 10, isBlank (Nat.digitChar digit) = false := by decide
    intro c listed
    obtain ⟨digit, small, rfl⟩ := exists_digitChar (by decide) listed
    exact each digit small
  refine isTrimmed_of_forall ?_
  cases stated with
  | ofNat number =>
      rw [Int.ofNat_eq_natCast, toList_toString_natCast]
      exact visible number
  | negSucc number =>
      rw [toList_toString_negSucc]
      exact List.forall_mem_cons.mpr ⟨minus, visible number.succ⟩

theorem total?_totalRow (written : line.text = totalRow stated) :
    line.total? = some (toString stated).toList := by
  have space : isBlank ' ' = true := by decide
  have marked : totalMark.isPrefixOf line.text = true := by
    rw [written, List.isPrefixOf_iff_prefix]
    exact List.prefix_append totalMark _
  rw [Line.total?, if_pos marked, written, totalRow, List.drop_left, trim_cons_of_isBlank space,
    (isTrimmed_toString stated).trim_eq]

theorem unbroken_totalRow (stated : Int) : Unbroken (totalRow stated) := by
  have mark : Unbroken totalMark := by decide
  have space : isLineBreak ' ' = false := by decide
  have digits : Unbroken (toString stated).toList := oneLine_toString_int stated
  exact mark.append (List.forall_mem_cons.mpr ⟨space, digits⟩)

end Total

namespace PropertySection

variable {part : PropertySection} {line : Line}

/-- The fault that the line of a total is, if the section does not state its size. -/
inductive Rejected (part : PropertySection) (line : Line) : ReadFault → Prop
  | wrong : part.stated ≠ part.size → part.stated < decimalLimit → part.size < decimalLimit →
      Rejected part line (.line .properties line.number line.text (.wrongTotal part.size))
  | unwritten : part.stated ≠ part.size → part.stated < decimalLimit →
      decimalLimit ≤ part.size → Rejected part line .countTooLong
  | unread : decimalLimit ≤ part.stated →
      Rejected part line (.totalTooLong (Nat.toDigits 10 part.stated.toNat).length)

theorem rejected_totalFault (different : part.stated ≠ part.size)
    (read : part.stated < decimalLimit) : part.Rejected line (totalFault line part.size) := by
  have nonneg := part.size_nonneg
  unfold totalFault
  split
  · rename_i short
    exact .wrong different read (by omega)
  · rename_i long
    exact .unwritten different read (by omega)

theorem step_total (written : line.text = totalRow part.stated) (states : part.StatesSize) :
    propertyReader.step part.size line = .ok (0, []) := by
  obtain ⟨same, short⟩ := states
  refine propertyReader_step_total (total?_totalRow written) ?_
  obtain ⟨number, natural⟩ := Int.eq_ofNat_of_zero_le part.size_nonneg
  rw [same, natural] at short ⊢
  rw [checkTotal_natCast, if_neg (Nat.not_le.mpr (Int.ofNat_lt.mp short)), if_pos rfl]

theorem exists_step_total_fault (written : line.text = totalRow part.stated)
    (misstates : ¬ part.StatesSize) : ∃ fault, part.Rejected line fault ∧
      propertyReader.step part.size line = .error fault := by
  have marked := total?_totalRow written
  by_cases negative : part.stated < 0
  · have different : part.stated ≠ part.size := ne_of_lt (lt_of_lt_of_le negative part.size_nonneg)
    have read : part.stated < decimalLimit := lt_of_lt_of_le negative (Int.natCast_nonneg _)
    exact ⟨_, rejected_totalFault different read,
      propertyReader_step_of_bad_total marked (checkTotal_of_neg line part.size negative)⟩
  · obtain ⟨number, natural⟩ := Int.eq_ofNat_of_zero_le (Int.not_lt.mp negative)
    have checked := checkTotal_natCast line part.size number
    rw [← natural] at checked
    by_cases long : decimalLimit ≤ number
    · rw [if_pos long] at checked
      have unread : part.Rejected line (.totalTooLong (Nat.toDigits 10 number).length) := by
        have places : part.stated.toNat = number := by omega
        rw [← places]
        exact .unread (by omega)
      exact ⟨_, unread, propertyReader_step_of_bad_total marked checked⟩
    · have read : part.stated < decimalLimit := by omega
      have different : part.stated ≠ part.size := fun same => misstates ⟨same, read⟩
      rw [if_neg long, if_neg different] at checked
      exact ⟨_, rejected_totalFault different read, propertyReader_step_of_bad_total marked checked⟩

end PropertySection

/-! ## Reading sections -/

section Reading

variable {items : List PropertyItem} {part : PropertySection} {parts : List PropertySection}
  {lines : List Line}

theorem passes_items (count : Int)
    (spaced : Interspersed IsAside (items.map PropertyItem.row) (lines.map Line.text)) :
    propertyReader.Passes count lines (items.map PropertyItem.run)
      (count + (items.map PropertyItem.size).sum) := by
  induction items generalizing count lines with
  | nil => simpa using spaced.passes_nil fun line aside => aside.step count
  | cons item items ih =>
      refine spaced.passes_cons (fun line aside => aside.step count)
        fun line after written rest => ?_
      have behind := ih (count + item.size) rest
      rw [add_assoc] at behind
      exact .cons (item.step_row written count) behind

theorem PropertySection.passes (states : part.StatesSize)
    (spaced : Interspersed IsAside part.rows (lines.map Line.text)) :
    propertyReader.Passes 0 lines (part.items.map PropertyItem.run) 0 := by
  obtain ⟨before, after, split, head, tail⟩ := spaced.exists_append
  obtain ⟨first, rest, rfl, rfl, rfl⟩ := List.map_eq_append_iff.mp split
  have items := passes_items 0 head
  have total : propertyReader.Passes part.size rest [] 0 :=
    tail.passes_singleton (fun line aside => aside.step part.size) (fun line aside => aside.step 0)
      fun line written => part.step_total written states
  rw [zero_add] at items
  simpa using items.append total

theorem passes_sections (states : ∀ part ∈ parts, part.StatesSize)
    (spaced : Interspersed IsAside (parts.flatMap PropertySection.rows) (lines.map Line.text)) :
    propertyReader.Passes 0 lines
      (parts.flatMap fun part => part.items.map PropertyItem.run) 0 :=
  spaced.passes_flatMap (fun _ aside => aside.step 0)
    fun part listed _ own => part.passes (states part listed) own

/-- Where a section misstates its size, the lines of its ranges are passed over, and the line of its
total is at fault. -/
theorem read_misstated (states : ∀ part ∈ parts, part.StatesSize) (misstates : ¬ part.StatesSize)
    {others : List PropertySection}
    (spaced : Interspersed IsAside ((parts ++ part :: others).flatMap PropertySection.rows)
      (lines.map Line.text)) :
    ∃ head line tail fault, lines = head ++ line :: tail ∧
      Interspersed IsAside (parts.flatMap PropertySection.rows ++ part.items.map PropertyItem.row)
        (head.map Line.text) ∧
      line.text = totalRow part.stated ∧ part.Rejected line fault ∧
      propertyReader.read 0 lines =
        { runs := (parts.flatMap fun part => part.items.map PropertyItem.run) ++
            part.items.map PropertyItem.run
          stop := some fault } := by
  have whole : Interspersed IsAside
      ((parts.flatMap PropertySection.rows ++ part.items.map PropertyItem.row) ++
        totalRow part.stated :: others.flatMap PropertySection.rows) (lines.map Line.text) := by
    simpa [PropertySection.rows] using spaced
  obtain ⟨before, after, split, rows, _⟩ := whole.exists_append_cons
  obtain ⟨head, behind, rfl, rfl, found⟩ := List.map_eq_append_iff.mp split
  obtain ⟨line, tail, rfl, written, rfl⟩ := List.map_eq_cons_iff.mp found
  obtain ⟨fault, rejected, stuck⟩ := part.exists_step_total_fault written misstates
  refine ⟨head, line, tail, fault, rfl, rows, written, rejected, ?_⟩
  obtain ⟨earlier, own, split, first, second⟩ := rows.exists_append
  obtain ⟨begun, rest, rfl, rfl, rfl⟩ := List.map_eq_append_iff.mp split
  have sections := passes_sections states first
  have items := passes_items 0 second
  rw [zero_add] at items
  exact (sections.append items).read_fault stuck tail

end Reading

/-! ## The sets -/

namespace PropertySets

variable {code : Int}

theorem mem_insert {sets : PropertySets} {record : PropertyRecord} :
    (code ∈ (sets.insert record).idStart ↔
      code ∈ sets.idStart ∨ ⟨code, "ID_Start"⟩ = record) ∧
    (code ∈ (sets.insert record).idContinue ↔
      code ∈ sets.idContinue ∨ ⟨code, "ID_Continue"⟩ = record) := by
  obtain ⟨own, property⟩ := record
  have swap : compare own code = .eq ↔ code = own := by
    rw [Std.LawfulEqCmp.compare_eq_iff_eq, eq_comm]
  unfold insert
  split
  · rename_i start
    simp only at start
    simp [start, swap, or_comm]
  · rename_i start
    split
    · rename_i continues
      simp only at continues
      simp [continues, swap, or_comm]
    · rename_i continues
      simp_all [eq_comm]

theorem mem_foldl_insert {records : List PropertyRecord} {sets : PropertySets} :
    (code ∈ (records.foldl insert sets).idStart ↔
      code ∈ sets.idStart ∨ ⟨code, "ID_Start"⟩ ∈ records) ∧
    (code ∈ (records.foldl insert sets).idContinue ↔
      code ∈ sets.idContinue ∨ ⟨code, "ID_Continue"⟩ ∈ records) := by
  induction records generalizing sets with
  | nil => simp
  | cons record records ih =>
      obtain ⟨start, continues⟩ := @mem_insert code sets record
      obtain ⟨later, others⟩ := @ih (sets.insert record)
      rw [List.foldl_cons, later, others, start, continues]
      simp [or_assoc]

theorem mem_ofRecords {records : List PropertyRecord} :
    (code ∈ (ofRecords records).idStart ↔ ⟨code, "ID_Start"⟩ ∈ records) ∧
    (code ∈ (ofRecords records).idContinue ↔ ⟨code, "ID_Continue"⟩ ∈ records) := by
  obtain ⟨start, continues⟩ := @mem_foldl_insert code records empty
  have none : code ∉ empty.idStart ∧ code ∉ empty.idContinue := by simp [empty]
  exact ⟨start.trans (or_iff_right none.1), continues.trans (or_iff_right none.2)⟩

end PropertySets

/-- The code is in a range of the sections that has exactly the property. -/
def Covers (parts : List PropertySection) (property : String) (code : Int) : Prop :=
  ∃ part ∈ parts, ∃ item ∈ part.items, item.property.chars = property.toList ∧
    item.first ≤ code ∧ code ≤ item.last

instance (parts : List PropertySection) (property : String) (code : Int) :
    Decidable (Covers parts property code) :=
  inferInstanceAs (Decidable (∃ part ∈ parts, ∃ item ∈ part.items, _))

theorem mem_records_iff {parts : List PropertySection} {property : String} {code : Int} :
    ⟨code, property⟩ ∈ parts.flatMap PropertySection.records ↔ Covers parts property code := by
  have item (item : PropertyItem) : ⟨code, property⟩ ∈ item.records ↔
      item.property.chars = property.toList ∧ item.first ≤ code ∧ code ≤ item.last := by
    simp only [PropertyItem.records, List.mem_map, Int.mem_range_iff, PropertyRecord.mk.injEq]
    constructor
    · rintro ⟨other, ⟨above, below⟩, rfl, rfl⟩
      exact ⟨String.toList_ofList.symm, above, Int.lt_add_one_iff.mp below⟩
    · rintro ⟨named, above, below⟩
      exact ⟨code, ⟨above, Int.lt_add_one_iff.mpr below⟩, rfl, by rw [named, String.ofList_toList]⟩
  simp [Covers, PropertySection.records, item]

/-! ## Reading a file -/

theorem PropertySection.unbroken_of_mem_rows {part : PropertySection} :
    ∀ line ∈ part.rows, Unbroken line := by
  intro line listed
  rcases List.mem_append.mp listed with own | total
  · obtain ⟨item, _, rfl⟩ := List.mem_map.mp own
    exact unbroken_row item.isField_of_mem_row item.silent
  · obtain rfl := List.mem_singleton.mp total
    exact unbroken_totalRow part.stated

/-- The first section that misstates its size, if any does. -/
theorem exists_misstated {parts : List PropertySection}
    (some : ¬ ∀ part ∈ parts, part.StatesSize) :
    ∃ before bad after, parts = before ++ bad :: after ∧
      (∀ part ∈ before, part.StatesSize) ∧ ¬ bad.StatesSize := by
  cases found : parts.find? fun part => !decide part.StatesSize with
  | none => exact absurd (by simpa using found) some
  | some bad =>
      obtain ⟨misstates, before, after, split, states⟩ := List.find?_eq_some_iff_append.mp found
      exact ⟨before, bad, after, split, by simpa using states, by simpa using misstates⟩

section Text

variable {text : List Char} {parts : List PropertySection}

theorem flatMap_records_run (parts : List PropertySection) :
    (parts.flatMap fun part => part.items.map PropertyItem.run).flatMap Run.records =
      parts.flatMap PropertySection.records := by
  have part (part : PropertySection) :
      (part.items.map PropertyItem.run).flatMap Run.records = part.records := by
    simp [List.flatMap_map, PropertySection.records, PropertyItem.records_run]
  rw [List.flatMap_assoc]
  exact List.flatMap_congr fun own _ => part own

theorem readProperties_of_states (states : ∀ part ∈ parts, part.StatesSize)
    (spaced : Interspersed IsAside (parts.flatMap PropertySection.rows) (lines text)) :
    (readProperties text).stop = none ∧
      (readProperties text).records = parts.flatMap PropertySection.records := by
  rw [← map_text_numberedLines] at spaced
  rw [readProperties_eq_read, (passes_sections states spaced).read_eq]
  exact ⟨rfl, flatMap_records_run parts⟩

theorem readProperties_of_misstates {bad : PropertySection} {others : List PropertySection}
    (states : ∀ part ∈ parts, part.StatesSize) (misstates : ¬ bad.StatesSize)
    (spaced : Interspersed IsAside ((parts ++ bad :: others).flatMap PropertySection.rows)
      (lines text)) :
    (readProperties text).records = (parts ++ [bad]).flatMap PropertySection.records ∧
      ∃ head line tail fault, numberedLines text = head ++ line :: tail ∧
        Interspersed IsAside
          (parts.flatMap PropertySection.rows ++ bad.items.map PropertyItem.row)
          (head.map Line.text) ∧
        line.text = totalRow bad.stated ∧ bad.Rejected line fault ∧
        (readProperties text).stop = some fault := by
  rw [← map_text_numberedLines] at spaced
  obtain ⟨head, line, tail, fault, split, rows, written, rejected, read⟩ :=
    read_misstated states misstates spaced
  rw [readProperties_eq_read, read]
  refine ⟨?_, head, line, tail, fault, split, rows, written, rejected, rfl⟩
  have whole := flatMap_records_run (parts ++ [bad])
  simpa [Reading.records] using whole

theorem PropertySets.ofText_of_records {records : List PropertyRecord}
    (complete : (readProperties text).complete = .ok records) :
    ∃ sets, ofText text = .ok sets ∧ ∀ code,
      (code ∈ sets.idStart ↔ ⟨code, "ID_Start"⟩ ∈ records) ∧
      (code ∈ sets.idContinue ↔ ⟨code, "ID_Continue"⟩ ∈ records) := by
  refine ⟨ofRecords records, ?_, fun code => mem_ofRecords⟩
  rw [ofText, complete]

end Text

/-- A file with the lines of the sections, among any blank lines and comments, is read to its end
just if each section states its size. It then gives the records of all sections, and the sets that
its ranges cover; else the reading stops on the line of the first wrong total. -/
theorem readProperties_written (parts : List PropertySection) {sheet : List (List Char)}
    (spaced : Interspersed IsAside (parts.flatMap PropertySection.rows) sheet) :
    lines (unlines sheet) = sheet ∧ ∀ text, lines text = sheet →
      ((readProperties text).stop = none ↔ ∀ part ∈ parts, part.StatesSize) ∧
      ((∀ part ∈ parts, part.StatesSize) →
        (readProperties text).complete = .ok (parts.flatMap PropertySection.records) ∧
        ∃ sets, PropertySets.ofText text = .ok sets ∧ ∀ code,
          (code ∈ sets.idStart ↔ Covers parts "ID_Start" code) ∧
          (code ∈ sets.idContinue ↔ Covers parts "ID_Continue" code)) ∧
      ∀ before bad after, parts = before ++ bad :: after →
        (∀ part ∈ before, part.StatesSize) → ¬ bad.StatesSize →
        (readProperties text).records = (before ++ [bad]).flatMap PropertySection.records ∧
        ∃ head line tail fault, numberedLines text = head ++ line :: tail ∧
          Interspersed IsAside
            (before.flatMap PropertySection.rows ++ bad.items.map PropertyItem.row)
            (head.map Line.text) ∧
          line.text = totalRow bad.stated ∧ bad.Rejected line fault ∧
          (readProperties text).stop = some fault := by
  constructor
  · refine spaced.lines_unlines (fun line listed => ?_) fun line aside => aside.1.1
    obtain ⟨part, _, own⟩ := List.mem_flatMap.mp listed
    exact part.unbroken_of_mem_rows line own
  rintro text rfl
  refine ⟨⟨fun ended => ?_, fun states => (readProperties_of_states states spaced).1⟩,
    fun states => ?_, ?_⟩
  · by_contra misstated
    obtain ⟨before, bad, after, rfl, states, misstates⟩ := exists_misstated misstated
    obtain ⟨_, _, _, _, fault, _, _, _, _, stopped⟩ :=
      readProperties_of_misstates states misstates spaced
    rw [ended] at stopped
    cases stopped
  · obtain ⟨ended, records⟩ := readProperties_of_states states spaced
    have complete : (readProperties text).complete =
        .ok (parts.flatMap PropertySection.records) := by
      rw [Reading.complete, ended, records]
    obtain ⟨sets, read, members⟩ := PropertySets.ofText_of_records complete
    refine ⟨complete, sets, read, fun code => ?_⟩
    obtain ⟨start, continues⟩ := members code
    exact ⟨start.trans mem_records_iff, continues.trans mem_records_iff⟩
  · rintro before bad after rfl states misstates
    exact readProperties_of_misstates states misstates spaced

def rangeItem (first last : Int) (forward : first ≤ last) (property : FieldText) :
    PropertyItem where
  first := first
  last := last
  range := (hexCode first).toList ++ '.' :: '.' :: (hexCode last).toList
  written := .ends forward
  property := property
  remark := " # letters".toList
  silent := by decide

def overlappingLetters : PropertySection where
  items :=
    [rangeItem 0x41 0x43 (by decide) ⟨"ID_Start".toList, by decide, by decide⟩,
      rangeItem 0x42 0x44 (by decide) ⟨"ID_Continue".toList, by decide, by decide⟩]
  stated := 6

def miscountedLetters : PropertySection where
  items := [rangeItem 0x61 0x63 (by decide) ⟨"ID_Start".toList, by decide, by decide⟩]
  stated := 5

def overlappingSheet : List (List Char) :=
  ["0041..0043 ; ID_Start # letters".toList, [], "0042..0044 ; ID_Continue # letters".toList,
    "# Total code points: 6".toList]

def miscountedSheet : List (List Char) :=
  ["0061..0063 ; ID_Start # letters".toList, "# Total code points: 5".toList]

theorem readProperties_written_letters :
    (∃ sets, PropertySets.ofText (unlines overlappingSheet) = .ok sets ∧
      0x43 ∈ sets.idStart ∧ 0x44 ∉ sets.idStart ∧ 0x44 ∈ sets.idContinue) ∧
    ∃ number, (readProperties (unlines (overlappingSheet ++ miscountedSheet))).stop =
      some (.line .properties number "# Total code points: 5".toList (.wrongTotal 3)) := by
  have blank : IsAside [] := by decide
  have overlapping : overlappingLetters.rows = ["0041..0043 ; ID_Start # letters".toList,
      "0042..0044 ; ID_Continue # letters".toList, "# Total code points: 6".toList] := by
    decide +kernel
  have miscounted : miscountedLetters.rows = miscountedSheet := by decide +kernel
  have states : ∀ part ∈ [overlappingLetters], part.StatesSize :=
    List.forall_mem_singleton.mpr (by decide +kernel)
  constructor
  · have spaced : Interspersed IsAside ([overlappingLetters].flatMap PropertySection.rows)
        overlappingSheet := by
      rw [List.flatMap_singleton, overlapping]
      exact .row (.extra blank (.row (.row .nil)))
    obtain ⟨written, read⟩ := readProperties_written [overlappingLetters] spaced
    obtain ⟨_, sets, found, members⟩ := (read _ written).2.1 states
    have starts : Covers [overlappingLetters] "ID_Start" 0x43 := by decide +kernel
    have stays : ¬ Covers [overlappingLetters] "ID_Start" 0x44 := by decide +kernel
    have continues : Covers [overlappingLetters] "ID_Continue" 0x44 := by decide +kernel
    exact ⟨sets, found, (members 0x43).1.mpr starts, mt (members 0x44).1.mp stays,
      (members 0x44).2.mpr continues⟩
  · have spaced : Interspersed IsAside
        ([overlappingLetters, miscountedLetters].flatMap PropertySection.rows)
        (overlappingSheet ++ miscountedSheet) := by
      rw [List.flatMap_cons, List.flatMap_singleton, overlapping, miscounted]
      exact .row (.extra blank (.row (.row (.row (.row .nil)))))
    obtain ⟨written, read⟩ := readProperties_written [overlappingLetters, miscountedLetters] spaced
    have misstates : ¬ miscountedLetters.StatesSize := by decide +kernel
    have size : miscountedLetters.size = 3 := by decide +kernel
    obtain ⟨_, _, line, _, fault, _, _, total, rejected, stopped⟩ :=
      (read _ written).2.2 [overlappingLetters] miscountedLetters [] rfl states misstates
    have stated : totalRow miscountedLetters.stated = "# Total code points: 5".toList := by
      decide +kernel
    rw [stopped]
    cases rejected with
    | wrong => exact ⟨line.number, by rw [total, stated, size]⟩
    | unwritten _ _ long => exact absurd long (by rw [size]; decide +kernel)
    | unread long => exact absurd long (by decide +kernel)

/-- A total beyond the limit is another fault than that of a wrong total. -/
theorem readProperties_total_beyond_limit :
    let letters : PropertySection := { miscountedLetters with stated := decimalLimit }
    letters.stated ≠ letters.size ∧ lines (unlines letters.rows) = letters.rows ∧
      (readProperties (unlines letters.rows)).stop = some (.totalTooLong 4301) ∧
      Failure.isCorpusFault (.read (.totalTooLong 4301)) = false := by
  intro letters
  have size : letters.size = 3 := by decide +kernel
  have stated : letters.stated = (decimalLimit : Int) := rfl
  have large : (3 : Int) < decimalLimit := by decide +kernel
  have places : (Nat.toDigits 10 decimalLimit).length = 4301 := by
    have most := (Nat.length_toDigits_le_iff (n := decimalLimit) (b := 10) (k := 4301)
      (by decide) (by decide)).mpr (by decide +kernel)
    have many := mt (length_toDigits_le_iff decimalLimit).mp (Nat.lt_irrefl decimalLimit)
    have limit : maxDecimalPlaces = 4300 := rfl
    omega
  have written : lines (unlines letters.rows) = letters.rows :=
    lines_unlines letters.unbroken_of_mem_rows
  have misstates : ¬ letters.StatesSize := fun states => by
    have short := states.2
    rw [stated] at short
    exact lt_irrefl _ short
  have spaced : Interspersed IsAside (([] ++ [letters]).flatMap PropertySection.rows)
      (lines (unlines letters.rows)) := by
    rw [written, List.nil_append, List.flatMap_singleton]
    exact .refl letters.rows
  obtain ⟨_, _, line, _, fault, _, _, _, rejected, stopped⟩ :=
    readProperties_of_misstates (fun _ listed => absurd listed List.not_mem_nil) misstates spaced
  refine ⟨by rw [stated, size]; exact ne_of_gt large, written, ?_, rfl⟩
  rw [stopped]
  cases rejected with
  | wrong _ short => exact absurd short (by rw [stated]; exact lt_irrefl _)
  | unwritten _ short => exact absurd short (by rw [stated]; exact lt_irrefl _)
  | unread => rw [stated, Int.toNat_natCast, places]

end CharacterTables
