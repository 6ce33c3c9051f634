import Mathlib.Data.List.Basic

/-! Streams of headers and rows that carry no lengths: a header begins with a mark, and no field of
a row but its first is one. Such a stream is written in one way only. -/

namespace FragglePacket.Lists

inductive StreamItem (α : Type*) where
  | header (fields : List α)
  | row (fields : List α)

namespace StreamItem
variable {α : Type*}

def fields : StreamItem α → List α
  | header fields => fields
  | row fields => fields

/-- A header of its width begins with a mark, and a row of its width has
none behind its first field. -/
def Proper (mark : α → Prop) (headerWidth rowWidth : Nat) : StreamItem α → Prop
  | header fields => fields.length = headerWidth ∧ ∀ field ∈ fields.head?, mark field
  | row fields => fields.length = rowWidth ∧ ∀ field ∈ fields.tail, ¬ mark field

end StreamItem

section Unique
variable {α : Type*} {mark : α → Prop} {headerWidth rowWidth : Nat}
  {items others : List (StreamItem α)}

open StreamItem

/-- No stream goes on where a row still has fields to come: the readings would stay apart by
part of a row to the end. -/
theorem stream_ne_behind_row (narrow : 0 < headerWidth)
    (proper : ∀ item ∈ items, item.Proper mark headerWidth rowWidth)
    (alsoProper : ∀ item ∈ others, item.Proper mark headerWidth rowWidth) {behind : List α}
    (inside : 0 < behind.length) (short : behind.length < rowWidth)
    (plain : ∀ field ∈ behind, ¬ mark field) :
    items.flatMap fields ≠ behind ++ others.flatMap fields := by
  induction size : items.length + others.length using Nat.strongRecOn
    generalizing items others behind with
  | ind size ih =>
    intro same
    subst size
    obtain ⟨first, rest, rfl⟩ := List.exists_cons_of_length_pos inside
    cases items with
    | nil => cases same
    | cons item items =>
      obtain ⟨own, later⟩ := List.forall_mem_cons.mp proper
      rw [List.flatMap_cons] at same
      cases item with
      | header header =>
        obtain ⟨width, marked⟩ := own
        obtain ⟨field, more, rfl⟩ := List.exists_cons_of_length_pos (width.symm ▸ narrow)
        have begins : field = first := (List.cons.inj same).1
        exact plain first List.mem_cons_self (begins ▸ marked field rfl)
      | row row =>
        obtain ⟨width, tail⟩ := own
        -- the row runs over the fields still to come, and its own end is now
        -- inside a row of the others
        have cut : row = first :: rest ++ row.drop (first :: rest).length := by
          have front := congrArg (List.take (first :: rest).length) same
          rw [List.take_append_of_le_length (by simp only [fields]; omega), List.take_left] at front
          conv_lhs => rw [← List.take_append_drop (first :: rest).length row]
          exact congrArg (· ++ row.drop (first :: rest).length) front
        have left : (row.drop (first :: rest).length).length =
            rowWidth - (first :: rest).length := by
          rw [List.length_drop, width]
        have unmarked : ∀ field ∈ row.drop (first :: rest).length, ¬ mark field :=
          fun field member => by
            refine tail field ?_
            rw [cut, List.cons_append, List.tail_cons]
            exact List.mem_append_right rest member
        refine ih (others.length + items.length)
          (by simp only [List.length_cons]; omega) alsoProper later
          (by omega) (by simp only [List.length_cons] at left short ⊢; omega) unmarked rfl ?_
        simp only [fields] at same
        rw [cut, List.append_assoc] at same
        exact (List.append_cancel_left same).symm

/-- A header is no beginning of a row: the row would go on behind it. -/
theorem header_ne_row (narrow : 0 < headerWidth) (wide : headerWidth < rowWidth)
    {header row : List α}
    (proper : ∀ item ∈ StreamItem.header header :: items, item.Proper mark headerWidth rowWidth)
    (alsoProper : ∀ item ∈ StreamItem.row row :: others, item.Proper mark headerWidth rowWidth) :
    header ++ items.flatMap fields ≠ row ++ others.flatMap fields := by
  intro same
  obtain ⟨⟨width, -⟩, later⟩ := List.forall_mem_cons.mp proper
  obtain ⟨⟨rowLength, tail⟩, alsoLater⟩ := List.forall_mem_cons.mp alsoProper
  have cut : row = header ++ row.drop header.length := by
    have front := congrArg (List.take header.length) same
    rw [List.take_left, List.take_append_of_le_length (by omega)] at front
    conv_lhs => rw [← List.take_append_drop header.length row]
    exact congrArg (· ++ row.drop header.length) front.symm
  have left : (row.drop header.length).length = rowWidth - headerWidth := by
    rw [List.length_drop, rowLength, width]
  obtain ⟨first, rest, rfl⟩ := List.exists_cons_of_length_pos (width.symm ▸ narrow)
  have unmarked : ∀ field ∈ row.drop (first :: rest).length, ¬ mark field := fun field member => by
    refine tail field ?_
    rw [cut, List.cons_append, List.tail_cons]
    exact List.mem_append_right rest member
  rw [cut, List.append_assoc] at same
  exact stream_ne_behind_row narrow later alsoLater (by omega) (by omega) unmarked
    (List.append_cancel_left same)

/-- A stream has one reading. -/
theorem flatMap_fields_injective (narrow : 0 < headerWidth) (wide : headerWidth < rowWidth)
    (proper : ∀ item ∈ items, item.Proper mark headerWidth rowWidth)
    (alsoProper : ∀ item ∈ others, item.Proper mark headerWidth rowWidth)
    (same : items.flatMap fields = others.flatMap fields) : items = others := by
  have filled (item : StreamItem α)
      (own : item.Proper mark headerWidth rowWidth) : item.fields ≠ [] := by
    cases item with
    | header header => exact List.ne_nil_of_length_pos (own.1.symm ▸ narrow)
    | row row => exact List.ne_nil_of_length_pos (own.1.symm ▸ Nat.lt_trans narrow wide)
  induction items generalizing others with
  | nil =>
    cases others with
    | nil => rfl
    | cons other others =>
      exact absurd (List.append_eq_nil_iff.mp same.symm).1
        (filled other (alsoProper other List.mem_cons_self))
  | cons item items ih =>
    cases others with
    | nil =>
      exact absurd (List.append_eq_nil_iff.mp same).1 (filled item (proper item List.mem_cons_self))
    | cons other others =>
      obtain ⟨own, later⟩ := List.forall_mem_cons.mp proper
      obtain ⟨alsoOwn, alsoLater⟩ := List.forall_mem_cons.mp alsoProper
      rw [List.flatMap_cons, List.flatMap_cons] at same
      cases item with
      | header header =>
        cases other with
        | header also =>
          obtain ⟨first, rest⟩ := List.append_inj same (own.1.trans alsoOwn.1.symm)
          rw [ih later alsoLater rest]
          exact congrArg (StreamItem.header · :: others) first
        | row also => exact absurd same (header_ne_row narrow wide proper alsoProper)
      | row row =>
        cases other with
        | header also => exact absurd same.symm (header_ne_row narrow wide alsoProper proper)
        | row also =>
          obtain ⟨first, rest⟩ := List.append_inj same (own.1.trans alsoOwn.1.symm)
          rw [ih later alsoLater rest]
          exact congrArg (StreamItem.row · :: others) first

end Unique

section Records
variable {α : Type*}

open StreamItem

/-- A header and the rows that belong to it. -/
def recordItems (record : List α × List (List α)) : List (StreamItem α) :=
  .header record.1 :: record.2.map .row

/-- The rows in front of the first header, and the headers with their rows. -/
def recordsOf : List (StreamItem α) → List (List α) × List (List α × List (List α))
  | [] => ([], [])
  | .row values :: rest => (values :: (recordsOf rest).1, (recordsOf rest).2)
  | .header values :: rest => ([], (values, (recordsOf rest).1) :: (recordsOf rest).2)

theorem recordsOf_rows (rows : List (List α)) (rest : List (StreamItem α)) :
    recordsOf (rows.map .row ++ rest) = (rows ++ (recordsOf rest).1, (recordsOf rest).2) := by
  induction rows with
  | nil => rfl
  | cons row rows ih => rw [List.map_cons, List.cons_append, recordsOf, ih, List.cons_append]

theorem recordsOf_recordItems (records : List (List α × List (List α))) :
    recordsOf (records.flatMap recordItems) = ([], records) := by
  induction records with
  | nil => rfl
  | cons record records ih =>
    rw [List.flatMap_cons, recordItems, List.cons_append, recordsOf, recordsOf_rows, ih,
      List.append_nil]

/-- Records that write one stream are the same records. -/
theorem records_injective {mark : α → Prop} {headerWidth rowWidth : Nat} (narrow : 0 < headerWidth)
    (wide : headerWidth < rowWidth) {records others : List (List α × List (List α))}
    (proper : ∀ record ∈ records, ∀ item ∈ recordItems record,
      item.Proper mark headerWidth rowWidth)
    (alsoProper : ∀ record ∈ others, ∀ item ∈ recordItems record,
      item.Proper mark headerWidth rowWidth)
    (same : (records.flatMap fun record => record.1 ++ record.2.flatten) =
      others.flatMap fun record => record.1 ++ record.2.flatten) :
    records = others := by
  have written (given : List (List α × List (List α))) :
      (given.flatMap recordItems).flatMap fields = given.flatMap fun record =>
        record.1 ++ record.2.flatten := by
    rw [List.flatMap_assoc]
    refine List.flatMap_congr fun record _ => ?_
    rw [recordItems, List.flatMap_cons, List.flatMap_map]
    exact congrArg (record.1 ++ ·) List.flatMap_id
  have all (given : List (List α × List (List α)))
      (each : ∀ record ∈ given, ∀ item ∈ recordItems record,
        item.Proper mark headerWidth rowWidth) :
      ∀ item ∈ given.flatMap recordItems, item.Proper mark headerWidth rowWidth :=
        fun item member => by
    obtain ⟨record, listed, own⟩ := List.mem_flatMap.mp member
    exact each record listed item own
  have items : records.flatMap recordItems = others.flatMap recordItems :=
    flatMap_fields_injective narrow wide (all records proper) (all others alsoProper)
      (by rw [written, written, same])
  have read := congrArg recordsOf items
  rw [recordsOf_recordItems, recordsOf_recordItems] at read
  exact (Prod.mk.inj read).2

end Records

end FragglePacket.Lists
