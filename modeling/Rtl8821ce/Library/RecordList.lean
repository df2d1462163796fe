import Mathlib.Data.List.Basic

/-!
# Records behind each other

A list of cells is read record by record.  How a record is read depends on a mode, which the
record before it sets; how long it is depends on the record itself.  A record that is put
behind the others is read last.
-/

namespace RecordList

universe u v w

variable {Mode : Type u} {Cell : Type v} {Item : Type w}

/-- A kind of records: how one is read from the front, how long it is, and how the next one is
read. -/
structure Layout (Mode : Type u) (Cell : Type v) (Item : Type w) where
  read : Mode -> List Cell -> Option Item
  size : Item -> Nat
  next : Item -> Mode
  size_le : ∀ {mode cells item}, read mode cells = some item -> size item ≤ cells.length
  read_append : ∀ {mode cells item} (behind : List Cell),
    read mode cells = some item -> read mode (cells ++ behind) = some item

namespace Layout

variable (layout : Layout Mode Cell Item)

/-- Read all records, with `fuel` records at most. -/
def readAll : Nat -> Mode -> List Cell -> Option (List Item)
  | _, _, [] => some []
  | 0, _, _ :: _ => none
  | fuel + 1, mode, cell :: cells => do
      let item <- layout.read mode (cell :: cells)
      let rest <- readAll fuel (layout.next item) ((cell :: cells).drop (layout.size item))
      return item :: rest

/-- The mode behind some records. -/
def after (mode : Mode) : List Item -> Mode
  | [] => mode
  | item :: rest => after (layout.next item) rest

theorem after_concat (mode : Mode) (items : List Item) (item : Item) :
    layout.after mode (items ++ [item]) = layout.next item := by
  induction items generalizing mode with
  | nil => rfl
  | cons first rest ih => exact ih _

@[simp] theorem readAll_nil (fuel : Nat) (mode : Mode) : layout.readAll fuel mode [] = some [] := by
  cases fuel <;> rfl

theorem readAll_cons_eq_some {fuel : Nat} {mode : Mode} {cell : Cell} {cells : List Cell} {items : List Item} :
    layout.readAll fuel mode (cell :: cells) = some items <->
      ∃ item rest less, fuel = less + 1 ∧
        layout.read mode (cell :: cells) = some item ∧
        layout.readAll less (layout.next item) ((cell :: cells).drop (layout.size item)) = some rest ∧
        items = item :: rest := by
  cases fuel with
  | zero =>
      refine ⟨fun impossible => (nomatch impossible), ?_⟩
      intro ⟨_, _, _, impossible, _⟩
      exact absurd impossible (Nat.succ_ne_zero _).symm
  | succ less =>
      constructor
      · intro records
        rcases Option.bind_eq_some_iff.mp records with ⟨item, first, others⟩
        rcases Option.bind_eq_some_iff.mp others with ⟨rest, later, whole⟩
        exact ⟨item, rest, less, rfl, first, later, (Option.some.inj whole).symm⟩
      · intro ⟨item, rest, same, fuel, first, later, whole⟩
        rw [← Nat.succ.inj fuel] at later
        refine Option.bind_eq_some_iff.mpr ⟨item, first, Option.bind_eq_some_iff.mpr ⟨rest, later, ?_⟩⟩
        exact congrArg some whole.symm

/-- More fuel does no harm. -/
theorem readAll_mono {fuel more : Nat} {mode : Mode} {cells : List Cell} {items : List Item} (enough : fuel ≤ more)
    (records : layout.readAll fuel mode cells = some items) : layout.readAll more mode cells = some items := by
  induction fuel generalizing more mode cells items with
  | zero =>
      cases cells with
      | nil => exact (readAll_nil layout more mode).trans records
      | cons cell cells => exact nomatch records
  | succ fuel ih =>
      cases cells with
      | nil => exact (readAll_nil layout more mode).trans records
      | cons cell cells =>
          rcases (readAll_cons_eq_some layout).mp records with ⟨item, rest, less, same, first, later, whole⟩
          rcases Nat.exists_eq_add_of_lt enough with ⟨extra, is_more⟩
          rw [← Nat.succ.inj same] at later
          exact (readAll_cons_eq_some layout).mpr ⟨item, rest, fuel + extra, is_more, first,
            ih (Nat.le_add_right fuel extra) later, whole⟩

theorem readAll_single {mode : Mode} {record : List Cell} {item : Item} (nonempty : record ≠ [])
    (read : layout.read mode record = some item) (whole : layout.size item = record.length) (fuel : Nat) :
    layout.readAll (fuel + 1) mode record = some [item] := by
  rcases List.exists_cons_of_ne_nil nonempty with ⟨cell, others, rfl⟩
  refine (readAll_cons_eq_some layout).mpr ⟨item, [], fuel, rfl, read, ?_, rfl⟩
  rw [whole, List.drop_length, readAll_nil]

/-- One more record behind the others. -/
theorem readAll_concat {fuel : Nat} {mode : Mode} {cells record : List Cell} {items : List Item} {item : Item}
    (records : layout.readAll fuel mode cells = some items) (nonempty : record ≠ [])
    (last : layout.read (layout.after mode items) record = some item) (whole : layout.size item = record.length) :
    layout.readAll (fuel + 1) mode (cells ++ record) = some (items ++ [item]) := by
  induction fuel generalizing mode cells items with
  | zero =>
      cases cells with
      | cons cell cells => exact nomatch records
      | nil =>
          rw [← Option.some.inj records] at last ⊢
          exact readAll_single layout nonempty last whole 0
  | succ fuel ih =>
      cases cells with
      | nil =>
          rw [← Option.some.inj records] at last ⊢
          exact readAll_single layout nonempty last whole (fuel + 1)
      | cons cell cells =>
          rcases (readAll_cons_eq_some layout).mp records with ⟨first, rest, less, same, read, later, is_items⟩
          rw [← Nat.succ.inj same] at later
          rw [is_items] at last ⊢
          refine (readAll_cons_eq_some layout).mpr ⟨first, rest ++ [item], fuel + 1, rfl,
            layout.read_append record read, ?_, rfl⟩
          change layout.readAll (fuel + 1) _ ((cell :: cells ++ record).drop _) = _
          rw [List.drop_append_of_le_length (layout.size_le read)]
          exact ih later last

end Layout

end RecordList
