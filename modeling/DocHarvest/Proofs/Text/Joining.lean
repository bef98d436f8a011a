import DocHarvest.Text.Basic

/-!
# Joined texts

Texts are joined with a separator between each two of them. What has been joined grows at its end by
a separator and a text.
-/

namespace DocHarvest.Text

theorem join_append (separator : List Char) {pieces others : List (List Char)}
    (nonempty : pieces ≠ []) (nonemptyToo : others ≠ []) :
    join separator (pieces ++ others) =
      join separator pieces ++ separator ++ join separator others := by
  unfold join
  induction pieces with
  | nil => exact absurd rfl nonempty
  | cons piece pieces ih =>
      cases pieces with
      | nil =>
          obtain ⟨next, rest, rfl⟩ := List.exists_cons_of_ne_nil nonemptyToo
          simp [List.intercalate_cons_cons]
      | cons next rest =>
          have grown := ih (List.cons_ne_nil next rest)
          rw [List.cons_append, List.cons_append, List.intercalate_cons_cons, ← List.cons_append,
            grown, List.intercalate_cons_cons]
          simp

theorem join_concat (separator : List Char) {pieces : List (List Char)} (nonempty : pieces ≠ [])
    (last : List Char) :
    join separator (pieces ++ [last]) = join separator pieces ++ separator ++ last := by
  rw [join_append separator nonempty (List.cons_ne_nil last [])]
  simp [join]

theorem joinStrings_concat (separator : String) {pieces : List String} (nonempty : pieces ≠ [])
    (last : String) :
    joinStrings separator (pieces ++ [last]) =
      joinStrings separator pieces ++ separator ++ last := by
  have mapped : pieces.map String.toList ≠ [] := by simpa using nonempty
  apply String.toList_injective
  simp [joinStrings, join_concat _ mapped]

/--
Two ways to write some items are the same if the joined texts are, and each text is known by its
start.
-/
theorem join_map_injective {α : Type} {separator : List Char} {items : List α}
    {write other : α → List Char}
    (told : ∀ item ∈ items, ∀ rest restToo : List Char,
      write item ++ rest = other item ++ restToo → write item = other item)
    (same : join separator (items.map write) = join separator (items.map other)) :
    ∀ item ∈ items, write item = other item := by
  unfold join at same
  induction items with
  | nil => simp
  | cons first rest ih =>
      rw [List.forall_mem_cons] at told ⊢
      cases rest with
      | nil =>
          have equal := told.1 [] [] (by simpa using same)
          exact ⟨equal, by simp⟩
      | cons second rest =>
          simp only [List.map_cons, List.intercalate_cons_cons, List.append_assoc] at same ih
          have equal := told.1 _ _ same
          rw [equal, List.append_cancel_left_eq, List.append_cancel_left_eq] at same
          exact ⟨equal, ih told.2 same⟩

end DocHarvest.Text
