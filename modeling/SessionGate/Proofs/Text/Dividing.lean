import Mathlib.Data.List.Basic

/-!
# Dividing at a separator

A separator divides a list into pieces in which it does not occur. There is one way to do so, and
what joined pieces are divided into is what each of them is divided into.
-/

namespace SessionGate.Text

variable {α : Type} [DecidableEq α] {separator element : α} {whole piece : List α}
  {pieces : List (List α)}

/-- The separator divides the list into these pieces. -/
structure Divides (separator : α) (pieces : List (List α)) (whole : List α) : Prop where
  nonempty : pieces ≠ []
  unbroken : ∀ piece ∈ pieces, separator ∉ piece
  joined : [separator].intercalate pieces = whole

theorem notMem_of_mem_splitOn (member : piece ∈ whole.splitOn separator) : separator ∉ piece := by
  induction whole generalizing piece with
  | nil =>
      rw [List.splitOn_nil, List.mem_singleton] at member
      exact member ▸ List.not_mem_nil
  | cons first rest ih =>
      rw [List.splitOn_cons_eq_if_modifyHead] at member
      split at member
      case isTrue =>
        rcases List.mem_cons.mp member with rfl | later
        · exact List.not_mem_nil
        · exact ih later
      case isFalse other =>
        cases divided : rest.splitOn separator with
        | nil => exact absurd divided (List.splitOn_ne_nil separator rest)
        | cons head tail =>
            rw [divided, List.modifyHead_cons] at member
            rcases List.mem_cons.mp member with rfl | later
            · have unbroken : separator ∉ head := ih (divided ▸ List.mem_cons_self)
              have differs : separator ≠ first := fun same => other (by simp [same])
              exact List.not_mem_cons_of_ne_of_not_mem differs unbroken
            · exact ih (divided ▸ List.mem_cons_of_mem head later)

theorem divides_iff : Divides separator pieces whole ↔ pieces = whole.splitOn separator := by
  constructor
  · rintro ⟨nonempty, unbroken, rfl⟩
    exact (List.splitOn_intercalate separator unbroken nonempty).symm
  · rintro rfl
    exact ⟨List.splitOn_ne_nil separator whole, fun _ => notMem_of_mem_splitOn,
      List.intercalate_splitOn separator⟩

theorem splitOn_intercalate_eq_flatMap (nonempty : pieces ≠ []) :
    ([separator].intercalate pieces).splitOn separator =
      pieces.flatMap fun piece => piece.splitOn separator := by
  induction pieces with
  | nil => exact absurd rfl nonempty
  | cons piece pieces ih =>
      cases pieces with
      | nil => simp
      | cons next rest =>
          rw [List.intercalate_cons_cons, List.append_assoc, List.singleton_append,
            List.splitOn_append_cons_self, ih (List.cons_ne_nil next rest)]
          rfl

omit [DecidableEq α]

/-- What holds of the separator holds of all elements of a list that has been joined if it holds of
those of its pieces. -/
theorem forall_mem_intercalate_iff {good : α → Prop} (isGood : good separator) :
    (∀ element ∈ [separator].intercalate pieces, good element) ↔
      ∀ piece ∈ pieces, ∀ element ∈ piece, good element := by
  induction pieces with
  | nil => simp
  | cons piece pieces ih =>
      cases pieces with
      | nil => simp
      | cons next rest =>
          have later : (∀ element ∈ [separator] ++ [separator].intercalate (next :: rest),
              good element) ↔ ∀ piece ∈ next :: rest, ∀ element ∈ piece, good element := by
            rw [List.singleton_append, List.forall_mem_cons, and_iff_right isGood, ih]
          rw [List.intercalate_cons_cons, List.append_assoc, List.forall_mem_append, later]
          simp only [List.forall_mem_cons]

theorem mem_intercalate (member : element ∈ [separator].intercalate pieces) :
    element = separator ∨ ∃ piece ∈ pieces, element ∈ piece := by
  have all : ∀ element ∈ [separator].intercalate pieces,
      element = separator ∨ ∃ piece ∈ pieces, element ∈ piece :=
    (forall_mem_intercalate_iff (.inl rfl)).mpr fun piece inside _ contained =>
      .inr ⟨piece, inside, contained⟩
  exact all element member

end SessionGate.Text
