import Mathlib.Data.List.TakeWhile
import SessionGate.Text.Blank

/-!
# Trimming

What is put at either end of a text makes no difference to its trim if it is blank throughout. A
text without blanks is its own trim.
-/

namespace SessionGate.Text

section Lists

variable {α : Type} {drop : α → Bool} {front list back : List α}

theorem dropWhile_of_forall_not (kept : ∀ element ∈ list, drop element = false) :
    list.dropWhile drop = list := by
  rw [List.dropWhile_eq_self_iff]
  intro nonempty
  rw [kept _ (List.getElem_mem nonempty)]
  exact Bool.false_ne_true

theorem trimList_of_forall_not (kept : ∀ element ∈ list, drop element = false) :
    trimList drop list = list := by
  have backward : ∀ element ∈ list.reverse, drop element = false := fun element member =>
    kept element (List.mem_reverse.mp member)
  rw [trimList, dropWhileEnd, dropWhile_of_forall_not kept, dropWhile_of_forall_not backward,
    List.reverse_reverse]

theorem trimList_append_left (dropped : ∀ element ∈ front, drop element = true) (list : List α) :
    trimList drop (front ++ list) = trimList drop list := by
  rw [trimList, trimList, List.dropWhile_append_of_pos dropped]

theorem dropWhileEnd_append (dropped : ∀ element ∈ back, drop element = true) (list : List α) :
    dropWhileEnd drop (list ++ back) = dropWhileEnd drop list := by
  have backward : ∀ element ∈ back.reverse, drop element = true := fun element member =>
    dropped element (List.mem_reverse.mp member)
  rw [dropWhileEnd, List.reverse_append, List.dropWhile_append_of_pos backward, dropWhileEnd]

theorem trimList_append_right (dropped : ∀ element ∈ back, drop element = true) (list : List α) :
    trimList drop (list ++ back) = trimList drop list := by
  rw [trimList, trimList, List.dropWhile_append]
  split
  case isTrue nothing =>
    rw [List.isEmpty_iff.mp nothing, List.dropWhile_eq_nil_iff.mpr dropped]
  case isFalse => exact dropWhileEnd_append dropped _

/-- What is left of the list once all that is to be dropped at either end has been dropped. -/
structure IsTrimOf (drop : α → Bool) (trimmed list : List α) : Prop where
  within : ∃ front back, list = front ++ trimmed ++ back ∧
    (∀ element ∈ front, drop element = true) ∧ ∀ element ∈ back, drop element = true
  first : ∀ element ∈ trimmed.head?, drop element = false
  last : ∀ element ∈ trimmed.getLast?, drop element = false

theorem dropWhile_of_head? (kept : ∀ element ∈ list.head?, drop element = false) :
    list.dropWhile drop = list := by
  cases list with
  | nil => rfl
  | cons first rest => exact List.dropWhile_cons_of_neg (by simp [kept first rfl])

theorem dropWhileEnd_of_getLast? (kept : ∀ element ∈ list.getLast?, drop element = false) :
    dropWhileEnd drop list = list := by
  rw [← List.head?_reverse] at kept
  rw [dropWhileEnd, dropWhile_of_head? kept, List.reverse_reverse]

theorem isTrimOf_trimList (drop : α → Bool) (list : List α) :
    IsTrimOf drop (trimList drop list) list := by
  obtain ⟨back, split, backDropped⟩ : ∃ back, trimList drop list ++ back = list.dropWhile drop ∧
      ∀ element ∈ back, drop element = true := by
    refine ⟨((list.dropWhile drop).reverse.takeWhile drop).reverse, ?_, fun _ member =>
      List.mem_takeWhile_imp (List.mem_reverse.mp member)⟩
    rw [trimList, dropWhileEnd, ← List.reverse_append, List.takeWhile_append_dropWhile,
      List.reverse_reverse]
  constructor
  case within =>
    refine ⟨list.takeWhile drop, back, ?_, fun _ => List.mem_takeWhile_imp, backDropped⟩
    rw [List.append_assoc, split, List.takeWhile_append_dropWhile]
  case first =>
    intro element isFirst
    have firstKept := List.head?_dropWhile_not drop list
    rw [← split, List.head?_append, isFirst] at firstKept
    exact firstKept
  case last =>
    intro element isLast
    have lastKept := List.head?_dropWhile_not drop (list.dropWhile drop).reverse
    rw [trimList, dropWhileEnd, List.getLast?_reverse] at isLast
    rw [isLast] at lastKept
    exact lastKept

theorem isTrimOf_iff {trimmed : List α} :
    IsTrimOf drop trimmed list ↔ trimmed = trimList drop list := by
  constructor
  · rintro ⟨⟨front, back, rfl, frontDropped, backDropped⟩, first, last⟩
    rw [trimList_append_right backDropped, trimList_append_left frontDropped, trimList,
      dropWhile_of_head? first, dropWhileEnd_of_getLast? last]
  · rintro rfl
    exact isTrimOf_trimList drop list

theorem IsTrimOf.pad {trimmed : List α} (trim : IsTrimOf drop trimmed list)
    (frontDropped : ∀ element ∈ front, drop element = true)
    (backDropped : ∀ element ∈ back, drop element = true) :
    IsTrimOf drop trimmed (front ++ list ++ back) := by
  rw [isTrimOf_iff] at trim ⊢
  rw [trimList_append_right backDropped, trimList_append_left frontDropped, trim]

theorem IsTrimOf.mem {trimmed : List α} {element : α} (trim : IsTrimOf drop trimmed list)
    (member : element ∈ trimmed) : element ∈ list := by
  obtain ⟨front, back, rfl, -⟩ := trim.within
  exact List.mem_append_left back (List.mem_append_right front member)

theorem IsTrimOf.map {β : Type} {trimmed : List α} {dropImage : β → Bool} {image : α → β}
    (trim : IsTrimOf drop trimmed list)
    (agree : ∀ element ∈ list, dropImage (image element) = drop element) :
    IsTrimOf dropImage (trimmed.map image) (list.map image) := by
  have agreeWithin {element : α} (member : element ∈ trimmed) :
      dropImage (image element) = drop element := agree element (trim.mem member)
  obtain ⟨⟨front, back, rfl, frontDropped, backDropped⟩, first, last⟩ := trim
  constructor
  case within =>
    refine ⟨front.map image, back.map image, by simp only [List.map_append], ?_, ?_⟩
    · intro _ member
      obtain ⟨element, inFront, rfl⟩ := List.mem_map.mp member
      rw [agree element (List.mem_append_left back (List.mem_append_left trimmed inFront)),
        frontDropped element inFront]
    · intro _ member
      obtain ⟨element, inBack, rfl⟩ := List.mem_map.mp member
      rw [agree element (List.mem_append_right _ inBack), backDropped element inBack]
  case first =>
    intro _ isFirst
    rw [List.head?_map] at isFirst
    obtain ⟨element, isHead, rfl⟩ := Option.map_eq_some_iff.mp isFirst
    rw [agreeWithin (List.mem_of_head? isHead), first element isHead]
  case last =>
    intro _ isLast
    rw [List.getLast?_map] at isLast
    obtain ⟨element, isEnd, rfl⟩ := Option.map_eq_some_iff.mp isLast
    rw [agreeWithin (List.mem_of_getLast? isEnd), last element isEnd]

end Lists

/-- All characters of the text are blank. -/
def IsBlankText (text : String) : Prop :=
  ∀ character ∈ text.toList, isBlank character = true

theorem trim_pad {left right : String} (leftBlank : IsBlankText left)
    (rightBlank : IsBlankText right) (text : String) :
    trim (left ++ text ++ right) = trim text := by
  rw [trim, trim, String.toList_append, String.toList_append, trimList_append_right rightBlank,
    trimList_append_left leftBlank]

theorem trim_of_forall_not {text : String}
    (kept : ∀ character ∈ text.toList, isBlank character = false) : trim text = text := by
  rw [trim, trimList_of_forall_not kept, String.ofList_toList]

example : trim "\u3000 a b\n" = "a b" := by
  decide

end SessionGate.Text
