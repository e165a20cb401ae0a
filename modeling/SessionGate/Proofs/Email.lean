import Mathlib
import SessionGate.Email
import SessionGate.Proofs.Text.Dividing
import SessionGate.Text.Blank

/-!
# The grammar of addresses

A text is an address if it can be taken apart into atoms: those of a local part and those of a
domain, each joined by single dots, with an at sign between. There is one way to do so at most. The
same texts are those of a pattern of regular operations.
-/

namespace SessionGate.Email

open scoped Computability

/-- An ASCII letter, an ASCII digit, or one of a few marks. -/
def IsAtomCharacter (character : Char) : Prop :=
  ('a' ≤ character ∧ character ≤ 'z') ∨ ('A' ≤ character ∧ character ≤ 'Z') ∨
    ('0' ≤ character ∧ character ≤ '9') ∨
      character ∈ "!#$%&'*+/=?^_`\x7b|\x7d~-".toList

structure IsAtom (atom : List Char) : Prop where
  nonempty : atom ≠ []
  characters : ∀ character ∈ atom, IsAtomCharacter character

/-- Atoms that are joined by dots. -/
structure DotAtom where
  atoms : List (List Char)
  nonempty : atoms ≠ []
  areAtoms : ∀ atom ∈ atoms, IsAtom atom

def DotAtom.characters (dotAtom : DotAtom) : List Char :=
  ['.'].intercalate dotAtom.atoms

/-- A local part and a domain. -/
structure Address where
  localPart : DotAtom
  domain : DotAtom

def Address.characters (address : Address) : List Char :=
  address.localPart.characters ++ '@' :: address.domain.characters

def Address.text (address : Address) : String :=
  String.ofList address.characters

/-! ## Characters -/

variable {character : Char} {text atom : List Char}

theorem isAtomCharacter_iff : isAtomCharacter character = true ↔ IsAtomCharacter character := by
  simp only [isAtomCharacter, IsAtomCharacter, Char.isAlphanum, Char.isAlpha, Char.isUpper,
    Char.isLower, Char.isDigit, Bool.or_eq_true, Bool.and_eq_true, decide_eq_true_eq,
    List.contains_iff_mem, Char.le_def, ge_iff_le]
  tauto

theorem IsAtomCharacter.bounds (isAtom : IsAtomCharacter character) :
    33 ≤ character.toNat ∧ character.toNat ≤ 126 := by
  have marks : ("!#$%&'*+/=?^_`\x7b|\x7d~-".toList.all fun mark =>
      33 ≤ mark.toNat && mark.toNat ≤ 126) = true := by
    decide
  have within {low high : Char} (inside : low ≤ character ∧ character ≤ high)
      (lower : 33 ≤ low.toNat) (upper : high.toNat ≤ 126) :
      33 ≤ character.toNat ∧ character.toNat ≤ 126 :=
    ⟨Nat.le_trans lower inside.1, Nat.le_trans inside.2 upper⟩
  rcases isAtom with small | capital | digit | mark
  · exact within small (by decide) (by decide)
  · exact within capital (by decide) (by decide)
  · exact within digit (by decide) (by decide)
  · simpa using List.all_eq_true.mp marks character mark

theorem IsAtomCharacter.ne_dot (isAtom : IsAtomCharacter character) : character ≠ '.' := by
  rintro rfl
  exact absurd (isAtomCharacter_iff.mpr isAtom) (by decide)

theorem IsAtomCharacter.ne_at (isAtom : IsAtomCharacter character) : character ≠ '@' := by
  rintro rfl
  exact absurd (isAtomCharacter_iff.mpr isAtom) (by decide)

theorem isAtom_iff :
    (!atom.isEmpty && atom.all isAtomCharacter) = true ↔ IsAtom atom := by
  simp only [Bool.and_eq_true, Bool.not_eq_true', List.isEmpty_eq_false_iff, List.all_eq_true,
    isAtomCharacter_iff]
  exact ⟨fun ⟨nonempty, all⟩ => ⟨nonempty, all⟩,
    fun isAtom => ⟨isAtom.nonempty, isAtom.characters⟩⟩

/-! ## Atoms joined by dots -/

theorem DotAtom.dot_notMem (dotAtom : DotAtom) : ∀ atom ∈ dotAtom.atoms, '.' ∉ atom := by
  intro atom member dotted
  exact ((dotAtom.areAtoms atom member).characters '.' dotted).ne_dot rfl

/-- Splitting at the dots gives the atoms back. -/
theorem DotAtom.splitOn_characters (dotAtom : DotAtom) :
    dotAtom.characters.splitOn '.' = dotAtom.atoms :=
  List.splitOn_intercalate '.' dotAtom.dot_notMem dotAtom.nonempty

theorem DotAtom.eq_of_characters {first second : DotAtom}
    (same : first.characters = second.characters) : first = second := by
  have atoms := congrArg (List.splitOn '.') same
  rw [splitOn_characters, splitOn_characters] at atoms
  cases first
  cases second
  congr

theorem isDotAtom_iff : isDotAtom text = true ↔ ∃ dotAtom : DotAtom, dotAtom.characters = text := by
  rw [isDotAtom, List.all_eq_true]
  simp only [isAtom_iff]
  constructor
  · intro areAtoms
    exact ⟨⟨text.splitOn '.', List.splitOn_ne_nil '.' text, areAtoms⟩, List.intercalate_splitOn '.'⟩
  · rintro ⟨dotAtom, rfl⟩
    rw [dotAtom.splitOn_characters]
    exact dotAtom.areAtoms

/-- On both sides of a dot there is an atom at least. -/
theorem isDotAtom_append_dot (front back : List Char) :
    isDotAtom (front ++ '.' :: back) = (isDotAtom front && isDotAtom back) := by
  simp only [isDotAtom, List.splitOn_eq_splitOnP]
  rw [List.splitOnP_append_cons _ _ (by simp), List.all_append]

theorem DotAtom.mem_characters (dotAtom : DotAtom) (member : character ∈ dotAtom.characters) :
    character = '.' ∨ IsAtomCharacter character := by
  refine (Text.mem_intercalate member).imp_right ?_
  rintro ⟨atom, inside, contained⟩
  exact (dotAtom.areAtoms atom inside).characters character contained

theorem DotAtom.at_notMem (dotAtom : DotAtom) : '@' ∉ dotAtom.characters := by
  intro member
  rcases dotAtom.mem_characters member with dot | isAtom
  · cases dot
  · exact isAtom.ne_at rfl

/-- Dots stand alone, with something before and behind each of them. -/
structure HasLoneDots (text : List Char) : Prop where
  leading : text.head? ≠ some '.'
  trailing : text.getLast? ≠ some '.'
  doubled : ¬ ['.', '.'] <:+: text

theorem DotAtom.hasLoneDots (dotAtom : DotAtom) : HasLoneDots dotAtom.characters := by
  have accepted : isDotAtom dotAtom.characters = true := isDotAtom_iff.mpr ⟨dotAtom, rfl⟩
  have nothing : isDotAtom [] = false := by decide
  constructor
  case leading =>
    intro leads
    obtain ⟨rest, split⟩ := List.head?_eq_some_iff.mp leads
    rw [split, ← List.nil_append ('.' :: rest), isDotAtom_append_dot, nothing] at accepted
    cases accepted
  case trailing =>
    intro trails
    obtain ⟨rest, split⟩ := List.getLast?_eq_some_iff.mp trails
    rw [split, isDotAtom_append_dot, nothing, Bool.and_false] at accepted
    cases accepted
  case doubled =>
    rintro ⟨front, back, split⟩
    rw [← split, List.append_assoc, List.cons_append, isDotAtom_append_dot,
      ← List.nil_append (['.'] ++ back), List.singleton_append, isDotAtom_append_dot, nothing,
      Bool.false_and, Bool.and_false] at accepted
    cases accepted

/-! ## Addresses -/

/-- Splitting at the at sign gives both sides back. -/
theorem Address.splitOn_characters (address : Address) :
    address.characters.splitOn '@' =
      [address.localPart.characters, address.domain.characters] := by
  have sides : ∀ side ∈ [address.localPart.characters, address.domain.characters], '@' ∉ side := by
    simp [address.localPart.at_notMem, address.domain.at_notMem]
  have joined := List.splitOn_intercalate '@' sides (by simp)
  rwa [List.intercalate_cons_cons, List.intercalate_singleton, List.append_assoc,
    List.singleton_append] at joined

theorem Address.toList_text (address : Address) : address.text.toList = address.characters :=
  String.toList_ofList

theorem Address.eq_of_text {first second : Address} (same : first.text = second.text) :
    first = second := by
  have sides := congrArg (List.splitOn '@' ∘ String.toList) same
  simp only [Function.comp_apply, toList_text, splitOn_characters, List.cons.injEq, and_true]
    at sides
  obtain ⟨left, right⟩ := first
  obtain ⟨otherLeft, otherRight⟩ := second
  rw [Address.mk.injEq]
  exact ⟨DotAtom.eq_of_characters sides.1, DotAtom.eq_of_characters sides.2⟩

theorem isAddress_iff {email : String} :
    isAddress email = true ↔ ∃ address : Address, address.text = email := by
  rw [isAddress]
  constructor
  · intro accepted
    split at accepted
    · rename_i localPart domain split
      rw [Bool.and_eq_true, isDotAtom_iff, isDotAtom_iff] at accepted
      obtain ⟨⟨left, rfl⟩, ⟨right, rfl⟩⟩ := accepted
      have joined : ['@'].intercalate (email.toList.splitOn '@') = email.toList :=
        List.intercalate_splitOn '@'
      rw [split, List.intercalate_cons_cons, List.intercalate_singleton, List.append_assoc,
        List.singleton_append] at joined
      refine ⟨⟨left, right⟩, ?_⟩
      rw [Address.text, ← String.toList_inj, String.toList_ofList]
      exact joined
    · cases accepted
  · rintro ⟨address, rfl⟩
    rw [address.toList_text, address.splitOn_characters]
    simp only [Bool.and_eq_true, isDotAtom_iff]
    exact ⟨⟨address.localPart, rfl⟩, ⟨address.domain, rfl⟩⟩

theorem Address.count_at (address : Address) : address.characters.count '@' = 1 := by
  rw [characters, List.count_append, List.count_cons_self,
    List.count_eq_zero_of_not_mem address.localPart.at_notMem,
    List.count_eq_zero_of_not_mem address.domain.at_notMem]

/-- Nothing but printing ASCII characters is in an address. -/
theorem Address.bounds (address : Address) (member : character ∈ address.characters) :
    33 ≤ character.toNat ∧ character.toNat ≤ 126 := by
  have ofSide {dotAtom : DotAtom} (inside : character ∈ dotAtom.characters) :
      33 ≤ character.toNat ∧ character.toNat ≤ 126 := by
    rcases dotAtom.mem_characters inside with rfl | isAtom
    · decide
    · exact isAtom.bounds
  rw [characters, List.mem_append, List.mem_cons] at member
  rcases member with left | rfl | right
  · exact ofSide left
  · decide
  · exact ofSide right

theorem isBlank_eq_false_of_bounds (bounds : 33 ≤ character.toNat ∧ character.toNat ≤ 126) :
    Text.isBlank character = false := by
  simp only [Text.isBlank, Bool.or_eq_false_iff, Bool.and_eq_false_iff, decide_eq_false_iff_not,
    beq_eq_false_iff_ne]
  omega

/-! ## The pattern of addresses -/

def oneOf (characters : Char → Prop) : Language Char :=
  {text | ∃ character, characters character ∧ text = [character]}

/-- One character of an atom, or more. -/
def atomPattern : Language Char :=
  oneOf IsAtomCharacter * (oneOf IsAtomCharacter)∗

def dotAtomPattern : Language Char :=
  atomPattern * ({['.']} * atomPattern)∗

/-- The texts of an atom, and more atoms behind dots, on both sides of an at sign. -/
def pattern : Language Char :=
  dotAtomPattern * {['@']} * dotAtomPattern

theorem mem_kstar_oneOf_iff {characters : Char → Prop} :
    text ∈ (oneOf characters)∗ ↔ ∀ character ∈ text, characters character := by
  rw [Language.mem_kstar]
  constructor
  · rintro ⟨parts, rfl, all⟩ character member
    obtain ⟨part, inside, contained⟩ := List.mem_flatten.mp member
    obtain ⟨only, holds, rfl⟩ := all part inside
    rwa [List.mem_singleton.mp contained]
  · intro all
    refine ⟨text.map fun character => [character], (List.flatMap_singleton' text).symm, ?_⟩
    intro part inside
    obtain ⟨character, member, rfl⟩ := List.mem_map.mp inside
    exact ⟨character, all character member, rfl⟩

theorem mem_atomPattern_iff : atom ∈ atomPattern ↔ IsAtom atom := by
  rw [atomPattern, Language.mem_mul]
  simp only [mem_kstar_oneOf_iff]
  constructor
  · rintro ⟨_, ⟨first, holds, rfl⟩, rest, all, rfl⟩
    exact ⟨by simp, List.forall_mem_cons.mpr ⟨holds, all⟩⟩
  · rintro ⟨nonempty, all⟩
    obtain ⟨first, rest, rfl⟩ := List.exists_cons_of_ne_nil nonempty
    obtain ⟨holds, others⟩ := List.forall_mem_cons.mp all
    exact ⟨[first], ⟨first, holds, rfl⟩, rest, others, rfl⟩

theorem intercalate_cons (separator : Char) (part : List Char) (parts : List (List Char)) :
    [separator].intercalate (part :: parts) =
      part ++ (parts.map fun later => separator :: later).flatten := by
  induction parts generalizing part with
  | nil => simp
  | cons next rest ih =>
      rw [List.intercalate_cons_cons, ih, List.map_cons, List.flatten_cons, List.append_assoc,
        List.singleton_append, List.cons_append]

theorem mem_kstar_dotted_iff :
    text ∈ ({['.']} * atomPattern : Language Char)∗ ↔
      ∃ atoms : List (List Char), (∀ atom ∈ atoms, IsAtom atom) ∧
        (atoms.map fun atom => '.' :: atom).flatten = text := by
  rw [Language.mem_kstar]
  constructor
  · rintro ⟨parts, rfl, all⟩
    have dotted : ∀ part ∈ parts, ∃ atom, IsAtom atom ∧ part = '.' :: atom := by
      intro part inside
      obtain ⟨dot, isDot, atom, isAtom, rfl⟩ := Language.mem_mul.mp (all part inside)
      exact ⟨atom, mem_atomPattern_iff.mp isAtom, by rw [isDot, List.singleton_append]⟩
    refine ⟨parts.map List.tail, fun atom member => ?_, ?_⟩
    · obtain ⟨part, inside, rfl⟩ := List.mem_map.mp member
      obtain ⟨atom, isAtom, rfl⟩ := dotted part inside
      exact isAtom
    · rw [List.map_map]
      congr 1
      refine (List.map_congr_left fun part inside => ?_).trans (List.map_id parts)
      obtain ⟨atom, isAtom, rfl⟩ := dotted part inside
      rfl
  · rintro ⟨atoms, areAtoms, rfl⟩
    refine ⟨_, rfl, fun part inside => ?_⟩
    obtain ⟨atom, member, rfl⟩ := List.mem_map.mp inside
    have matched := mem_atomPattern_iff.mpr (areAtoms atom member)
    exact Language.mem_mul.mpr ⟨['.'], rfl, atom, matched, rfl⟩

theorem mem_dotAtomPattern_iff :
    text ∈ dotAtomPattern ↔ ∃ dotAtom : DotAtom, dotAtom.characters = text := by
  rw [dotAtomPattern, Language.mem_mul]
  simp only [mem_atomPattern_iff, mem_kstar_dotted_iff]
  constructor
  · rintro ⟨first, isAtom, _, ⟨atoms, areAtoms, rfl⟩, rfl⟩
    exact ⟨⟨first :: atoms, by simp, List.forall_mem_cons.mpr ⟨isAtom, areAtoms⟩⟩,
      intercalate_cons '.' first atoms⟩
  · rintro ⟨⟨atoms, nonempty, areAtoms⟩, rfl⟩
    obtain ⟨first, rest, rfl⟩ := List.exists_cons_of_ne_nil nonempty
    obtain ⟨isAtom, others⟩ := List.forall_mem_cons.mp areAtoms
    exact ⟨first, isAtom, _, ⟨rest, others, rfl⟩, (intercalate_cons '.' first rest).symm⟩

theorem mem_pattern_iff {email : String} :
    email.toList ∈ pattern ↔ ∃ address : Address, address.text = email := by
  rw [pattern, Language.mem_mul]
  simp only [Language.mem_mul, mem_dotAtomPattern_iff]
  constructor
  · rintro ⟨_, ⟨_, ⟨localPart, rfl⟩, _, rfl, rfl⟩, _, ⟨domain, rfl⟩, joined⟩
    refine ⟨⟨localPart, domain⟩, ?_⟩
    rw [← String.toList_inj, Address.toList_text, ← joined, List.append_assoc,
      List.singleton_append]
    rfl
  · rintro ⟨address, rfl⟩
    refine ⟨_, ⟨_, ⟨address.localPart, rfl⟩, _, rfl, rfl⟩, _, ⟨address.domain, rfl⟩, ?_⟩
    rw [address.toList_text, List.append_assoc, List.singleton_append]
    rfl

end SessionGate.Email
