import Mathlib.Data.String.Basic
import SessionGate.Proofs.Text.Base64Url
import SessionGate.Token

/-!
# Hints of tokens

The hint of a token ends with its sixth byte, unless a character straddles that end: then the hint
is the whole token. Tokens that are issued have characters of one byte only, so that their hints
are their first six characters.
-/

namespace SessionGate.Token

open String (utf8Len)

/-- A character lies on both sides of the end of the first `size` bytes. -/
def IsStraddledAt (size : Nat) (characters : List Char) : Prop :=
  ∃ front character behind, characters = front ++ character :: behind ∧
    utf8Len front < size ∧ size < utf8Len front + character.utf8Size

theorem isStraddledAt_cons_iff {size : Nat} {first : Char} {rest : List Char}
    (fits : first.utf8Size ≤ size) :
    IsStraddledAt size (first :: rest) ↔ IsStraddledAt (size - first.utf8Size) rest := by
  constructor
  · rintro ⟨front, character, behind, divided, starts, ends⟩
    cases front with
    | nil =>
        obtain ⟨rfl, -⟩ := List.cons.inj divided
        rw [String.utf8Len_nil] at ends
        omega
    | cons other front =>
        obtain ⟨rfl, rest⟩ := List.cons.inj divided
        rw [String.utf8Len_cons] at starts ends
        exact ⟨front, character, behind, rest, by omega, by omega⟩
  · rintro ⟨front, character, behind, rfl, starts, ends⟩
    refine ⟨first :: front, character, behind, rfl, ?_, ?_⟩ <;> rw [String.utf8Len_cons] <;> omega

/-! ## Fronts of a size -/

theorem prefixOfSize?_eq_some_iff {size : Nat} {characters front : List Char} :
    prefixOfSize? size characters = some front ↔
      front <+: characters ∧ utf8Len front = size := by
  -- The cases are those of the function: nothing more to show, nothing left, a first character that
  -- fits, and one that does not.
  fun_induction prefixOfSize? size characters generalizing front with
  | case1 characters =>
      rw [Option.some.injEq, String.utf8Len_eq_zero]
      constructor
      · rintro rfl
        exact ⟨List.nil_prefix, rfl⟩
      · rintro ⟨-, rfl⟩
        rfl
  | case2 size =>
      constructor
      · nofun
      · rintro ⟨within, takes⟩
        rw [List.prefix_nil.mp within] at takes
        cases takes
  | case3 size first rest fits ih =>
      rw [Option.map_eq_some_iff]
      constructor
      · rintro ⟨shown, found, rfl⟩
        obtain ⟨within, takes⟩ := ih.mp found
        refine ⟨List.cons_prefix_cons.mpr ⟨rfl, within⟩, ?_⟩
        rw [String.utf8Len_cons, takes]
        omega
      · rintro ⟨within, takes⟩
        cases front with
        | nil => cases takes
        | cons other shown =>
            obtain ⟨rfl, inRest⟩ := List.cons_prefix_cons.mp within
            rw [String.utf8Len_cons] at takes
            exact ⟨shown, ih.mpr ⟨inRest, by omega⟩, rfl⟩
  | case4 size first rest tooWide =>
      constructor
      · nofun
      · rintro ⟨within, takes⟩
        cases front with
        | nil => cases takes
        | cons other shown =>
            obtain ⟨rfl, -⟩ := List.cons_prefix_cons.mp within
            rw [String.utf8Len_cons] at takes
            omega

/-- There is no front of a size if there are not enough bytes or if a character straddles its
end. -/
theorem prefixOfSize?_eq_none_iff {size : Nat} {characters : List Char} :
    prefixOfSize? size characters = none ↔
      utf8Len characters < size ∨ IsStraddledAt size characters := by
  fun_induction prefixOfSize? size characters with
  | case1 characters => simp [IsStraddledAt]
  | case2 size => simp
  | case3 size first rest fits ih =>
      rw [Option.map_eq_none_iff, ih, isStraddledAt_cons_iff fits, String.utf8Len_cons]
      refine or_congr_left ?_
      omega
  | case4 size first rest tooWide =>
      -- The first character itself straddles the end.
      refine ⟨fun _ => .inr ⟨[], first, rest, rfl, ?_, ?_⟩, fun _ => rfl⟩ <;>
        rw [String.utf8Len_nil] <;> omega

/-! ## Hints -/

/-- A character of the token straddles the end of what a hint may show. -/
def IsStraddled (token : String) : Prop :=
  IsStraddledAt hintSize token.toList

/-- The text is the front of the token without something behind it, and no longer than a hint may
be. -/
def KeepsBack (token shown : String) : Prop :=
  ∃ behind, behind ≠ "" ∧ token = shown ++ behind ∧ shown.utf8ByteSize ≤ hintSize

variable {token : String}

theorem utf8Len_toList (text : String) : utf8Len text.toList = text.utf8ByteSize := by
  rw [← String.utf8ByteSize_ofList, String.ofList_toList]

theorem hint_of_isStraddled (straddled : IsStraddled token) : hint token = token := by
  rw [hint, prefixOfSize?_eq_none_iff.mpr (.inr straddled)]

theorem keepsBack_hint (long : hintSize < token.utf8ByteSize) (whole : ¬ IsStraddled token) :
    KeepsBack token (hint token) := by
  cases found : prefixOfSize? hintSize token.toList with
  | none =>
      rw [← utf8Len_toList] at long
      rcases prefixOfSize?_eq_none_iff.mp found with short | straddled
      · omega
      · exact absurd straddled whole
  | some shown =>
      obtain ⟨⟨behind, divided⟩, takes⟩ := prefixOfSize?_eq_some_iff.mp found
      have size : (String.ofList shown).utf8ByteSize = hintSize :=
        (String.utf8ByteSize_ofList shown).trans takes
      have joined : token = String.ofList shown ++ String.ofList behind := by
        rw [← String.ofList_append, divided, String.ofList_toList]
      rw [hint, found]
      refine ⟨String.ofList behind, fun nothing => ?_, joined, Nat.le_of_eq size⟩
      rw [joined, nothing, String.append_empty, size] at long
      exact Nat.lt_irrefl _ long

theorem KeepsBack.utf8ByteSize_lt {shown : String} (keeps : KeepsBack token shown) :
    shown.utf8ByteSize < token.utf8ByteSize := by
  obtain ⟨behind, something, rfl, -⟩ := keeps
  rw [String.utf8ByteSize_append]
  have : behind.utf8ByteSize ≠ 0 := fun none => something (String.utf8ByteSize_eq_zero_iff.mp none)
  omega

theorem keepsBack_hint_iff (long : hintSize < token.utf8ByteSize) :
    KeepsBack token (hint token) ↔ ¬ IsStraddled token := by
  refine ⟨fun keeps straddled => ?_, keepsBack_hint long⟩
  have shorter := keeps.utf8ByteSize_lt
  rw [hint_of_isStraddled straddled] at shorter
  exact Nat.lt_irrefl _ shorter

/-! ## Tokens that are issued -/

theorem utf8Len_of_narrow {characters : List Char}
    (narrow : ∀ character ∈ characters, character.utf8Size = 1) :
    utf8Len characters = characters.length := by
  induction characters with
  | nil => rfl
  | cons first rest ih =>
      rw [String.utf8Len_cons, narrow first List.mem_cons_self,
        ih fun character member => narrow character (.tail first member), List.length_cons]

/-- Only a character of several bytes straddles anything. -/
theorem not_isStraddled_of_narrow
    (narrow : ∀ character ∈ token.toList, character.utf8Size = 1) : ¬ IsStraddled token := by
  rintro ⟨front, character, behind, divided, starts, ends⟩
  have one : character.utf8Size = 1 := narrow character (by rw [divided]; simp)
  omega

theorem of_mem_ofBytes {good : Char → Prop}
    (small : ∀ value < 64, good (Text.Base64Url.symbol value)) {bytes : TokenBytes} :
    ∀ character ∈ (ofBytes bytes).toList, good character := by
  intro character member
  rw [ofBytes, String.toList_ofList] at member
  exact Text.Base64Url.of_mem_encode small member

theorem narrow_ofBytes (bytes : TokenBytes) :
    ∀ character ∈ (ofBytes bytes).toList, character.utf8Size = 1 :=
  of_mem_ofBytes (by decide)

theorem length_ofBytes (bytes : TokenBytes) : (ofBytes bytes).length = 43 := by
  rw [ofBytes, String.length_ofList, Text.Base64Url.length_encode, Vector.length_toList]

theorem isEmpty_ofBytes (bytes : TokenBytes) : (ofBytes bytes).isEmpty = false := by
  rw [Bool.eq_false_iff, ne_eq, String.isEmpty_iff]
  intro empty
  have length := length_ofBytes bytes
  rw [empty] at length
  cases length

theorem ofBytes_injective : Function.Injective ofBytes := by
  intro first second same
  have encoded := congrArg String.toList same
  rw [ofBytes, ofBytes, String.toList_ofList, String.toList_ofList] at encoded
  exact Vector.toList_inj.mp (Text.Base64Url.encode_injective encoded)

/-- The hint of a token that is issued is its first six characters. -/
theorem hint_ofBytes (bytes : TokenBytes) :
    hint (ofBytes bytes) = String.ofList ((ofBytes bytes).toList.take hintSize) := by
  have narrow : ∀ character ∈ (ofBytes bytes).toList.take hintSize, character.utf8Size = 1 :=
    fun character member => narrow_ofBytes bytes character (List.mem_of_mem_take member)
  have found : prefixOfSize? hintSize (ofBytes bytes).toList =
      some ((ofBytes bytes).toList.take hintSize) := by
    refine prefixOfSize?_eq_some_iff.mpr ⟨List.take_prefix _ _, ?_⟩
    rw [utf8Len_of_narrow narrow, List.length_take, String.length_toList, length_ofBytes]
    rfl
  rw [hint, found]

end SessionGate.Token
