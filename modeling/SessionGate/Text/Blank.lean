/-!
# Blank characters

A character is blank when it has the White_Space property. Trimming removes blanks at both ends
of a text and nothing else.
-/

namespace SessionGate.Text

/-- The characters with the White_Space property. -/
def isBlank (character : Char) : Bool :=
  let code := character.toNat
  (9 ≤ code && code ≤ 13) || code == 0x20 || code == 0x85 || code == 0xa0 || code == 0x1680 ||
    (0x2000 ≤ code && code ≤ 0x200a) || code == 0x2028 || code == 0x2029 || code == 0x202f ||
    code == 0x205f || code == 0x3000

/-- The list without the elements at its end that satisfy `drop`. -/
def dropWhileEnd {α : Type} (drop : α → Bool) (list : List α) : List α :=
  (list.reverse.dropWhile drop).reverse

/-- The list without the elements at either end that satisfy `drop`. -/
def trimList {α : Type} (drop : α → Bool) (list : List α) : List α :=
  dropWhileEnd drop (list.dropWhile drop)

def trim (text : String) : String :=
  String.ofList (trimList isBlank text.toList)

end SessionGate.Text
