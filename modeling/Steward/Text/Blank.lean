/-!
# Blank text

Which characters count as blank, and a text without the blanks at its ends. Main statement: the
blanks of ASCII text are among them.
-/

namespace Steward.Text

/-- The characters with the Unicode property `White_Space`. -/
def isBlank (c : Char) : Bool :=
  let n := c.toNat
  (9 ≤ n && n ≤ 13) || n == 32 || n == 0x85 || n == 0xA0 || n == 0x1680 ||
    (0x2000 ≤ n && n ≤ 0x200A) || n == 0x2028 || n == 0x2029 || n == 0x202F || n == 0x205F ||
    n == 0x3000

def dropBlanks (cs : List Char) : List Char :=
  cs.dropWhile isBlank

/-- A list of characters without the blanks at either end. -/
def trimmed (cs : List Char) : List Char :=
  (dropBlanks (dropBlanks cs).reverse).reverse

def trim (s : String) : String :=
  String.ofList (trimmed s.toList)

def isAllBlank (s : String) : Bool :=
  s.toList.all isBlank

end Steward.Text
