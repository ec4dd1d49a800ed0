import Steward.Text.Lowercase

/-!
# Slugs

A slug names a resource in a URL: words of ASCII lowercase letters and digits, joined by single
hyphens, of at most 63 characters.
-/

namespace Steward.Slug

open Steward.Text

/-- The most characters a slug has. -/
def maxLength : Nat := 63

/-- Characters a slug is made of, besides the hyphens between its words. -/
def isWordChar (c : Char) : Bool :=
  ('a' ≤ c && c ≤ 'z') || ('0' ≤ c && c ≤ '9')

/-- The word characters of a text, with one hyphen wherever anything else separated two of them.
`started` once a character has been kept; `pending` when something has been skipped since the last
one kept. -/
def words (started pending : Bool) : List Char → List Char
  | [] => []
  | c :: cs =>
    if isWordChar c then
      if started && pending then '-' :: c :: words true false cs else c :: words true false cs
    else words started true cs

/-- The first 63 characters, without the hyphens that the cut may leave at the end. -/
def cut (cs : List Char) : List Char :=
  if cs.length ≤ maxLength then cs
  else ((cs.take maxLength).reverse.dropWhile (· == '-')).reverse

/-- The slug of a display name. -/
def ofName (name : String) : String :=
  String.ofList (cut (words false false (name.toList.flatMap lowercase)))

end Steward.Slug
