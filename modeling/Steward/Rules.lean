import Steward.Text.Blank

/-!
# Rules

What a field may hold, and the first rule that a value violates.
-/

namespace Steward

/-- A field that breaks a rule, and what the rule says. -/
structure Violation where
  field : String
  detail : String
deriving DecidableEq

/-- The text that describes a violation. -/
def Violation.message (v : Violation) : String :=
  s!"{v.field}: {v.detail}"

/-- A pattern: its written form and the texts that match it. -/
structure Pattern where
  text : String
  accepts : String → Bool

namespace Pattern

/-- A letter or digit, then letters, digits, dots, underscores and hyphens. -/
def modelName : Pattern where
  text := "^[a-z0-9][a-z0-9._-]*$"
  accepts s := match s.toList with
    | [] => false
    | c :: cs => (isLower c || c.isDigit) &&
      cs.all fun c => isLower c || c.isDigit || c = '.' || c = '_' || c = '-'
where
  isLower (c : Char) : Bool := 'a' ≤ c && c ≤ 'z'

/-- Lowercase letters only, at least one. -/
def lowercaseWord : Pattern where
  text := "^[a-z]+$"
  accepts s := !s.toList.isEmpty && s.toList.all fun c => 'a' ≤ c && c ≤ 'z'

/-- A digit somewhere. -/
def someDigit : Pattern where
  text := "[0-9]"
  accepts s := s.toList.any Char.isDigit

/-- The patterns that rules are written with. -/
def all : List Pattern := [modelName, lowercaseWord, someDigit]

end Pattern

/-- The outcome of one rule. -/
abbrev Finding := Option Violation

namespace Rule

/-- A rule that must hold. -/
def check (field : String) (holds : Bool) (detail : String) : Finding :=
  if holds then none else some ⟨field, detail⟩

/-- A value that is not blank. -/
def required (field value : String) : Finding :=
  check field (!Text.isAllBlank value) "value is required"

/-- A value of at most `max` characters. -/
def maxLength (field value : String) (max : Nat) : Finding :=
  check field (value.length ≤ max) s!"value length must be at most {max} characters"

/-- A value that is empty or matches a pattern. -/
def pattern (field value : String) (p : Pattern) : Finding :=
  check field (value.isEmpty || p.accepts value)
    ("value does not match regex pattern \x60" ++ p.text ++ "\x60")

/-- A number from `min` to `max`. -/
def range (field : String) (value min max : Int) : Finding :=
  check field (min ≤ value && value ≤ max) s!"value must be between {min} and {max} inclusive"

/-- The first violation that was found. -/
def first (findings : List Finding) : Finding :=
  findings.findSome? id

end Rule

end Steward
