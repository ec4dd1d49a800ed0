import Steward.Json.Record

/-!
# Looking into documents

Access to the parts of a document without demanding a form of the whole: what is not there, or is
of another sort, is absent or blank.
-/

namespace Steward.Json

/-- The member of an object with a given name; the last one if there are several. -/
def member? (j : Json) (name : String) : Option Json :=
  match j with
  | .object members => (valuesOf name members).getLast?
  | _ => none

/-- The member with a given name, or null. -/
def member (j : Json) (name : String) : Json :=
  (j.member? name).getD .null

/-- The member with a given name, unless it is null. -/
def given? (j : Json) (name : String) : Option Json :=
  match j.member? name with
  | some .null => none
  | found => found

/-- The members with names that can be read. -/
def members (j : Json) : List (String × Json) :=
  match j with
  | .object members => members.filterMap fun (name, value) => name.map (·, value)
  | _ => []

def items : Json → List Json
  | .array items => items
  | _ => []

/-- An integer that 64 bits with a sign hold, written without point and exponent. -/
def int? : Json → Option Int
  | .number n => match n.number? with
    | some (.integer k) => if k < Number.halfBound then some k else none
    | _ => none
  | _ => none

/-- A natural number that 64 bits hold, written without sign, point and exponent. -/
def nat? : Json → Option Nat :=
  natBelow? Text.naturalBound

def textAt? (j : Json) (name : String) : Option String :=
  (j.member? name).bind text?

def textAt (j : Json) (name : String) : String :=
  (j.textAt? name).getD ""

def natAt? (j : Json) (name : String) : Option Nat :=
  (j.member? name).bind nat?

def flagAt (j : Json) (name : String) : Bool :=
  match j.member? name with
  | some (.bool b) => b
  | _ => false

def itemsAt (j : Json) (name : String) : List Json :=
  (j.member name).items

def int (n : Int) : Json :=
  .number (Number.integer n).numeral

/-- A value that may be missing; null if it is. -/
def orNull (j : Option Json) : Json :=
  j.getD .null

end Steward.Json
