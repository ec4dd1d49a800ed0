import Steward.Json.Basic

/-!
# Records in JSON

A record with named fields is written as an object. It may be read from an object, in any order and
with members of other names, or from an array that holds the fields in the order of declaration.
A field that is missing takes its default; a field that is given twice spoils the record.
-/

namespace Steward

/-- The fields of a record that were given. -/
abbrev Fields := String → Option Json

namespace Json

/-- The values of the members with a given name. -/
def valuesOf (name : String) (members : List (Option String × Json)) : List Json :=
  (members.filter fun member => member.1 == some name).map (·.2)

/-- The members of an object as the fields of a record: each of `names` at most once, and no
member name that cannot be read. -/
def memberFields? (names : List String) (members : List (Option String × Json)) : Option Fields :=
  if members.all (·.1.isSome) && names.all (fun name => (valuesOf name members).length ≤ 1) then
    some fun name => (valuesOf name members).head?
  else none

def fields? (names : List String) : Json → Option Fields
  | .object members => memberFields? names members
  | .array items =>
    if items.length ≤ names.length then some fun name => (names.zip items).lookup name else none
  | _ => none

/-- The fields `names` of a record that must not have members of other names. -/
def closedFields? (names : List String) : Json → Option Fields
  | .object members =>
    if members.all fun member => names.any (some · == member.1) then memberFields? names members
    else none
  | j => fields? names j

def text? : Json → Option String
  | .string s => s
  | _ => none

/-- A natural number below a bound, written without sign, point and exponent. -/
def natBelow? (bound : Nat) : Json → Option Nat
  | .number n => n.nat?.filter (· < bound)
  | _ => none

def optional? {α : Type} (read : Json → Option α) : Json → Option (Option α)
  | .null => some none
  | j => (read j).map some

def listOf? {α : Type} (read : Json → Option α) : Json → Option (List α)
  | .array items => items.mapM read
  | _ => none

/-- The name of a choice without data: a string, or an object of one member that is null. -/
def choice? : Json → Option String
  | .string s => s
  | .object [(name, .null)] => name
  | _ => none

end Json

/-- Reads a field, or gives the default if the field is missing. -/
def Fields.get {α : Type} (fields : Fields) (name : String) (read : Json → Option α)
    (default : α) : Option α :=
  match fields name with
  | none => some default
  | some j => read j

/-- The written form of a type, and what stands for a value that is not given. -/
structure Form (α : Type) where
  write : α → Json
  read : Json → Option α
  blank : α

end Steward
