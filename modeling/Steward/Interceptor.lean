import Steward.Assignment
import Steward.Call.Basic

/-!
# The kind interceptor

Services declare the tag of the kind they serve. The interceptor finds the kind of an incoming call
from its method, `/service/method`, and remembers what it found, also when it found nothing, until
the service is declared again.
-/

namespace Steward

structure Interceptor where
  /-- The tags that services have declared. -/
  declared : List (String × String) := []
  /-- The kinds found for services, since they were declared last. -/
  remembered : List (String × Option Kind) := []

namespace Interceptor

/-- The service that a method belongs to: what stands between its two first slashes. -/
def serviceOf? (method : String) : Option String :=
  match method.toList with
  | '/' :: cs =>
    let service := cs.takeWhile (· ≠ '/')
    match cs.dropWhile (· ≠ '/') with
    | '/' :: _ :: _ => if service.isEmpty then none else some (String.ofList service)
    | _ => none
  | _ => none

/-- The method is of the form `/service/rest`. -/
def Names (method service : String) : Prop :=
  ∃ rest, method = "/" ++ service ++ "/" ++ rest ∧ service ≠ "" ∧ '/' ∉ service.toList ∧ rest ≠ ""

theorem serviceOf?_eq_some_iff {method service : String} :
    serviceOf? method = some service ↔ Names method service := by
  constructor
  · intro found
    rw [serviceOf?] at found
    split at found
    · next cs slash =>
      dsimp only at found
      split at found
      · next c rest behind =>
        split at found
        · cases found
        · next some =>
          cases found
          refine ⟨String.ofList (c :: rest), ?_, ?_, ?_, ?_⟩
          · have whole : cs = cs.takeWhile (· ≠ '/') ++ '/' :: c :: rest := by
              rw [← behind, List.takeWhile_append_dropWhile]
            rw [← String.toList_inj, slash]
            simpa using whole
          · simpa using some
          · intro inside
            rw [String.toList_ofList] at inside
            simpa using List.all_eq_true.1 List.all_takeWhile _ inside
          · simp
      · cases found
    · cases found
  · rintro ⟨rest, rfl, some, plain, more⟩
    have text : ("/" ++ service ++ "/" ++ rest).toList =
        '/' :: (service.toList ++ '/' :: rest.toList) := by simp
    have inside : ∀ c ∈ service.toList, decide (c ≠ '/') = true :=
      fun c held => decide_eq_true fun slash => plain (slash ▸ held)
    have called : rest.toList ≠ [] := by simpa using more
    obtain ⟨c, cs, letters⟩ := List.exists_cons_of_ne_nil called
    rw [serviceOf?, text]
    simp only [List.takeWhile_append_of_pos inside, List.dropWhile_append_of_pos inside, letters]
    simp [some]

/-- The kind that a service's declaration stands for. -/
def lookUp (i : Interceptor) (service : String) : Option Kind :=
  (i.declared.lookup service).bind Kind.ofTag?

/-- Declares the tag of a service. What was found for it before no longer counts. -/
def declare (i : Interceptor) (service tag : String) : Interceptor where
  declared := assign service tag i.declared
  remembered := i.remembered.filter (·.1 ≠ service)

def resolve (i : Interceptor) (method : String) : Option Kind × Interceptor :=
  match serviceOf? method with
  | none => (none, i)
  | some service =>
    match i.remembered.lookup service with
    | some kind => (kind, i)
    | none =>
      let kind := i.lookUp service
      (kind, { i with remembered := i.remembered ++ [(service, kind)] })

/-- The call with the kind that the method is about; the call as it is if there is none. -/
def intercept (i : Interceptor) (method : String) (call : Call) : Call × Interceptor :=
  match i.resolve method with
  | (some kind, i) => (call.withKind kind, i)
  | (none, i) => (call, i)

/-- The number of services for which something is remembered. -/
def rememberedCount (i : Interceptor) : Nat :=
  i.remembered.length

end Interceptor

end Steward
