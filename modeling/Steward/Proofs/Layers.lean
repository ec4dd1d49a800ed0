import Mathlib.Data.List.Nodup
import Steward.Daemon.Config
import Steward.Proofs.Numbers

/-!
# Layers of the configuration

The configuration has three layers: the defaults, on top of them the file that the environment
names, and on top of it the variables of the environment. A layer gives some of the settings, and
each setting is as the topmost layer has it that gives it. What a layer gives, what may be wrong
with it and in which order that is found is stated here apart from the code that reads it. Main
statements: `closedFields?_eq_some_iff`, `base_ok_iff`, `base_error_iff`, `layered_iff` and
`layers_exactly`.
-/

namespace Steward

/-! ## The first of several faults -/

/-- A failure is due to the first of several faults that there is. -/
def First {ε : Type} : List (ε → Prop) → ε → Prop
  | [], _ => False
  | fault :: faults, e => fault e ∨ (∀ e', ¬fault e') ∧ First faults e

namespace First

variable {ε α β : Type} {fault : ε → Prop} {faults : List (ε → Prop)}

/-- A step that stops exactly for one fault, and after it steps that stop for the first of
others. -/
theorem bind_error_iff {step : Except ε α} {rest : α → Except ε β}
    (stops : ∀ e, step = .error e ↔ fault e)
    (goesOn : ∀ a, step = .ok a → ∀ e, rest a = .error e ↔ First faults e) (e : ε) :
    (step >>= rest) = .error e ↔ First (fault :: faults) e := by
  cases step with
  | error e' =>
    have faulty := (stops e').1 rfl
    constructor
    · rintro ⟨⟩
      exact .inl faulty
    · rintro (found | ⟨sound, -⟩)
      · exact congrArg (· >>= rest) ((stops e).2 found)
      · exact absurd faulty (sound e')
  | ok a =>
    have sound : ∀ e', ¬fault e' := fun e' found => nomatch (stops e').2 found
    refine (goesOn a rfl e).trans ⟨fun first => .inr ⟨sound, first⟩, ?_⟩
    rintro (found | ⟨-, first⟩)
    · exact absurd found (sound e)
    · exact first

theorem nil_iff (a : α) (e : ε) : (pure a : Except ε α) = .error e ↔ First [] e :=
  ⟨nofun, False.elim⟩

end First

section

variable {ε α β : Type} {x : Except ε α} {e : ε} {b : β}

theorem map_eq_ok_iff {f : α → β} : x.map f = .ok b ↔ ∃ a, x = .ok a ∧ f a = b := by
  cases x <;> simp [Except.map]

theorem map_eq_error_iff {f : α → β} : x.map f = .error e ↔ x = .error e := by
  cases x <;> simp [Except.map]

theorem bind_eq_ok_iff {f : α → Except ε β} :
    (x >>= f) = .ok b ↔ ∃ a, x = .ok a ∧ f a = .ok b := by
  cases x <;> simp [bind, Except.bind]

end

/-! ## What a layer gives -/

/-- The settings that one layer gives. -/
structure Settings where
  dataDir : Option (Option String) := none
  requestBuffer : Option Nat := none
  streamCapacity : Option Nat := none
  requestTimeout : Option (Option Nat) := none
  logFilter : Option String := none

/-- A layer on top of others. -/
def Settings.over (layer : Settings) (below : Config) : Config where
  dataDir := layer.dataDir.getD below.dataDir
  requestBuffer := layer.requestBuffer.getD below.requestBuffer
  streamCapacity := layer.streamCapacity.getD below.streamCapacity
  requestTimeout := layer.requestTimeout.getD below.requestTimeout
  logFilter := layer.logFilter.getD below.logFilter

namespace Json

/-- A document is a record of the given fields: an object with no other members and at most one for
each field, or an array with no more items than there are fields. -/
def IsRecord (names : List String) : Json → Prop
  | .object members => (∀ member ∈ members, ∃ name ∈ names, member.1 = some name) ∧
      (members.map (·.1)).Nodup
  | .array items => items.length ≤ names.length
  | _ => False

/-- A document has a value for a field: an object has a member of that name and value, and an array
has the value where the field stands among the others. -/
def Has (j : Json) (names : List String) (name : String) (value : Json) : Prop :=
  match j with
  | .object members => (some name, value) ∈ members
  | .array items => (name, value) ∈ names.zip items
  | _ => False

/-- What a document tells about a field whose values are of a sort: nothing if it has no value for
the field, and otherwise what the value stands for. -/
def Tells {α : Type} (j : Json) (names : List String) (name : String) (Is : Json → α → Prop) :
    Option α → Prop
  | none => ∀ value, ¬j.Has names name value
  | some a => ∃ value, j.Has names name value ∧ Is value a

def IsText (j : Json) (s : String) : Prop :=
  j = .string (some s)

/-- A number that 64 bits hold, written with digits only. -/
def IsCount (j : Json) (n : Nat) : Prop :=
  ∃ ds, j = .number { whole := ds } ∧ Text.value ds = n ∧ n < 2 ^ 64

/-- A value of a sort, or null in place of one. -/
def IsOptional {α : Type} (Is : Json → α → Prop) (j : Json) : Option α → Prop
  | none => j = .null
  | some a => Is j a

/-- A reader accepts the values of a sort and no others. -/
def Reads {α : Type} (read : Json → Option α) (Is : Json → α → Prop) : Prop :=
  ∀ j a, read j = some a ↔ Is j a

end Json

/-- A document gives the settings: it is a record of the five fields and no others, and each field
that has a value has one of its sort. -/
def Settings.WrittenIn (layer : Settings) (j : Json) : Prop :=
  j.IsRecord Config.fieldNames ∧
    j.Tells Config.fieldNames "data_dir" (Json.IsOptional Json.IsText) layer.dataDir ∧
    j.Tells Config.fieldNames "request_buffer" Json.IsCount layer.requestBuffer ∧
    j.Tells Config.fieldNames "stream_capacity" Json.IsCount layer.streamCapacity ∧
    j.Tells Config.fieldNames "request_timeout_ms" (Json.IsOptional Json.IsCount)
      layer.requestTimeout ∧
    j.Tells Config.fieldNames "log_filter" Json.IsText layer.logFilter

/-! ## What a document gives is what is read of it -/

namespace Json

variable {names : List String} {name : String} {members : List (Option String × Json)}
  {fields : Fields} {j : Json}

theorem length_valuesOf (name : String) (members : List (Option String × Json)) :
    (valuesOf name members).length = (members.map (·.1)).count (some name) := by
  rw [valuesOf, List.length_map, ← List.countP_eq_length_filter, List.count_eq_countP,
    List.countP_map]
  rfl

theorem mem_valuesOf {value : Json} :
    value ∈ valuesOf name members ↔ (some name, value) ∈ members := by
  simp [valuesOf, and_comm]

/-- Where each name occurs only once, the first value of a name is any value of it. -/
theorem head?_valuesOf_eq_some_iff (distinct : (members.map (·.1)).Nodup) {value : Json} :
    (valuesOf name members).head? = some value ↔ (some name, value) ∈ members := by
  have single : (valuesOf name members).length ≤ 1 := by
    rw [length_valuesOf]
    exact List.nodup_iff_count_le_one.1 distinct (some name)
  rw [← mem_valuesOf]
  generalize valuesOf name members = values at single
  match values, single with
  | [], _ => simp
  | [v], _ => simp [eq_comm]

theorem lookup_zip_eq_some_iff (distinct : names.Nodup) {items : List Json} {value : Json} :
    (names.zip items).lookup name = some value ↔ (name, value) ∈ names.zip items := by
  induction names generalizing items with
  | nil => simp
  | cons other names ih =>
    obtain ⟨apart, distinct⟩ := List.nodup_cons.1 distinct
    cases items with
    | nil => simp
    | cons item items =>
      rw [List.zip_cons_cons, List.lookup_cons, List.mem_cons, Prod.mk.injEq]
      by_cases here : name = other
      · subst here
        have absent : (name, value) ∉ names.zip items := fun inside =>
          apart (List.of_mem_zip inside).1
        simp [absent, eq_comm]
      · have elsewhere : (name == other) = false := by simpa using here
        simp only [elsewhere, here, false_and, false_or]
        exact ih distinct

/-- Of members with known names only, each name that is known may occur once. -/
theorem nodup_names_iff (known : ∀ member ∈ members, ∃ name ∈ names, member.1 = some name) :
    (members.map (·.1)).Nodup ↔ ∀ name ∈ names, (valuesOf name members).length ≤ 1 := by
  simp only [length_valuesOf, List.nodup_iff_count_le_one]
  refine ⟨fun single name _ => single (some name), fun single written => ?_⟩
  by_cases occurs : written ∈ members.map (·.1)
  · obtain ⟨member, inside, rfl⟩ := List.mem_map.1 occurs
    obtain ⟨name, among, same⟩ := known member inside
    simpa only [same] using single name among
  · rw [List.count_eq_zero_of_not_mem occurs]
    exact Nat.zero_le 1

theorem closedFields?_object_eq_some_iff :
    closedFields? names (.object members) = some fields ↔
      IsRecord names (.object members) ∧ (fun name => (valuesOf name members).head?) = fields := by
  simp only [closedFields?, memberFields?, IsRecord, Option.ite_none_right_eq_some,
    Option.some.injEq, Bool.and_eq_true, List.all_eq_true, List.any_eq_true, beq_iff_eq,
    decide_eq_true_eq, @eq_comm _ (some _) (Prod.fst _)]
  constructor
  · rintro ⟨known, ⟨-, single⟩, read⟩
    exact ⟨⟨known, (nodup_names_iff known).2 single⟩, read⟩
  · rintro ⟨⟨known, distinct⟩, read⟩
    refine ⟨known, ⟨fun member inside => ?_, (nodup_names_iff known).1 distinct⟩, read⟩
    obtain ⟨name, -, same⟩ := known member inside
    rw [same]
    rfl

/-- The reader of records sees just the records, and in them the values that the fields have. -/
theorem closedFields?_eq_some_iff (distinct : names.Nodup) : closedFields? names j = some fields ↔
    j.IsRecord names ∧ ∀ name value, fields name = some value ↔ j.Has names name value := by
  -- Fields are told by the values that they have.
  have fields_eq_iff (f : Fields) : f = fields ↔
      ∀ name value, fields name = some value ↔ f name = some value :=
    ⟨fun same name value => by rw [same], fun agree => funext fun name =>
      Option.ext fun value => (agree name value).symm⟩
  cases j with
  | object members =>
    rw [closedFields?_object_eq_some_iff, fields_eq_iff]
    refine and_congr_right fun record => ?_
    simp only [head?_valuesOf_eq_some_iff record.2, Has]
  | array items =>
    simp only [closedFields?, fields?, Option.ite_none_right_eq_some, Option.some.injEq,
      fields_eq_iff, lookup_zip_eq_some_iff distinct, IsRecord, Has]
  | null => simp [closedFields?, fields?, IsRecord]
  | bool b => simp [closedFields?, fields?, IsRecord]
  | number n => simp [closedFields?, fields?, IsRecord]
  | string s => simp [closedFields?, fields?, IsRecord]

theorem exists_closedFields? (record : j.IsRecord names) :
    ∃ fields, closedFields? names j = some fields := by
  cases j with
  | object members => exact ⟨_, closedFields?_object_eq_some_iff.2 ⟨record, rfl⟩⟩
  | array items => exact ⟨_, if_pos record⟩
  | null => exact record.elim
  | bool b => exact record.elim
  | number n => exact record.elim
  | string s => exact record.elim

theorem reads_text : Reads text? IsText := by
  intro j s
  unfold text? IsText
  split <;> simp_all

theorem reads_count : Reads (natBelow? Text.naturalBound) IsCount := by
  intro j n
  unfold natBelow? IsCount
  split
  · next written =>
    obtain ⟨negative, whole, fraction, exponent⟩ := written
    simp [Option.filter_eq_some_iff, Numeral.nat?, Text.naturalBound_eq, and_assoc]
  · next other =>
    refine ⟨by simp, ?_⟩
    rintro ⟨ds, rfl, -⟩
    exact absurd rfl (other _)

theorem reads_optional {α : Type} {read : Json → Option α} {Is : Json → α → Prop}
    (reads : Reads read Is) (given : ∀ a, ¬Is .null a) :
    Reads (optional? read) (IsOptional Is) := by
  intro j told
  unfold optional?
  split
  · cases told with
    | none => simp [IsOptional]
    | some a => simp [IsOptional, given a]
  · next other =>
    cases told with
    | none => simpa [IsOptional] using other
    | some a => simp [IsOptional, reads j a]

end Json

/-- Reading a field of a document, with something in its place if there is no value for it. -/
theorem Fields.get_eq_some_iff {α : Type} {fields : Fields} {j : Json} {names : List String}
    {name : String} {read : Json → Option α} {Is : Json → α → Prop} {default a : α}
    (has : ∀ name value, fields name = some value ↔ j.Has names name value)
    (reads : Json.Reads read Is) : fields.get name read default = some a ↔
      ∃ told, j.Tells names name Is told ∧ told.getD default = a := by
  unfold Fields.get
  constructor
  · intro found
    split at found
    · next missing =>
      refine ⟨none, fun value there => ?_, Option.some.inj found⟩
      cases missing.symm.trans ((has name value).2 there)
    · next value given =>
      exact ⟨some a, ⟨value, (has name value).1 given, (reads value a).1 found⟩, rfl⟩
  · rintro ⟨_ | told, tells, rfl⟩
    · have missing : fields name = none :=
        Option.eq_none_iff_forall_ne_some.2 fun value given =>
          tells value ((has name value).1 given)
      rw [missing]
      rfl
    · obtain ⟨value, there, is⟩ := tells
      rw [(has name value).2 there]
      exact (reads value told).2 is

namespace Config

/-- A document is read as a configuration exactly if it gives settings: as those on top of the
defaults. -/
theorem ofJson?_eq_some_iff {j : Json} {c : Config} :
    ofJson? j = some c ↔ ∃ layer : Settings, layer.WrittenIn j ∧ layer.over {} = c := by
  have distinct : fieldNames.Nodup := by decide
  have readsDir := Json.reads_optional Json.reads_text fun s => by simp [Json.IsText]
  have readsTimeout := Json.reads_optional Json.reads_count fun n => by simp [Json.IsCount]
  constructor
  · simp only [ofJson?, Option.bind_eq_bind, Option.bind_eq_some_iff]
    rintro ⟨fields, read, given⟩
    obtain ⟨record, has⟩ := (Json.closedFields?_eq_some_iff distinct).1 read
    simp only [Fields.get_eq_some_iff has readsDir, Fields.get_eq_some_iff has readsTimeout,
      Fields.get_eq_some_iff has Json.reads_count, Fields.get_eq_some_iff has Json.reads_text]
      at given
    obtain ⟨dir, ⟨toldDir, tellsDir, rfl⟩, buffer, ⟨toldBuffer, tellsBuffer, rfl⟩, capacity,
      ⟨toldCapacity, tellsCapacity, rfl⟩, timeout, ⟨toldTimeout, tellsTimeout, rfl⟩, filter,
      ⟨toldFilter, tellsFilter, rfl⟩, made⟩ := given
    exact ⟨⟨toldDir, toldBuffer, toldCapacity, toldTimeout, toldFilter⟩,
      ⟨record, tellsDir, tellsBuffer, tellsCapacity, tellsTimeout, tellsFilter⟩,
      Option.some.inj made⟩
  · rintro ⟨layer, ⟨record, dir, buffer, capacity, timeout, filter⟩, rfl⟩
    obtain ⟨fields, read⟩ := Json.exists_closedFields? record
    obtain ⟨-, has⟩ := (Json.closedFields?_eq_some_iff distinct).1 read
    simp only [ofJson?, Option.bind_eq_bind, Option.bind_eq_some_iff]
    exact ⟨fields, read, _, (Fields.get_eq_some_iff has readsDir).2 ⟨_, dir, rfl⟩,
      _, (Fields.get_eq_some_iff has Json.reads_count).2 ⟨_, buffer, rfl⟩,
      _, (Fields.get_eq_some_iff has Json.reads_count).2 ⟨_, capacity, rfl⟩,
      _, (Fields.get_eq_some_iff has readsTimeout).2 ⟨_, timeout, rfl⟩,
      _, (Fields.get_eq_some_iff has Json.reads_text).2 ⟨_, filter, rfl⟩, rfl⟩

variable {readFile lookup : String → Option String} {key : String} {failure : ConfigFailure}
  {c : Config}

/-- What a variable tells as a text: nothing if it is not set, or blank. -/
def TellsText (lookup : String → Option String) (key : String) : Option String → Prop
  | none => ∀ value, lookup key = some value → ∀ char ∈ value.toList, Text.isBlank char
  | some value => lookup key = some value ∧ ∃ char ∈ value.toList, Text.isBlank char = false

theorem nonBlank_eq_iff {told : Option String} :
    nonBlank (lookup key) = told ↔ TellsText lookup key told := by
  cases told with
  | none => simp [nonBlank, TellsText, Text.isAllBlank]
  | some value => simp [nonBlank, TellsText, Text.isAllBlank, Option.filter_eq_some_iff]

/-- What a variable tells as a number: nothing if it is not set. -/
def TellsNumber (lookup : String → Option String) (key : String) : Option Nat → Prop
  | none => lookup key = none
  | some n => ∃ raw core, lookup key = some raw ∧ Text.Trimmed raw.toList core ∧
      Text.Denotes core n

/-- What is wrong with a variable that is set and is not the text of a number. -/
def NumberSpoiled (lookup : String → Option String) (key : String) (failure : ConfigFailure) :
    Prop :=
  ∃ raw core fault, lookup key = some raw ∧ Text.Trimmed raw.toList core ∧
    Text.Spoiled core fault ∧ failure = .invalidValue key s!"'{raw}': {fault.message}"

theorem variableNumber_ok_iff (key : String) {raw : String} {n : Nat} :
    variableNumber key raw = .ok n ↔
    ∃ core, Text.Trimmed raw.toList core ∧ Text.Denotes core n := by
  simp only [← Text.trimmed_eq_iff, ← Text.natural_ok_iff, exists_eq_left', variableNumber]
  split <;> simp [*]

theorem variableNumber_error_iff {raw : String} : variableNumber key raw = .error failure ↔
    ∃ core fault, Text.Trimmed raw.toList core ∧ Text.Spoiled core fault ∧
      failure = .invalidValue key s!"'{raw}': {fault.message}" := by
  simp only [← Text.trimmed_eq_iff, ← Text.natural_error_iff, variableNumber]
  split <;> simp [*, eq_comm]

/-- With nothing there before, reading a variable gives just what it tells. -/
theorem overridingOption_none_ok_iff {told : Option Nat} :
    overridingOption lookup key none = .ok told ↔ TellsNumber lookup key told := by
  unfold overridingOption TellsNumber
  split
  · next missing => cases told <;> simp [missing]
  · next raw found =>
    cases told with
    | none => cases variableNumber key raw <;> simp [found, Except.map]
    | some n =>
      simp only [found, Option.some.injEq, exists_and_left, exists_eq_left',
        ← variableNumber_ok_iff key]
      cases variableNumber key raw <;> simp [Except.map]

theorem overridingOption_none_error_iff :
    overridingOption lookup key none = .error failure ↔ NumberSpoiled lookup key failure := by
  unfold overridingOption NumberSpoiled
  split
  · next missing => simp [missing]
  · next raw found =>
    simp only [found, Option.some.injEq, exists_and_left, exists_eq_left']
    simp only [← exists_and_left, ← variableNumber_error_iff]
    cases variableNumber key raw <;> simp [Except.map]

theorem overriding_eq (otherwise : Nat) : overriding lookup key otherwise =
    (overridingOption lookup key none).map fun told => told.getD otherwise := by
  unfold overriding overridingOption
  split
  · rfl
  · cases variableNumber _ _ <;> rfl

theorem overridingOption_eq (otherwise : Option Nat) : overridingOption lookup key otherwise =
    (overridingOption lookup key none).map fun told => (told.map some).getD otherwise := by
  unfold overridingOption
  split
  · rfl
  · cases variableNumber _ _ <;> rfl

theorem overriding_ok_iff {otherwise n : Nat} : overriding lookup key otherwise = .ok n ↔
    ∃ told, TellsNumber lookup key told ∧ told.getD otherwise = n := by
  simp only [overriding_eq, map_eq_ok_iff, overridingOption_none_ok_iff]

theorem overridingOption_ok_iff {otherwise n : Option Nat} :
    overridingOption lookup key otherwise = .ok n ↔
      ∃ told, TellsNumber lookup key told ∧ (told.map some).getD otherwise = n := by
  rw [overridingOption_eq]
  simp only [map_eq_ok_iff, overridingOption_none_ok_iff]

theorem overriding_error_iff {otherwise : Nat} :
    overriding lookup key otherwise = .error failure ↔ NumberSpoiled lookup key failure := by
  rw [overriding_eq, map_eq_error_iff, overridingOption_none_error_iff]

theorem overridingOption_error_iff {otherwise : Option Nat} :
    overridingOption lookup key otherwise = .error failure ↔
      NumberSpoiled lookup key failure := by
  rw [overridingOption_eq, map_eq_error_iff, overridingOption_none_error_iff]

/-! ## What is wrong with a configuration -/

/-- Nothing is zero that must not be. -/
def Positive (c : Config) : Prop :=
  c.requestBuffer ≠ 0 ∧ c.streamCapacity ≠ 0 ∧ c.requestTimeout ≠ some 0

/-- What must not be zero, in the order in which it is looked at. -/
def zeroFaults (c : Config) : List (ConfigFailure → Prop) :=
  [fun e => c.requestBuffer = 0 ∧ e = .invalidValue "request_buffer" tooSmall,
    fun e => c.streamCapacity = 0 ∧ e = .invalidValue "stream_capacity" tooSmall,
    fun e => c.requestTimeout = some 0 ∧ e = .invalidValue "request_timeout_ms" tooSmall]

theorem validate_ok_iff : c.validate = .ok () ↔ c.Positive := by
  unfold validate Positive
  split_ifs <;> simp_all

theorem validate_error_iff : c.validate = .error failure ↔ First (zeroFaults c) failure := by
  unfold validate
  split_ifs <;> simp_all [zeroFaults, First, eq_comm]

/-! ## The file -/

/-- The settings that the file gives which the environment names: none if it names no file. They
have to be a configuration by themselves. -/
inductive InFile (readFile lookup : String → Option String) : Settings → Prop
  | unnamed (silent : TellsText lookup fileVariable none) : InFile readFile lookup {}
  | named {path content : String} {j : Json} {layer : Settings}
      (tells : TellsText lookup fileVariable (some path)) (reads : readFile path = some content)
      (parses : Json.ofText? content = some j) (written : layer.WrittenIn j)
      (sound : (layer.over {}).Positive) : InFile readFile lookup layer

/-- What is wrong with the file that the environment names: it cannot be read; it is no document
that gives settings; they are no configuration by themselves. -/
inductive FileSpoiled (readFile lookup : String → Option String) : ConfigFailure → Prop
  | unread {path : String} (tells : TellsText lookup fileVariable (some path))
      (missing : readFile path = none) : FileSpoiled readFile lookup (.read path)
  | unparsed {path content : String} (tells : TellsText lookup fileVariable (some path))
      (reads : readFile path = some content)
      (unlike : ∀ j, Json.ofText? content = some j → ∀ layer : Settings, ¬layer.WrittenIn j) :
      FileSpoiled readFile lookup (.parse path)
  | unsound {path content : String} {j : Json} {layer : Settings} {failure : ConfigFailure}
      (tells : TellsText lookup fileVariable (some path)) (reads : readFile path = some content)
      (parses : Json.ofText? content = some j) (written : layer.WrittenIn j)
      (zero : First (zeroFaults (layer.over {})) failure) : FileSpoiled readFile lookup failure

theorem parsed_eq_some_iff {content : String} : (Json.ofText? content).bind ofJson? = some c ↔
    ∃ j layer, Json.ofText? content = some j ∧ Settings.WrittenIn layer j ∧ layer.over {} = c := by
  simp only [Option.bind_eq_some_iff, ofJson?_eq_some_iff, exists_and_left]

theorem parsed_eq_none_iff {content : String} : (Json.ofText? content).bind ofJson? = none ↔
    ∀ j, Json.ofText? content = some j → ∀ layer : Settings, ¬layer.WrittenIn j := by
  rw [Option.eq_none_iff_forall_ne_some]
  constructor
  · intro unlike j parses layer written
    exact unlike _ (parsed_eq_some_iff.2 ⟨j, layer, parses, written, rfl⟩)
  · intro unlike c parsed
    obtain ⟨j, layer, parses, written, -⟩ := parsed_eq_some_iff.1 parsed
    exact unlike j parses layer written

/-- Of a file that gives settings, only what is zero can be wrong. -/
theorem ofFile_of_written {path content : String} {j : Json} {layer : Settings}
    (reads : readFile path = some content) (parses : Json.ofText? content = some j)
    (written : layer.WrittenIn j) : ofFile readFile path =
      (layer.over {}).validate.map fun _ => layer.over {} := by
  have parsed := parsed_eq_some_iff.2 ⟨j, layer, parses, written, rfl⟩
  simp only [ofFile, reads, parsed]

theorem base_of_named {path : String} (tells : TellsText lookup fileVariable (some path)) :
    base readFile lookup = ofFile readFile path := by
  simp only [base, fileNamed?, nonBlank_eq_iff.2 tells]

theorem base_of_inFile {file : Settings} (inFile : InFile readFile lookup file) :
    base readFile lookup = .ok (file.over {}) := by
  cases inFile with
  | unnamed silent =>
    simp only [base, fileNamed?, nonBlank_eq_iff.2 silent]
    rfl
  | named tells reads parses written sound =>
    rw [base_of_named tells, ofFile_of_written reads parses written, validate_ok_iff.2 sound]
    rfl

theorem base_of_fileSpoiled (spoiled : FileSpoiled readFile lookup failure) :
    base readFile lookup = .error failure := by
  cases spoiled with
  | unread tells missing =>
    rw [base_of_named tells]
    simp only [ofFile, missing]
  | unparsed tells reads unlike =>
    rw [base_of_named tells]
    simp only [ofFile, reads, parsed_eq_none_iff.2 unlike]
  | unsound tells reads parses written zero =>
    rw [base_of_named tells, ofFile_of_written reads parses written, validate_error_iff.2 zero]
    rfl

/-- Either the file gives settings, or something is wrong with it. -/
theorem inFile_or_fileSpoiled (readFile lookup : String → Option String) :
    (∃ file, InFile readFile lookup file) ∨ ∃ failure, FileSpoiled readFile lookup failure := by
  cases named : nonBlank (lookup fileVariable) with
  | none => exact .inl ⟨{}, .unnamed (nonBlank_eq_iff.1 named)⟩
  | some path =>
    have tells := nonBlank_eq_iff.1 named
    cases reads : readFile path with
    | none => exact .inr ⟨_, .unread tells reads⟩
    | some content =>
      cases parsed : (Json.ofText? content).bind ofJson? with
      | none => exact .inr ⟨_, .unparsed tells reads (parsed_eq_none_iff.1 parsed)⟩
      | some c =>
        obtain ⟨j, layer, parses, written, rfl⟩ := parsed_eq_some_iff.1 parsed
        cases checked : (layer.over {}).validate with
        | error failure =>
          exact .inr ⟨failure, .unsound tells reads parses written (validate_error_iff.1 checked)⟩
        | ok _ => exact .inl ⟨layer, .named tells reads parses written (validate_ok_iff.1 checked)⟩

theorem base_ok_iff :
    base readFile lookup = .ok c ↔ ∃ file, InFile readFile lookup file ∧ file.over {} = c := by
  constructor
  · intro made
    rcases inFile_or_fileSpoiled readFile lookup with ⟨file, inFile⟩ | ⟨failure, spoiled⟩
    · exact ⟨file, inFile, Except.ok.inj ((base_of_inFile inFile).symm.trans made)⟩
    · cases (base_of_fileSpoiled spoiled).symm.trans made
  · rintro ⟨file, inFile, rfl⟩
    exact base_of_inFile inFile

theorem base_error_iff :
    base readFile lookup = .error failure ↔ FileSpoiled readFile lookup failure := by
  refine ⟨fun failed => ?_, base_of_fileSpoiled⟩
  rcases inFile_or_fileSpoiled readFile lookup with ⟨file, inFile⟩ | ⟨failure', spoiled⟩
  · cases (base_of_inFile inFile).symm.trans failed
  · obtain rfl : failure' = failure :=
      Except.error.inj ((base_of_fileSpoiled spoiled).symm.trans failed)
    exact spoiled

/-! ## The environment, and all layers -/

/-- The settings that the variables of the environment give. -/
inductive InEnvironment (lookup : String → Option String) : Settings → Prop
  | mk {dataDir logFilter : Option String}
      {requestBuffer streamCapacity requestTimeout : Option Nat}
      (tellsDir : TellsText lookup dataDirVariable dataDir)
      (tellsBuffer : TellsNumber lookup requestBufferVariable requestBuffer)
      (tellsCapacity : TellsNumber lookup streamCapacityVariable streamCapacity)
      (tellsTimeout : TellsNumber lookup requestTimeoutVariable requestTimeout)
      (tellsFilter : TellsText lookup logVariable logFilter) :
      InEnvironment lookup {
        dataDir := dataDir.map some
        requestBuffer := requestBuffer
        streamCapacity := streamCapacity
        requestTimeout := requestTimeout.map some
        logFilter := logFilter }

/-- A configuration is the environment's settings on top of the file's on top of the defaults. -/
def Layered (readFile lookup : String → Option String) (c : Config) : Prop :=
  ∃ file environment, InFile readFile lookup file ∧ InEnvironment lookup environment ∧
    environment.over (file.over {}) = c

/-- What may be wrong with the layers, in the order in which it is found. -/
def layerFaults (readFile lookup : String → Option String) : List (ConfigFailure → Prop) :=
  [FileSpoiled readFile lookup, NumberSpoiled lookup requestBufferVariable,
    NumberSpoiled lookup streamCapacityVariable, NumberSpoiled lookup requestTimeoutVariable,
    fun e => ∃ c, Layered readFile lookup c ∧ First (zeroFaults c) e]

/-- The layers make what is put together from their parts as they are read. -/
theorem layered_iff : Layered readFile lookup c ↔
    ∃ file, base readFile lookup = .ok file ∧
    ∃ buffer, overriding lookup requestBufferVariable file.requestBuffer = .ok buffer ∧
    ∃ capacity, overriding lookup streamCapacityVariable file.streamCapacity = .ok capacity ∧
    ∃ timeout, overridingOption lookup requestTimeoutVariable file.requestTimeout = .ok timeout ∧
      { dataDir := (nonBlank (lookup dataDirVariable)).or file.dataDir
        requestBuffer := buffer
        streamCapacity := capacity
        requestTimeout := timeout
        logFilter := (nonBlank (lookup logVariable)).getD file.logFilter : Config } = c := by
  simp only [base_ok_iff, overriding_ok_iff, overridingOption_ok_iff]
  constructor
  · rintro ⟨file, _, inFile, @⟨dataDir, logFilter, buffer, capacity, timeout, tellsDir, tellsBuffer,
      tellsCapacity, tellsTimeout, tellsFilter⟩, rfl⟩
    refine ⟨_, ⟨file, inFile, rfl⟩, _, ⟨buffer, tellsBuffer, rfl⟩, _,
      ⟨capacity, tellsCapacity, rfl⟩, _, ⟨timeout, tellsTimeout, rfl⟩, ?_⟩
    rw [nonBlank_eq_iff.2 tellsDir, nonBlank_eq_iff.2 tellsFilter]
    cases dataDir <;> rfl
  · rintro ⟨_, ⟨file, inFile, rfl⟩, _, ⟨buffer, tellsBuffer, rfl⟩, _,
      ⟨capacity, tellsCapacity, rfl⟩, _, ⟨timeout, tellsTimeout, rfl⟩, rfl⟩
    refine ⟨file, _, inFile, ⟨nonBlank_eq_iff.1 rfl, tellsBuffer, tellsCapacity, tellsTimeout,
      nonBlank_eq_iff.1 rfl⟩, ?_⟩
    cases nonBlank (lookup dataDirVariable) <;> rfl

/-- How the configuration comes about from the layers, and what is said when it does not. -/
structure LayersExactly (readFile lookup : String → Option String) : Prop where
  /-- There is a configuration exactly if nothing is wrong with any layer, nor with what they make
  together; it is what they make. -/
  made : ∀ c, ofEnvironment readFile lookup = .ok c ↔ Layered readFile lookup c ∧ c.Positive
  /-- Else the first fault is told. -/
  refused : ∀ failure, ofEnvironment readFile lookup = .error failure ↔
    First (layerFaults readFile lookup) failure

theorem layers_exactly (readFile lookup : String → Option String) :
    LayersExactly readFile lookup where
  made c := by
    simp only [ofEnvironment, layered_iff, bind_eq_ok_iff]
    constructor
    · rintro ⟨file, fileRead, buffer, bufferRead, capacity, capacityRead, timeout, timeoutRead,
        _, checked, made⟩
      obtain rfl := Except.ok.inj made
      exact ⟨⟨file, fileRead, buffer, bufferRead, capacity, capacityRead, timeout, timeoutRead,
        rfl⟩, validate_ok_iff.1 checked⟩
    · rintro ⟨⟨file, fileRead, buffer, bufferRead, capacity, capacityRead, timeout, timeoutRead,
        rfl⟩, positive⟩
      exact ⟨file, fileRead, buffer, bufferRead, capacity, capacityRead, timeout, timeoutRead,
        _, validate_ok_iff.2 positive, rfl⟩
  refused failure := by
    refine First.bind_error_iff (fun _ => base_error_iff) (fun file fileRead => ?_) failure
    refine First.bind_error_iff (fun _ => overriding_error_iff) fun buffer bufferRead => ?_
    refine First.bind_error_iff (fun _ => overriding_error_iff) fun capacity capacityRead => ?_
    refine First.bind_error_iff (fun _ => overridingOption_error_iff) fun timeout timeoutRead => ?_
    refine First.bind_error_iff (fun failure => ?_) fun _ _ failure => First.nil_iff _ failure
    -- Everything is read, so there is one configuration that the layers make.
    simp only [layered_iff, fileRead, bufferRead, capacityRead, timeoutRead, Except.ok.injEq,
      exists_eq_left', validate_error_iff]

end Config

end Steward
