import Steward.Json.Parser
import Steward.Json.Printer
import Steward.Proofs.Digits

/-!
# JSON that is written is read

The compact text of a document of texts, truth values and natural numbers is read as that document.
Main statement: `ofBytes?_compact`.
-/

namespace Steward.Json

open Steward.Text

/-- Characters as symbols. -/
def symbolsOf (cs : List Char) : List Symbol :=
  cs.map some

@[simp]
theorem symbolsOf_nil : symbolsOf [] = [] := rfl

@[simp]
theorem symbolsOf_cons (c : Char) (cs : List Char) :
    symbolsOf (c :: cs) = some c :: symbolsOf cs := rfl

@[simp]
theorem symbolsOf_append (cs ds : List Char) :
    symbolsOf (cs ++ ds) = symbolsOf cs ++ symbolsOf ds :=
  List.map_append

/-! ## Strings -/

/-- How a character is found in a string that was written. -/
def pieceOf (c : Char) : Piece :=
  if c.toNat < 32 ∧ c ∉ ['\x08', '\x0c', '\n', '\r', '\t'] then .unit c.toNat else .char c

/-- Reading past the written form of one character. -/
theorem readPieces_escaped (c : Char) (s : List Symbol) :
    readPieces (symbolsOf (escaped c) ++ s) =
      (readPieces s).map fun (ps, rest) => (pieceOf c :: ps, rest) := by
  unfold escaped
  split
  · subst_vars; simp [readPieces, unescaped?, pieceOf]
  split
  · subst_vars; simp [readPieces, unescaped?, pieceOf]
  split
  · subst_vars; simp [readPieces, unescaped?, pieceOf]
  split
  · subst_vars; simp [readPieces, unescaped?, pieceOf]
  split
  · subst_vars; simp [readPieces, unescaped?, pieceOf]
  split
  · subst_vars; simp [readPieces, unescaped?, pieceOf]
  split
  · subst_vars; simp [readPieces, unescaped?, pieceOf]
  split
  · next _ _ back feed newline ret tab control =>
    have high : hexValue? (hexDigit (c.toNat / 16)) = some (c.toNat / 16) := by
      rw [hexDigit, hexValue?_hexChar]; simp [Fin.ofNat]; omega
    have low : hexValue? (hexDigit c.toNat) = some (c.toNat % 16) := by
      rw [hexDigit, hexValue?_hexChar]; simp [Fin.ofNat]
    have zero : hexValue? '0' = some 0 := by decide
    have unit : hexUnit? (some '0') (some '0') (some (hexDigit (c.toNat / 16)))
        (some (hexDigit c.toNat)) = some c.toNat := by
      simp only [hexUnit?, zero, high, low, Option.bind_eq_bind, Option.bind_some, Option.pure_def,
        Option.some.injEq]
      omega
    have piece : pieceOf c = .unit c.toNat := by
      simp [pieceOf, control, back, feed, newline, ret, tab]
    simp only [symbolsOf_cons, symbolsOf_nil, List.cons_append, List.nil_append, readPieces, unit,
      piece]
  · next quote slash _ _ _ _ _ control =>
    have piece : pieceOf c = .char c := by simp [pieceOf, control]
    simp only [symbolsOf_cons, symbolsOf_nil, List.cons_append, List.nil_append]
    rw [readPieces.eq_def]
    split <;> simp_all

/-- The pieces of a text that was written, up to the closing quote. -/
theorem readPieces_written (cs : List Char) (s : List Symbol) :
    readPieces (symbolsOf (cs.flatMap escaped) ++ some '"' :: s) = some (cs.map pieceOf, s) := by
  induction cs with
  | nil => simp [readPieces]
  | cons c cs ih =>
    rw [List.flatMap_cons, symbolsOf_append, List.append_assoc, readPieces_escaped, ih]
    rfl

theorem join?_pieceOf (cs : List Char) : join? (cs.map pieceOf) = some cs := by
  induction cs with
  | nil => rfl
  | cons c cs ih =>
    rw [List.map_cons, pieceOf]
    split
    · next control =>
      have notHigh : isHighSurrogate c.toNat = false := by
        simp only [isHighSurrogate, Bool.and_eq_false_iff, decide_eq_false_iff_not]; omega
      have notLow : isLowSurrogate c.toNat = false := by
        simp only [isLowSurrogate, Bool.and_eq_false_iff, decide_eq_false_iff_not]; omega
      rw [join?.eq_def]
      simp [notHigh, notLow, ih, Char.ofNat_toNat]
    · simp [join?, ih]

theorem readString_quoted (s : String) (rest : List Symbol) :
    readString (symbolsOf (s.toList.flatMap escaped) ++ some '"' :: rest) =
      some (some s, rest) := by
  simp [readString, readPieces_written, join?_pieceOf]

/-! ## Numbers -/

/-- What follows a number inside a document: the end, a comma, or a closing bracket or brace. -/
def Follows (rest : List Symbol) : Prop :=
  ∀ s ∈ rest.head?, s = some ',' ∨ s = some ']' ∨ s = some '\x7d'

theorem follows_cons {c : Char} {rest : List Symbol}
    (closing : c = ',' ∨ c = ']' ∨ c = '\x7d') : Follows (some c :: rest) := by
  intro s first
  cases first
  simpa using closing

theorem spanDigitSymbols_follows {rest : List Symbol} (follows : Follows rest) :
    spanDigitSymbols rest = ([], rest) := by
  cases rest with
  | nil => rfl
  | cons s rest =>
    rcases follows s rfl with rfl | rfl | rfl <;> rfl

theorem spanDigitSymbols_digits (ds : List Digit) {rest : List Symbol} (follows : Follows rest) :
    spanDigitSymbols (symbolsOf (digitChars ds) ++ rest) = (ds, rest) := by
  induction ds with
  | nil => exact spanDigitSymbols_follows follows
  | cons d ds ih =>
    simp only [digitChars, List.map_cons, symbolsOf_cons, List.cons_append] at ih ⊢
    simp only [spanDigitSymbols, Digit.ofChar?_toChar]
    rw [ih]

/-- A number of more than one digit does not begin with a zero. -/
theorem digits_head_ne_zero {n : Nat} {d e : Digit} {ds : List Digit}
    (same : digits n = d :: e :: ds) : d.val ≠ 0 := by
  induction n using Nat.strong_induction_on generalizing d e ds with
  | _ n ih =>
    rw [digits] at same
    split at same
    · simp at same
    · next large =>
      cases shorter : digits (n / 10) with
      | nil => exact absurd shorter (digits_ne_nil _)
      | cons first others =>
        rw [shorter, List.cons_append, List.cons.injEq] at same
        obtain ⟨rfl, same⟩ := same
        cases others with
        | cons second others => exact ih (n / 10) (by omega) shorter
        | nil =>
          have whole := value_digits (n / 10)
          rw [shorter] at whole
          simp only [value, List.foldl_cons, List.foldl_nil] at whole
          omega

theorem readWhole_digits (n : Nat) {rest : List Symbol} (follows : Follows rest) :
    readWhole (symbolsOf (digitChars (digits n)) ++ rest) = some (digits n, rest) := by
  rw [readWhole, spanDigitSymbols_digits _ follows]
  have nonempty := digits_ne_nil n
  cases same : digits n with
  | nil => exact absurd same nonempty
  | cons d ds =>
    cases ds with
    | nil => rfl
    | cons e ds =>
      have nonzero := digits_head_ne_zero same
      simp [nonzero]

theorem readFraction_follows {rest : List Symbol} (follows : Follows rest) :
    readFraction rest = some ([], rest) := by
  cases rest with
  | nil => rfl
  | cons s rest => rcases follows s rfl with rfl | rfl | rfl <;> rfl

theorem readExponent_follows {rest : List Symbol} (follows : Follows rest) :
    readExponent rest = some (none, rest) := by
  cases rest with
  | nil => rfl
  | cons s rest => rcases follows s rfl with rfl | rfl | rfl <;> rfl

theorem print_ofNat (n : Nat) : (Numeral.ofNat n).print = digitChars (digits n) := by
  simp [Numeral.print, Numeral.ofNat]

theorem readNumeral_digits (n : Nat) {rest : List Symbol} (follows : Follows rest) :
    readNumeral (symbolsOf (digitChars (digits n)) ++ rest) = some (Numeral.ofNat n, rest) := by
  have magnitude : readMagnitude false (symbolsOf (digitChars (digits n)) ++ rest) =
      some (Numeral.ofNat n, rest) := by
    simp [readMagnitude, readWhole_digits n follows, readFraction_follows follows,
      readExponent_follows follows, Numeral.ofNat]
  have nonempty := digits_ne_nil n
  cases same : digits n with
  | nil => exact absurd same nonempty
  | cons d ds =>
    rw [same] at magnitude
    simp only [digitChars, List.map_cons, symbolsOf_cons, List.cons_append] at magnitude ⊢
    unfold readNumeral
    split
    · next first =>
      exact absurd (Option.some.inj (List.cons.inj first).1) (toChar_ne_minus d)
    · exact magnitude

/-! ## Values -/

theorem skipSeparators_cons {c : Char} {s : List Symbol} (seen : isSeparator (some c) = false) :
    skipSeparators (some c :: s) = some c :: s := by
  simp [skipSeparators, seen]

/-- A value that begins with a digit is a number. -/
theorem readValue_digit (fuel : Nat) (d : Digit) (s : List Symbol) :
    readValue (fuel + 1) (some d.toChar :: s) =
      (readNumeral (some d.toChar :: s)).map fun (n, rest) => (.number n, rest) := by
  obtain ⟨n, small⟩ := d
  interval_cases n <;> rfl

theorem readValue_quote (fuel : Nat) (s : List Symbol) :
    readValue (fuel + 1) (some '"' :: s) =
      (readString s).map fun (text, rest) => (.string text, rest) := rfl

/-- An array of which the first value does not begin with a blank or a closing bracket. -/
theorem readValue_items (fuel : Nat) {c : Char} {s : List Symbol}
    (seen : isSeparator (some c) = false) (filled : c ≠ ']') :
    readValue (fuel + 1) (some '[' :: some c :: s) =
      (readItems fuel (some c :: s)).map fun (items, rest) => (.array items, rest) := by
  rw [readValue, skipSeparators_cons (by decide)]
  simp only [skipSeparators_cons seen]
  split
  · next rest same => exact absurd (Option.some.inj (List.cons.inj same).1) filled
  · rfl

/-- An object of which the first member begins with its name. -/
theorem readValue_members (fuel : Nat) (s : List Symbol) :
    readValue (fuel + 1) (some '\x7b' :: some '"' :: s) =
      (readMembers fuel (some '"' :: s)).map fun (members, rest) => (.object members, rest) := rfl

mutual

/-- A document of texts, truth values and natural numbers. -/
def IsPlain : Json → Prop
  | .null => True
  | .bool _ => True
  | .number n => ∃ k, n = .ofNat k
  | .string s => s.isSome
  | .array items => ArePlain items
  | .object members => MembersPlain members

def ArePlain : List Json → Prop
  | [] => True
  | item :: items => IsPlain item ∧ ArePlain items

def MembersPlain : List (Option String × Json) → Prop
  | [] => True
  | (name, value) :: members => name.isSome ∧ IsPlain value ∧ MembersPlain members

end

/-- The text of a document begins with a character that is neither blank nor a closing bracket. -/
theorem print_head (j : Json) (plain : IsPlain j) :
    ∃ c cs, print j = c :: cs ∧ isSeparator (some c) = false ∧ c ≠ ']' := by
  cases j with
  | null => exact ⟨_, _, rfl, by decide, by decide⟩
  | bool b => cases b <;> exact ⟨_, _, rfl, by decide, by decide⟩
  | number n =>
    obtain ⟨k, rfl⟩ := plain
    have nonempty := digits_ne_nil k
    rw [print, print_ofNat]
    cases same : digits k with
    | nil => exact absurd same nonempty
    | cons d ds =>
      have shape : ∀ d : Digit, isSeparator (some d.toChar) = false ∧ d.toChar ≠ ']' := by decide
      exact ⟨d.toChar, digitChars ds, rfl, shape d⟩
  | string s => exact ⟨'"', _, rfl, by decide, by decide⟩
  | array items => exact ⟨'[', _, rfl, by decide, by decide⟩
  | object members => exact ⟨'\x7b', _, rfl, by decide, by decide⟩

theorem symbolsOf_quoted (s : String) (rest : List Symbol) :
    symbolsOf (quoted s) ++ rest =
      some '"' :: (symbolsOf (s.toList.flatMap escaped) ++ some '"' :: rest) := by
  simp [quoted]

mutual

/-- A document is read back from its text, whatever may follow a value. -/
theorem readValue_print (j : Json) (plain : IsPlain j) (fuel : Nat) (rest : List Symbol)
    (enough : (print j).length ≤ fuel) (follows : Follows rest) :
    readValue fuel (symbolsOf (print j) ++ rest) = some (j, rest) := by
  obtain ⟨_, _, nonempty, -, -⟩ := print_head j plain
  cases fuel with
  | zero => simp [nonempty] at enough
  | succ fuel =>
    cases j with
    | null => rfl
    | bool b => cases b <;> rfl
    | number n =>
      obtain ⟨k, rfl⟩ := plain
      have read := readNumeral_digits k follows
      rw [print, print_ofNat]
      have nonempty := digits_ne_nil k
      cases same : digits k with
      | nil => exact absurd same nonempty
      | cons d ds =>
        rw [same] at read
        simp only [digitChars, List.map_cons, symbolsOf_cons, List.cons_append] at read ⊢
        rw [readValue_digit, read]
        rfl
    | string s =>
      obtain ⟨s, rfl⟩ := Option.isSome_iff_exists.1 plain
      rw [print, quoted?, Option.getD_some, symbolsOf_quoted, readValue_quote, readString_quoted]
      rfl
    | array items =>
      cases items with
      | nil => rfl
      | cons item items =>
        have read := readItems_print item items plain.1 plain.2 fuel rest
          (by simp [print] at enough; omega)
        obtain ⟨c, cs, first, seen, filled⟩ := print_head item plain.1
        obtain ⟨ds, text⟩ : ∃ ds, printItems (item :: items) = c :: ds := by
          cases items <;> simp [printItems, first]
        rw [text] at read
        simp only [print, text, symbolsOf_cons, symbolsOf_append, symbolsOf_nil, List.cons_append,
          List.append_assoc, List.nil_append] at read ⊢
        rw [readValue_items fuel seen filled, read]
        rfl
    | object members =>
      cases members with
      | nil => rfl
      | cons member members =>
        obtain ⟨name, value⟩ := member
        have read := readMembers_print name value members plain.1 plain.2.1 plain.2.2 fuel rest
          (by simp [print] at enough; omega)
        obtain ⟨ds, text⟩ : ∃ ds, printMembers ((name, value) :: members) = '"' :: ds := by
          cases members <;> simp [printMembers, quoted?, quoted]
        rw [text] at read
        simp only [print, text, symbolsOf_cons, symbolsOf_append, symbolsOf_nil, List.cons_append,
          List.append_assoc, List.nil_append] at read ⊢
        rw [readValue_members, read]
        rfl
termination_by fuel

theorem readItems_print (item : Json) (items : List Json) (plain : IsPlain item)
    (others : ArePlain items) (fuel : Nat) (rest : List Symbol)
    (enough : (printItems (item :: items)).length < fuel) :
    readItems fuel (symbolsOf (printItems (item :: items)) ++ some ']' :: rest) =
      some (item :: items, rest) := by
  cases fuel with
  | zero => omega
  | succ fuel =>
    cases items with
    | nil =>
      have read := readValue_print item plain fuel (some ']' :: rest)
        (by simp [printItems] at enough; omega) (follows_cons (by decide))
      rw [printItems, readItems]
      simp only [read, skipSeparators_cons (by decide : isSeparator (some ']') = false)]
    | cons next items =>
      have lengths : (print item).length + (printItems (next :: items)).length + 1 < fuel + 1 := by
        simp [printItems] at enough ⊢; omega
      have read := readValue_print item plain fuel
        (some ',' :: (symbolsOf (printItems (next :: items)) ++ some ']' :: rest))
        (by omega) (follows_cons (by decide))
      have tail := readItems_print next items others.1 others.2 fuel rest
        (by obtain ⟨_, _, first, -, -⟩ := print_head item plain; simp [first] at lengths; omega)
      have text : printItems (item :: next :: items) =
          print item ++ ',' :: printItems (next :: items) := rfl
      rw [text, symbolsOf_append, symbolsOf_cons, List.append_assoc, List.cons_append, readItems]
      simp only [read, skipSeparators_cons (by decide : isSeparator (some ',') = false), tail,
        Option.map_some]
termination_by fuel

theorem readMembers_print (name : Option String) (value : Json)
    (members : List (Option String × Json)) (named : name.isSome) (plain : IsPlain value)
    (others : MembersPlain members) (fuel : Nat) (rest : List Symbol)
    (enough : (printMembers ((name, value) :: members)).length < fuel) :
    readMembers fuel (symbolsOf (printMembers ((name, value) :: members)) ++ some '\x7d' :: rest) =
      some ((name, value) :: members, rest) := by
  obtain ⟨name, rfl⟩ := Option.isSome_iff_exists.1 named
  have quote : isSeparator (some '"') = false := by decide
  have colon : isSeparator (some ':') = false := by decide
  cases fuel with
  | zero => omega
  | succ fuel =>
    cases members with
    | nil =>
      have text : printMembers [(some name, value)] = quoted name ++ ':' :: print value := rfl
      have read := readValue_print value plain fuel (some '\x7d' :: rest)
        (by simp [text] at enough; omega) (follows_cons (by decide))
      rw [text, symbolsOf_append, symbolsOf_cons, List.append_assoc, List.cons_append,
        symbolsOf_quoted, readMembers]
      simp only [skipSeparators_cons quote, readString_quoted, skipSeparators_cons colon, read,
        skipSeparators_cons (by decide : isSeparator (some '\x7d') = false)]
    | cons next members =>
      obtain ⟨nextName, nextValue⟩ := next
      have text : printMembers ((some name, value) :: (nextName, nextValue) :: members) =
          quoted name ++ ':' :: print value ++
            ',' :: printMembers ((nextName, nextValue) :: members) := rfl
      have read := readValue_print value plain fuel
        (some ',' :: (symbolsOf (printMembers ((nextName, nextValue) :: members)) ++
          some '\x7d' :: rest))
        (by simp [text] at enough; omega) (follows_cons (by decide))
      have tail := readMembers_print nextName nextValue members others.1 others.2.1 others.2.2 fuel
        rest (by simp [text] at enough; omega)
      rw [text, symbolsOf_append, symbolsOf_append, symbolsOf_cons, symbolsOf_cons,
        List.append_assoc, List.append_assoc, List.cons_append, List.cons_append,
        symbolsOf_quoted, readMembers]
      simp only [skipSeparators_cons quote, readString_quoted, skipSeparators_cons colon, read,
        skipSeparators_cons (by decide : isSeparator (some ',') = false), tail, Option.map_some]
termination_by fuel

end

/-! ## Documents as bytes -/

/-- A document is read back from its bytes. -/
theorem ofBytes?_compact {j : Json} (plain : IsPlain j) :
    ofBytes? (utf8 j.compact) = some j := by
  have read := readValue_print j plain (2 * (symbolsOf (print j)).length + 1) []
    (by simp only [symbolsOf, List.length_map]; omega) (by intro s first; cases first)
  rw [List.append_nil] at read
  rw [ofBytes?, symbols_utf8, compact, String.toList_ofList, ofSymbols?]
  simp only [symbolsOf] at read
  rw [read]
  rfl

end Steward.Json
