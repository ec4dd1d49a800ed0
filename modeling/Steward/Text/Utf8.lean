/-!
# Bytes as text

Bytes as a sequence of symbols, where a symbol is a character or a byte that is no part of one.
Bytes that are a text as a whole are read as its characters; any other bytes are read as far as
possible.
-/

namespace Steward.Text

/-- A character, or `none` for a byte that belongs to no character. -/
abbrev Symbol := Option Char

/-- The length of the encoding that a first byte announces. -/
def announcedLength (lead : UInt8) : Nat :=
  if lead < 0x80 then 1 else if lead < 0xE0 then 2 else if lead < 0xF0 then 3 else 4

/-- The character whose encoding is exactly the given bytes. -/
def charOfBytes? (bytes : List UInt8) : Option Char :=
  (String.fromUTF8? ⟨bytes.toArray⟩).bind fun s => match s.toList with
    | [c] => some c
    | _ => none

/-- Reads symbols one at a time; `skip` bytes are left of the character read last. -/
def scanSymbols (skip : Nat) : List UInt8 → List Symbol
  | [] => []
  | byte :: bytes => match skip with
    | skip + 1 => scanSymbols skip bytes
    | 0 =>
      let length := announcedLength byte
      match charOfBytes? (byte :: bytes.take (length - 1)) with
      | some c => some c :: scanSymbols (length - 1) bytes
      | none => none :: scanSymbols 0 bytes

def symbols (bytes : ByteArray) : List Symbol :=
  match String.fromUTF8? bytes with
  | some s => s.toList.map some
  | none => scanSymbols 0 bytes.toList

def utf8 (s : String) : ByteArray :=
  s.toUTF8

/-- The symbols of the bytes of a text are its characters. -/
theorem symbols_utf8 (s : String) : symbols (utf8 s) = s.toList.map some := by
  have valid : s.toByteArray.IsValidUTF8 := s.isValidUTF8
  simp [symbols, utf8, String.fromUTF8?, String.fromUTF8, valid]

end Steward.Text
