/-! UTF-8 bytes read without refusing any: bytes that begin no character, and a character cut short,
each become one replacement character, and reading goes on at the first byte that did not fit. -/
namespace HeaderOutline.Text

def replacement : Char := '\ufffd'

/-- What a first byte announces: its own bits, then the range the next byte must lie in and how many
bytes from 0x80 to 0xBF come after that one. The narrowed ranges keep out long forms, surrogates and
numbers above 0x10FFFF. -/
structure Lead where
  bits : Nat
  low : Nat
  high : Nat
  more : Nat
  deriving DecidableEq, Repr

def lead? (byte : UInt8) : Option Lead :=
  let b := byte.toNat
  if 0xC2 ≤ b ∧ b ≤ 0xDF then some ⟨b - 0xC0, 0x80, 0xBF, 0⟩
  else if b = 0xE0 then some ⟨0, 0xA0, 0xBF, 1⟩
  else if b = 0xED then some ⟨0xD, 0x80, 0x9F, 1⟩
  else if 0xE1 ≤ b ∧ b ≤ 0xEF then some ⟨b - 0xE0, 0x80, 0xBF, 1⟩
  else if b = 0xF0 then some ⟨0, 0x90, 0xBF, 2⟩
  else if 0xF1 ≤ b ∧ b ≤ 0xF3 then some ⟨b - 0xF0, 0x80, 0xBF, 2⟩
  else if b = 0xF4 then some ⟨4, 0x80, 0x8F, 2⟩
  else none

def decodeFrom : Option Lead → List UInt8 → List Char
  | none, [] => []
  | some _, [] => [replacement]
  | none, byte :: rest =>
      if byte < 0x80 then Char.ofNat byte.toNat :: decodeFrom none rest
      else match lead? byte with
        | none => replacement :: decodeFrom none rest
        | some lead => decodeFrom (some lead) rest
  | some lead, byte :: rest =>
      if lead.low ≤ byte.toNat ∧ byte.toNat ≤ lead.high then
        let bits := lead.bits * 64 + (byte.toNat - 0x80)
        match lead.more with
        | 0 => Char.ofNat bits :: decodeFrom none rest
        | more + 1 => decodeFrom (some ⟨bits, 0x80, 0xBF, more⟩) rest
      else if byte < 0x80 then replacement :: Char.ofNat byte.toNat :: decodeFrom none rest
      else match lead? byte with
        | none => replacement :: replacement :: decodeFrom none rest
        | some next => replacement :: decodeFrom (some next) rest

def decodeLossy (bytes : List UInt8) : String := String.ofList (decodeFrom none bytes)

def utf8 (s : String) : List UInt8 := s.toByteArray.data.toList

theorem utf8Append (s t : String) : utf8 (s ++ t) = utf8 s ++ utf8 t := by simp [utf8]

end HeaderOutline.Text
