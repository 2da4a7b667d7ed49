namespace EntityLog.Text.Utf8

/-- Why bytes are not text: at `index` stands a sequence that no continuation can mend (of
`length` bytes), or the bytes end inside a sequence (no length). -/
structure Malformed where
  index : Nat
  length : Option Nat
  deriving DecidableEq

def Malformed.message : Malformed → String
  | ⟨index, some length⟩ =>
    "invalid utf-8 sequence of " ++ toString length ++ " bytes from index " ++ toString index
  | ⟨index, none⟩ => "incomplete utf-8 byte sequence from index " ++ toString index

structure Pending where
  code : Nat
  read : Nat
  owed : Nat
  low : Nat
  high : Nat
  deriving DecidableEq

/-- What a first byte above 0x7F starts. The bounds of the second byte exclude overlong forms,
surrogates and codes above 0x10FFFF. -/
def lead (b : Nat) : Option Pending :=
  if 0xC2 ≤ b ∧ b ≤ 0xDF then some ⟨b - 0xC0, 1, 1, 0x80, 0xBF⟩
  else if b = 0xE0 then some ⟨0, 1, 2, 0xA0, 0xBF⟩
  else if b = 0xED then some ⟨0xD, 1, 2, 0x80, 0x9F⟩
  else if 0xE1 ≤ b ∧ b ≤ 0xEF then some ⟨b - 0xE0, 1, 2, 0x80, 0xBF⟩
  else if b = 0xF0 then some ⟨0, 1, 3, 0x90, 0xBF⟩
  else if 0xF1 ≤ b ∧ b ≤ 0xF3 then some ⟨b - 0xF0, 1, 3, 0x80, 0xBF⟩
  else if b = 0xF4 then some ⟨4, 1, 3, 0x80, 0x8F⟩
  else none

def decodeFrom (index : Nat) : Option Pending → List UInt8 → Except Malformed (List Char)
  | none, [] => .ok []
  | some _, [] => .error ⟨index, none⟩
  | none, b :: rest =>
    if b.toNat < 0x80 then (Char.ofNat b.toNat :: ·) <$> decodeFrom (index + 1) none rest
    else match lead b.toNat with
      | some pending => decodeFrom index (some pending) rest
      | none => .error ⟨index, some 1⟩
  | some p, b :: rest =>
    if p.low ≤ b.toNat ∧ b.toNat ≤ p.high then
      let code := p.code * 64 + (b.toNat - 0x80)
      if p.owed = 1 then (Char.ofNat code :: ·) <$> decodeFrom (index + p.read + 1) none rest
      else decodeFrom index (some ⟨code, p.read + 1, p.owed - 1, 0x80, 0xBF⟩) rest
    else .error ⟨index, some p.read⟩

def decode (bytes : List UInt8) : Except Malformed String :=
  String.ofList <$> decodeFrom 0 none bytes

def encode (text : String) : List UInt8 := text.toUTF8.toList

end EntityLog.Text.Utf8
