import EntityLog.Text.Utf8
import EntityLog.Proofs.Results

namespace EntityLog.Text.Utf8

theorem toList_loop (bytes : ByteArray) (i : Nat) (done : List UInt8) :
    ByteArray.toList.loop bytes i done = done.reverse ++ bytes.data.toList.drop i := by
  fun_induction ByteArray.toList.loop bytes i done with
  | case1 i done inside ih =>
    have bound : i < bytes.data.toList.length := inside
    have same : bytes.get! i = bytes.data.toList[i] := by
      rw [Array.getElem_toList]
      exact getElem!_pos bytes.data i inside
    rw [ih, List.drop_eq_getElem_cons bound, same, List.reverse_cons, List.append_assoc]
    rfl
  | case2 i done outside =>
    rw [List.drop_eq_nil_of_le (Nat.le_of_not_lt outside), List.append_nil]

theorem encode_ofList (chars : List Char) :
    encode (String.ofList chars) = chars.flatMap String.utf8EncodeChar := by
  rw [encode, String.toUTF8_eq_toByteArray, String.toByteArray_ofList, ByteArray.toList, toList_loop,
    List.utf8Encode, List.toList_data_toByteArray]
  rfl

theorem toNat_ofNat_char (code : Nat) (valid : code.isValidChar) :
    (Char.ofNat code).val.toNat = code := by
  rw [Char.ofNat, dif_pos valid]
  exact UInt32.toNat_ofNatLT ..

theorem ofNat_eq_byte {n : Nat} {b : UInt8} (same : n = b.toNat) : UInt8.ofNat n = b :=
  same ▸ UInt8.ofNat_toNat

def Continues (b : UInt8) : Prop := 0x80 ≤ b.toNat ∧ b.toNat ≤ 0xBF

section

variable {a b c d : UInt8} {code : Nat}

theorem encode_one (short : a.toNat < 0x80) : String.utf8EncodeChar (Char.ofNat a.toNat) = [a] := by
  have is := toNat_ofNat_char a.toNat (.inl (by omega))
  rw [String.utf8EncodeChar, is, if_pos (by omega), ofNat_eq_byte rfl]

theorem encode_two (lead : 0xC2 ≤ a.toNat ∧ a.toNat ≤ 0xDF) (second : Continues b)
    (is : code = (a.toNat - 0xC0) * 64 + (b.toNat - 0x80)) :
    String.utf8EncodeChar (Char.ofNat code) = [a, b] := by
  obtain ⟨low, high⟩ := second
  have same := toNat_ofNat_char code (.inl (by omega))
  rw [String.utf8EncodeChar, same, if_neg (by omega), if_pos (by omega),
    ofNat_eq_byte (b := a) (by omega), ofNat_eq_byte (b := b) (by omega)]

theorem encode_three (lead : 0xE0 ≤ a.toNat ∧ a.toNat ≤ 0xEF) (second : Continues b)
    (third : Continues c)
    (is : code = ((a.toNat - 0xE0) * 64 + (b.toNat - 0x80)) * 64 + (c.toNat - 0x80))
    (long : 0x800 ≤ code) (valid : code < 0xD800 ∨ 0xDFFF < code) :
    String.utf8EncodeChar (Char.ofNat code) = [a, b, c] := by
  obtain ⟨lowb, highb⟩ := second
  obtain ⟨lowc, highc⟩ := third
  have same := toNat_ofNat_char code (valid.imp_right fun h => ⟨h, by omega⟩)
  rw [String.utf8EncodeChar, same, if_neg (by omega), if_neg (by omega), if_pos (by omega),
    ofNat_eq_byte (b := a) (by omega), ofNat_eq_byte (b := b) (by omega),
    ofNat_eq_byte (b := c) (by omega)]

theorem encode_four (lead : 0xF0 ≤ a.toNat ∧ a.toNat ≤ 0xF4) (second : Continues b)
    (third : Continues c) (fourth : Continues d)
    (is : code = (((a.toNat - 0xF0) * 64 + (b.toNat - 0x80)) * 64 + (c.toNat - 0x80)) * 64 +
      (d.toNat - 0x80))
    (long : 0x10000 ≤ code) (valid : code < 0x110000) :
    String.utf8EncodeChar (Char.ofNat code) = [a, b, c, d] := by
  obtain ⟨lowb, highb⟩ := second
  obtain ⟨lowc, highc⟩ := third
  obtain ⟨lowd, highd⟩ := fourth
  have same := toNat_ofNat_char code (.inr ⟨by omega, valid⟩)
  rw [String.utf8EncodeChar, same, if_neg (by omega), if_neg (by omega), if_neg (by omega),
    ofNat_eq_byte (b := a) (by omega), ofNat_eq_byte (b := b) (by omega),
    ofNat_eq_byte (b := c) (by omega), ofNat_eq_byte (b := d) (by omega)]

end

def Takes (bytes : List UInt8) (chars : List Char) : Prop :=
  ∃ char later own rest next, chars = char :: later ∧ bytes = own ++ rest ∧ own ≠ [] ∧
    String.utf8EncodeChar char = own ∧ decodeFrom next none rest = .ok later

section

variable {index : Nat} {p : Pending} {bytes : List UInt8} {chars : List Char}

theorem decodeFrom_last (h : decodeFrom index (some p) bytes = .ok chars) (last : p.owed = 1) :
    ∃ b rest later, bytes = b :: rest ∧ (p.low ≤ b.toNat ∧ b.toNat ≤ p.high) ∧
      chars = Char.ofNat (p.code * 64 + (b.toNat - 0x80)) :: later ∧
      decodeFrom (index + p.read + 1) none rest = .ok later := by
  cases bytes with
  | nil => cases h
  | cons b rest =>
    rw [decodeFrom] at h
    split at h
    case isTrue bounds =>
      obtain ⟨later, read, is⟩ := map_eq_ok.1 h
      exact ⟨b, rest, later, rfl, bounds, is.symm, read⟩
    case isFalse => cases h

theorem decodeFrom_more (h : decodeFrom index (some p) bytes = .ok chars) (more : p.owed ≠ 1) :
    ∃ b rest, bytes = b :: rest ∧ (p.low ≤ b.toNat ∧ b.toNat ≤ p.high) ∧
      decodeFrom index
        (some ⟨p.code * 64 + (b.toNat - 0x80), p.read + 1, p.owed - 1, 0x80, 0xBF⟩) rest =
        .ok chars := by
  cases bytes with
  | nil => cases h
  | cons b rest =>
    rw [decodeFrom] at h
    split at h
    case isTrue bounds =>
      exact ⟨b, rest, rfl, bounds, h⟩
    case isFalse => cases h

theorem takes_two {a : UInt8} (h : decodeFrom index (some ⟨a.toNat - 0xC0, 1, 1, 0x80, 0xBF⟩) bytes =
    .ok chars) (lead : 0xC2 ≤ a.toNat ∧ a.toNat ≤ 0xDF) : Takes (a :: bytes) chars := by
  obtain ⟨b, rest, later, rfl, second, rfl, read⟩ := decodeFrom_last h rfl
  exact ⟨_, later, [a, b], rest, _, rfl, rfl, List.cons_ne_nil _ _, encode_two lead second rfl, read⟩

theorem takes_three {a : UInt8} {low high : Nat}
    (h : decodeFrom index (some ⟨a.toNat - 0xE0, 1, 2, low, high⟩) bytes = .ok chars)
    (lead : 0xE0 ≤ a.toNat ∧ a.toNat ≤ 0xEF) (continues : 0x80 ≤ low ∧ high ≤ 0xBF)
    (long : a.toNat = 0xE0 → 0xA0 ≤ low) (valid : a.toNat = 0xED → high ≤ 0x9F) :
    Takes (a :: bytes) chars := by
  obtain ⟨b, tail, rfl, ⟨above, below⟩, h⟩ := decodeFrom_more h (by simp)
  obtain ⟨c, rest, later, rfl, third, rfl, read⟩ := decodeFrom_last h rfl
  dsimp only at above below third
  refine ⟨_, later, [a, b, c], rest, _, rfl, rfl, List.cons_ne_nil _ _, ?_, read⟩
  exact encode_three lead ⟨by omega, by omega⟩ third rfl (by dsimp only; omega) (by dsimp only; omega)

theorem takes_four {a : UInt8} {low high : Nat}
    (h : decodeFrom index (some ⟨a.toNat - 0xF0, 1, 3, low, high⟩) bytes = .ok chars)
    (lead : 0xF0 ≤ a.toNat ∧ a.toNat ≤ 0xF4) (continues : 0x80 ≤ low ∧ high ≤ 0xBF)
    (long : a.toNat = 0xF0 → 0x90 ≤ low) (valid : a.toNat = 0xF4 → high ≤ 0x8F) :
    Takes (a :: bytes) chars := by
  obtain ⟨b, tail, rfl, ⟨above, below⟩, h⟩ := decodeFrom_more h (by simp)
  obtain ⟨c, tail, rfl, third, h⟩ := decodeFrom_more h (by simp)
  obtain ⟨d, rest, later, rfl, fourth, rfl, read⟩ := decodeFrom_last h rfl
  dsimp only at above below third fourth
  obtain ⟨lowc, highc⟩ := third
  obtain ⟨lowd, highd⟩ := fourth
  refine ⟨_, later, [a, b, c, d], rest, _, rfl, rfl, List.cons_ne_nil _ _, ?_, read⟩
  exact encode_four lead ⟨by omega, by omega⟩ ⟨lowc, highc⟩ ⟨lowd, highd⟩ rfl
    (by dsimp only; omega) (by dsimp only; omega)

theorem takes_cons {a : UInt8} (h : decodeFrom index none (a :: bytes) = .ok chars) :
    Takes (a :: bytes) chars := by
  rw [decodeFrom] at h
  split at h
  case isTrue short =>
    obtain ⟨later, read, rfl⟩ := map_eq_ok.1 h
    exact ⟨_, later, [a], bytes, _, rfl, rfl, List.cons_ne_nil _ _, encode_one short, read⟩
  case isFalse =>
    unfold lead at h
    -- E0 and F0 have no short forms behind them, ED no surrogates, and F4 nothing past the last one.
    by_cases two : 0xC2 ≤ a.toNat ∧ a.toNat ≤ 0xDF
    · rw [if_pos two] at h
      exact takes_two h two
    rw [if_neg two] at h
    by_cases e0 : a.toNat = 0xE0
    · rw [if_pos e0, show (0 : Nat) = a.toNat - 0xE0 by omega] at h
      exact takes_three h (by omega) (by omega) (by omega) (by omega)
    rw [if_neg e0] at h
    by_cases ed : a.toNat = 0xED
    · rw [if_pos ed, show 0xD = a.toNat - 0xE0 by omega] at h
      exact takes_three h (by omega) (by omega) (by omega) (by omega)
    rw [if_neg ed] at h
    by_cases three : 0xE1 ≤ a.toNat ∧ a.toNat ≤ 0xEF
    · rw [if_pos three] at h
      exact takes_three h (by omega) (by omega) (by omega) (by omega)
    rw [if_neg three] at h
    by_cases f0 : a.toNat = 0xF0
    · rw [if_pos f0, show (0 : Nat) = a.toNat - 0xF0 by omega] at h
      exact takes_four h (by omega) (by omega) (by omega) (by omega)
    rw [if_neg f0] at h
    by_cases four : 0xF1 ≤ a.toNat ∧ a.toNat ≤ 0xF3
    · rw [if_pos four] at h
      exact takes_four h (by omega) (by omega) (by omega) (by omega)
    rw [if_neg four] at h
    by_cases f4 : a.toNat = 0xF4
    · rw [if_pos f4, show 4 = a.toNat - 0xF0 by omega] at h
      exact takes_four h (by omega) (by omega) (by omega) (by omega)
    rw [if_neg f4] at h
    cases h

end

theorem flatMap_of_decodeFrom {index : Nat} {bytes : List UInt8} {chars : List Char}
    (h : decodeFrom index none bytes = .ok chars) :
    chars.flatMap String.utf8EncodeChar = bytes := by
  cases bytes with
  | nil =>
    cases h
    rfl
  | cons b rest =>
    obtain ⟨char, later, own, tail, next, rfl, split, some, same, read⟩ := takes_cons h
    have shorter : tail.length < (b :: rest).length := by
      rw [split, List.length_append]
      exact Nat.lt_add_of_pos_left (List.length_pos_iff.2 some)
    rw [List.flatMap_cons, same, flatMap_of_decodeFrom read, split]
termination_by bytes.length

theorem encode_of_decode {bytes : List UInt8} {text : String} (h : decode bytes = .ok text) :
    encode text = bytes := by
  obtain ⟨chars, read, rfl⟩ := map_eq_ok.1 h
  rw [encode_ofList, flatMap_of_decodeFrom read]

end EntityLog.Text.Utf8
