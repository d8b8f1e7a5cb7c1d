import HeapReplay.Text.Line
import Mathlib.Data.List.Basic

namespace HeapReplay.Text

variable {bytes : List UInt8} {text : String}

/-- Writes a text as UTF-8. -/
def encode (text : String) : List UInt8 := text.toUTF8.data.toList

theorem encode_eq_flatMap (text : String) :
    encode text = text.toList.flatMap String.utf8EncodeChar := by
  rw [encode, String.toUTF8_eq_toByteArray, ← String.utf8Encode_toList, List.utf8Encode,
    List.toList_data_toByteArray]

theorem decode?_eq_some : decode? bytes = some text ↔ bytes = encode text := by
  have hencode : (⟨(encode text).toArray⟩ : ByteArray) = text.toByteArray := rfl
  unfold decode? String.fromUTF8?
  constructor
  · split
    · rintro ⟨⟩
      rfl
    · exact nofun
  · rintro rfl
    rw [hencode, dif_pos text.isValidUTF8]
    rfl

/-- A byte below 128 stands for a character of its own. -/
theorem toNat_eq_of_mem_utf8EncodeChar {c : Char} {byte : UInt8} (hlow : byte.toNat < 128)
    (hmem : byte ∈ String.utf8EncodeChar c) : c.toNat = byte.toNat := by
  have hhigh {n : Nat} (hle : 128 ≤ n) (hlt : n < 256) : byte ≠ UInt8.ofNat n := by
    rintro rfl
    rw [UInt8.toNat_ofNat', Nat.mod_eq_of_lt hlt] at hlow
    omega
  simp only [String.utf8EncodeChar] at hmem
  -- The bytes of a character that takes several of them are all at least 128.
  split at hmem
  · next hone =>
    rw [List.mem_singleton.1 hmem, UInt8.toNat_ofNat', Nat.mod_eq_of_lt (by omega)]
    rfl
  · split at hmem
    · simp only [List.mem_cons, List.not_mem_nil, or_false] at hmem
      rcases hmem with h | h <;> exact absurd h (hhigh (by omega) (by omega))
    · split at hmem
      · simp only [List.mem_cons, List.not_mem_nil, or_false] at hmem
        rcases hmem with h | h | h <;> exact absurd h (hhigh (by omega) (by omega))
      · simp only [List.mem_cons, List.not_mem_nil, or_false] at hmem
        rcases hmem with h | h | h | h <;> exact absurd h (hhigh (by omega) (by omega))

theorem feed_not_mem_encode (htext : '\n' ∉ text.toList) : 10 ∉ encode text := by
  rw [encode_eq_flatMap]
  intro hmem
  obtain ⟨c, hc, hbyte⟩ := List.mem_flatMap.1 hmem
  obtain rfl : c = '\n' := Char.toNat_inj.1 (toNat_eq_of_mem_utf8EncodeChar (by decide) hbyte)
  exact htext hc

theorem encode_push (text : String) : encode (text.push '\r') = encode text ++ [13] := by
  rw [encode_eq_flatMap, encode_eq_flatMap, String.toList_push, List.flatMap_append]
  rfl

/-- The last byte of a text is below 128 only as the last character. -/
theorem exists_encode_of_concat_return (h : encode text = bytes ++ [13]) :
    ∃ front : String, encode front = bytes := by
  rw [encode_eq_flatMap] at h
  rcases List.eq_nil_or_concat' text.toList with hnil | ⟨before, c, hlast⟩
  · simp [hnil] at h
  · obtain ⟨front, last, hchar⟩ :=
      (List.eq_nil_or_concat' _).resolve_left (String.utf8EncodeChar_ne_nil (c := c))
    rw [hlast, List.flatMap_append, List.flatMap_singleton, hchar, ← List.append_assoc] at h
    obtain ⟨hbytes, rfl⟩ := List.append_singleton_inj.1 h
    have hreturn : 13 ∈ String.utf8EncodeChar c := by simp [hchar]
    obtain rfl : c = '\r' := Char.toNat_inj.1 (toNat_eq_of_mem_utf8EncodeChar (by decide) hreturn)
    obtain ⟨rfl, -⟩ := List.append_singleton_inj.1 (hchar.symm.trans (List.nil_append [13]).symm)
    refine ⟨.ofList before, ?_⟩
    rw [encode_eq_flatMap, String.toList_ofList, ← hbytes, List.append_nil]

/-- A carriage return at the end of bytes is one at the end of their text. -/
theorem decode?_concat_return (bytes : List UInt8) :
    decode? (bytes ++ [13]) = (decode? bytes).map (·.push '\r') := by
  cases htext : decode? bytes with
  | some text =>
    rw [decode?_eq_some] at htext
    rw [Option.map_some, decode?_eq_some, encode_push, htext]
  | none =>
    rw [Option.map_none, Option.eq_none_iff_forall_ne_some]
    intro text hlonger
    obtain ⟨front, hfront⟩ := exists_encode_of_concat_return (decode?_eq_some.1 hlonger).symm
    cases htext.symm.trans (decode?_eq_some.2 hfront.symm)

end HeapReplay.Text
