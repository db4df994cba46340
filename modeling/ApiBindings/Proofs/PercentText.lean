import ApiBindings.Text.Percent
import Mathlib.Data.List.Basic

namespace ApiBindings.Text.Percent

/-- Every `%` in the text starts an escaped byte. -/
inductive Escaped : List Char → Prop
  | nil : Escaped []
  | plain {c : Char} {rest : List Char} (hc : c ≠ '%') (h : Escaped rest) : Escaped (c :: rest)
  | byte {a b : Char} {rest : List Char} (ha : (hexValue? a).isSome) (hb : (hexValue? b).isSome)
      (h : Escaped rest) : Escaped ('%' :: a :: b :: rest)

theorem Escaped.append {cs ds : List Char} (hc : Escaped cs) (hd : Escaped ds) :
    Escaped (cs ++ ds) := by
  induction hc with
  | nil => exact hd
  | plain hc _ ih => exact .plain hc ih
  | byte ha hb _ ih => exact .byte ha hb ih

theorem decodeBytes_plain {c : Char} (hc : c ≠ '%') (rest : List Char) :
    decodeBytes (c :: rest) = String.utf8EncodeChar c ++ decodeBytes rest := by
  match rest with
  | [] => rfl
  | [_] => rfl
  | a :: b :: rest =>
    rw [decodeBytes]
    exact fun _ _ h => absurd h hc

theorem decodeBytes_byte {a b : Char} {high low : UInt8} (ha : hexValue? a = some high)
    (hb : hexValue? b = some low) (rest : List Char) :
    decodeBytes ('%' :: a :: b :: rest) = (high * 16 + low) :: decodeBytes rest := by
  simp only [decodeBytes, ha, hb]

theorem decodeBytes_append {cs : List Char} (h : Escaped cs) (rest : List Char) :
    decodeBytes (cs ++ rest) = decodeBytes cs ++ decodeBytes rest := by
  induction h with
  | nil => rfl
  | plain hc _ ih =>
    rw [List.cons_append, decodeBytes_plain hc, decodeBytes_plain hc, ih, List.append_assoc]
  | byte ha hb _ ih =>
    obtain ⟨high, ha⟩ := Option.isSome_iff_exists.mp ha
    obtain ⟨low, hb⟩ := Option.isSome_iff_exists.mp hb
    rw [List.cons_append, List.cons_append, List.cons_append, decodeBytes_byte ha hb,
      decodeBytes_byte ha hb, ih, List.cons_append]

theorem decode?_eq_some_iff {cs : List Char} {s : String} :
    decode? cs = some s ↔ decodeBytes cs = s.toList.flatMap String.utf8EncodeChar := by
  have hbytes : ByteArray.mk (decodeBytes cs).toArray = s.toByteArray ↔
      decodeBytes cs = s.toList.flatMap String.utf8EncodeChar := by
    rw [← String.utf8Encode_toList, List.utf8Encode, ← List.toByteArray_inj]
    have hdata : ByteArray.mk (decodeBytes cs).toArray = (decodeBytes cs).toByteArray := by
      apply ByteArray.ext
      rw [List.data_toByteArray]
    rw [hdata]
  rw [← hbytes, decode?, String.fromUTF8?]
  constructor
  · intro h
    split at h
    · cases h
      rfl
    · cases h
  · intro h
    have hvalid : (ByteArray.mk (decodeBytes cs).toArray).IsValidUTF8 := h ▸ s.isValidUTF8
    rw [dif_pos hvalid, Option.some_inj, ← String.toByteArray_inj]
    exact h

theorem decode?_nil : decode? [] = some "" := by
  rw [decode?_eq_some_iff]
  rfl

theorem decode?_append {cs ds : List Char} {s t : String} (h : Escaped cs)
    (hc : decode? cs = some s) (hd : decode? ds = some t) : decode? (cs ++ ds) = some (s ++ t) := by
  rw [decode?_eq_some_iff] at hc hd ⊢
  rw [decodeBytes_append h, hc, hd, String.toList_append, List.flatMap_append]

def escapeChars : List Char := "%0123456789ABCDEF".toList

theorem hexDigit_small : ∀ n < 16, hexValue? (hexDigit (UInt8.ofNat n)) = some (UInt8.ofNat n) ∧
    hexDigit (UInt8.ofNat n) ∈ escapeChars := by
  decide

theorem hexDigit_of_lt {n : UInt8} (h : n.toNat < 16) :
    hexValue? (hexDigit n) = some n ∧ hexDigit n ∈ escapeChars := by
  have hn := hexDigit_small n.toNat h
  rwa [UInt8.ofNat_toNat] at hn

theorem hexDigit_high (b : UInt8) :
    hexValue? (hexDigit (b / 16)) = some (b / 16) ∧ hexDigit (b / 16) ∈ escapeChars := by
  apply hexDigit_of_lt
  rw [UInt8.toNat_div]
  exact Nat.div_lt_of_lt_mul b.toNat_lt

theorem hexDigit_low (b : UInt8) :
    hexValue? (hexDigit (b % 16)) = some (b % 16) ∧ hexDigit (b % 16) ∈ escapeChars := by
  apply hexDigit_of_lt
  rw [UInt8.toNat_mod]
  exact Nat.mod_lt _ (by decide)

theorem escaped_flatMap_encodeByte (bs : List UInt8) : Escaped (bs.flatMap encodeByte) := by
  induction bs with
  | nil => exact .nil
  | cons b bs ih =>
    rw [List.flatMap_cons]
    exact .byte (Option.isSome_of_eq_some (hexDigit_high b).1)
      (Option.isSome_of_eq_some (hexDigit_low b).1) ih

theorem decodeBytes_flatMap_encodeByte (bs : List UInt8) :
    decodeBytes (bs.flatMap encodeByte) = bs := by
  induction bs with
  | nil => rfl
  | cons b bs ih =>
    have hb : b / 16 * 16 + b % 16 = b := by
      have := b.toNat_lt
      apply UInt8.toNat_inj.mp
      simp only [UInt8.toNat_add, UInt8.toNat_mul, UInt8.toNat_div, UInt8.toNat_mod,
        UInt8.reduceToNat]
      omega
    rw [List.flatMap_cons, encodeByte, List.cons_append, List.cons_append, List.cons_append,
      decodeBytes_byte (hexDigit_high b).1 (hexDigit_low b).1, hb, List.nil_append, ih]

section Encode

variable {select : Char → Bool}

theorem encode_cons (c : Char) (cs : List Char) :
    encode select (c :: cs) = encode select [c] ++ encode select cs := by
  simp only [encode, List.flatMap_cons, List.flatMap_nil, List.append_nil]

theorem encode_singleton (select : Char → Bool) (c : Char) :
    encode select [c] =
      if select c then (String.utf8EncodeChar c).flatMap encodeByte else [c] := by
  rw [encode, List.flatMap_singleton]

theorem escaped_encode (hs : select '%' = true) (cs : List Char) :
    Escaped (encode select cs) := by
  induction cs with
  | nil => exact .nil
  | cons c cs ih =>
    rw [encode_cons, encode_singleton]
    apply Escaped.append _ ih
    split
    · exact escaped_flatMap_encodeByte _
    · next hc =>
      -- A `%` would have been selected.
      exact .plain (fun h => hc (h ▸ hs)) .nil

theorem decode?_encode (hs : select '%' = true) (s : String) :
    decode? (encode select s.toList) = some s := by
  rw [decode?_eq_some_iff]
  induction s.toList with
  | nil => rfl
  | cons c cs ih =>
    rw [encode_cons, decodeBytes_append (escaped_encode hs [c]), ih, List.flatMap_cons]
    congr 1
    rw [encode_singleton]
    split
    · exact decodeBytes_flatMap_encodeByte _
    · next hc =>
      have hne : c ≠ '%' := fun h => hc (h ▸ hs)
      rw [decodeBytes_plain hne, decodeBytes, List.append_nil]

theorem mem_escapeChars_of_encodeByte {b : UInt8} {c : Char} (h : c ∈ encodeByte b) :
    c ∈ escapeChars := by
  simp only [encodeByte, List.mem_cons, List.not_mem_nil, or_false] at h
  rcases h with rfl | rfl | rfl
  · decide
  · exact (hexDigit_high b).2
  · exact (hexDigit_low b).2

theorem not_mem_encode {c : Char} (hs : select c = true) (hc : c ∉ escapeChars) (cs : List Char) :
    c ∉ encode select cs := by
  intro h
  obtain ⟨d, -, hd⟩ := List.mem_flatMap.mp h
  split at hd
  · obtain ⟨b, -, hb⟩ := List.mem_flatMap.mp hd
    exact hc (mem_escapeChars_of_encodeByte hb)
  · next hno =>
    rw [List.mem_singleton] at hd
    exact hno (hd ▸ hs)

end Encode

end ApiBindings.Text.Percent
