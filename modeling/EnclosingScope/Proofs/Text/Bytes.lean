import EnclosingScope.Text.Bytes

namespace EnclosingScope.Text

theorem toList_loop_eq (bytes : ByteArray) (i : Nat) (back : List UInt8) :
    ByteArray.toList.loop bytes i back = back.reverse ++ bytes.data.toList.drop i := by
  fun_induction ByteArray.toList.loop bytes i back with
  | case1 i back hi ih =>
      have hget : bytes.get! i = bytes.data.toList[i] := getElem!_pos bytes.data i hi
      rw [ih, hget, List.drop_eq_getElem_cons hi]
      simp
  | case2 i back hi =>
      rw [List.drop_of_length_le (Nat.not_lt.1 hi)]
      simp

theorem bytes_eq_flatMap (text : String) :
    bytes text = text.toList.flatMap String.utf8EncodeChar := by
  rw [bytes, ByteArray.toList, toList_loop_eq, String.toUTF8_eq_toByteArray,
    ← String.utf8Encode_toList, List.utf8Encode, List.data_toByteArray]
  rfl

theorem bytes_inj {a b : String} : bytes a = bytes b ↔ a = b := by
  constructor
  · intro h
    rw [bytes_eq_flatMap, bytes_eq_flatMap] at h
    rw [← String.toByteArray_inj, ← String.utf8Encode_toList, ← String.utf8Encode_toList,
      List.utf8Encode, List.utf8Encode, h]
  · intro h
    rw [h]

theorem before_irrefl (a : String) : ¬ before a a :=
  List.lt_irrefl _

theorem before_trans {a b c : String} (h : before a b) (h' : before b c) : before a c :=
  List.lt_trans h h'

instance : Std.Irrefl before := ⟨before_irrefl⟩

instance : Std.Antisymm before :=
  ⟨fun a _ h h' => absurd (before_trans h h') (before_irrefl a)⟩

theorem before_of_not_before {a b : String} (hne : a ≠ b) (h : ¬ before a b) : before b a := by
  rcases List.le_iff_lt_or_eq.1 (List.not_lt.1 h) with hlt | heq
  · exact hlt
  · exact absurd (bytes_inj.1 heq).symm hne

theorem decodeFrom_cons (begun : Option Begun) (n : Nat) (hn : n < 256) (bs : List UInt8) :
    decodeFrom begun (UInt8.ofNat n :: bs) =
      (decodeByte begun n).1 ++ decodeFrom (decodeByte begun n).2 bs := by
  rw [decodeFrom, UInt8.toNat_ofNat', Nat.mod_eq_of_lt hn]

theorem decodeFrom_last (bits d : Nat) (hd : d < 64) (bs : List UInt8) :
    decodeFrom (some ⟨0, 0x80, 0xBF, bits⟩) (UInt8.ofNat (d + 0x80) :: bs) =
      Char.ofNat (64 * bits + d) :: decodeFrom none bs := by
  have hd' : 0x80 ≤ d + 0x80 ∧ d + 0x80 ≤ 0xBF := by omega
  rw [decodeFrom_cons _ _ (by omega), decodeByte, if_pos hd', Nat.add_sub_cancel]
  rfl

theorem decodeFrom_inner (later bits d : Nat) {low high : Nat} (hl : low ≤ d + 0x80)
    (hh : d + 0x80 ≤ high) (hd : d < 64) (bs : List UInt8) :
    decodeFrom (some ⟨later + 1, low, high, bits⟩) (UInt8.ofNat (d + 0x80) :: bs) =
      decodeFrom (some ⟨later, 0x80, 0xBF, 64 * bits + d⟩) bs := by
  rw [decodeFrom_cons _ _ (by omega), decodeByte, if_pos ⟨hl, hh⟩, Nat.add_sub_cancel]
  rfl

theorem decodeFrom_char (c : Char) (rest : List UInt8) :
    decodeFrom none (String.utf8EncodeChar c ++ rest) = c :: decodeFrom none rest := by
  have hc : Char.ofNat c.val.toNat = c := Char.ofNat_toNat c
  have hvalid : c.val.toNat < 0xD800 ∨ 0xDFFF < c.val.toNat ∧ c.val.toNat < 0x110000 := c.valid
  unfold String.utf8EncodeChar
  generalize c.val.toNat = v at hc hvalid ⊢
  simp only
  split
  · rw [List.singleton_append, decodeFrom_cons _ _ (by omega), decodeByte, leadByte,
      if_pos (by omega), hc]
    rfl
  split
  · rw [List.cons_append, List.singleton_append, decodeFrom_cons _ _ (by omega), decodeByte,
      leadByte, if_neg (by omega), if_neg (by omega), if_pos (by omega), List.nil_append,
      decodeFrom_last _ _ (by omega), ← hc]
    congr 2
    omega
  split
  · have hlow : (if v / 4096 % 16 + 0xE0 = 0xE0 then 0xA0 else 0x80) ≤ v / 64 % 64 + 0x80 := by
      split <;> omega
    have hhigh : v / 64 % 64 + 0x80 ≤ if v / 4096 % 16 + 0xE0 = 0xED then 0x9F else 0xBF := by
      split <;> omega
    rw [List.cons_append, List.cons_append, List.singleton_append,
      decodeFrom_cons _ _ (by omega), decodeByte, leadByte, if_neg (by omega), if_neg (by omega),
      if_neg (by omega), if_pos (by omega), List.nil_append,
      decodeFrom_inner _ _ _ hlow hhigh (by omega), decodeFrom_last _ _ (by omega), ← hc]
    congr 2
    omega
  · have hlow : (if v / 262144 % 8 + 0xF0 = 0xF0 then 0x90 else 0x80) ≤ v / 4096 % 64 + 0x80 := by
      split <;> omega
    have hhigh : v / 4096 % 64 + 0x80 ≤ if v / 262144 % 8 + 0xF0 = 0xF4 then 0x8F else 0xBF := by
      split <;> omega
    rw [List.cons_append, List.cons_append, List.cons_append, List.singleton_append,
      decodeFrom_cons _ _ (by omega), decodeByte, leadByte, if_neg (by omega), if_neg (by omega),
      if_neg (by omega), if_neg (by omega), if_pos (by omega), List.nil_append,
      decodeFrom_inner _ _ _ hlow hhigh (by omega),
      decodeFrom_inner _ _ _ (by omega) (by omega) (by omega),
      decodeFrom_last _ _ (by omega), ← hc]
    congr 2
    omega

theorem decodeFrom_chars (cs : List Char) :
    decodeFrom none (cs.flatMap String.utf8EncodeChar) = cs := by
  induction cs with
  | nil => rfl
  | cons c cs ih => rw [List.flatMap_cons, decodeFrom_char, ih]

theorem lossy_bytes (text : String) : lossy (bytes text) = text := by
  rw [lossy, bytes_eq_flatMap, decodeFrom_chars, String.ofList_toList]

end EnclosingScope.Text
