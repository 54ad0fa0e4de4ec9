/-
  StreamCompute.Proofs.Utf8

  Decoding is the inverse of encoding. The octets of a character are a lead and
  as many octets as the lead asks for; which ranges the lead allows is decided
  by the number of the character, in four cases.
-/
import StreamCompute.Text.Utf8

namespace StreamCompute.Text

/-- Octets that were taken already, the last one first, stand in front of those that are left. -/
theorem toList_loop (bytes : ByteArray) (i : Nat) (taken : List UInt8) :
    ByteArray.toList.loop bytes i taken = taken.reverse ++ bytes.data.toList.drop i := by
  fun_induction ByteArray.toList.loop bytes i taken with
  | case1 i taken h ih =>
    have hi : i < bytes.data.size := h
    have hget : bytes.get! i = bytes.data[i] := getElem!_pos bytes.data i hi
    rw [ih, List.reverse_cons, List.append_assoc, hget, ← Array.getElem_toList]
    rw [List.singleton_append, List.getElem_cons_drop]
  | case2 i taken h =>
    rw [List.drop_eq_nil_of_le (Nat.le_of_not_lt h), List.append_nil]

theorem encodeUtf8_ofList (cs : List Char) :
    encodeUtf8 (String.ofList cs) = cs.flatMap String.utf8EncodeChar := by
  unfold encodeUtf8 ByteArray.toList
  rw [toList_loop, String.toUTF8_eq_toByteArray, String.toByteArray_ofList, List.utf8Encode,
    List.data_toByteArray]
  rfl

/-- The octets are a lead with as many octets after it as it asks for, and stand for the number. -/
inductive Spells (n : Nat) : List UInt8 → Prop
  | intro {b : UInt8} {tail : List UInt8} {l : Lead} (lead : lead? b.toNat = some l)
      (follow : ∀ rest, continuation l.following l.low l.high (tail ++ rest) = tail)
      (length : tail.length = l.following) (value : codePoint l.bits tail = n) :
      Spells n (b :: tail)

theorem Spells.decode {n : Nat} {octets : List UInt8} (h : Spells n octets) (rest : List UInt8) :
    decodeUtf8 (octets ++ rest) = Char.ofNat n :: decodeUtf8 rest := by
  cases h with
  | intro hlead hfollow hlength hvalue =>
    rw [List.cons_append, decodeUtf8]
    simp only [hlead, hfollow, hlength, if_true, hvalue]
    rw [← hlength, List.drop_left]

section Octets

variable {k low high n : Nat} {rest : List UInt8}

theorem toNat_octet (h : n < 256) : (UInt8.ofNat n).toNat = n := by
  rw [UInt8.toNat_ofNat']
  exact Nat.mod_eq_of_lt h

theorem continuation_zero : continuation 0 low high rest = [] := by
  cases rest <;> rfl

theorem continuation_cons (hlow : low ≤ n % 64 + 0x80) (hhigh : n % 64 + 0x80 ≤ high) :
    continuation (k + 1) low high (UInt8.ofNat (n % 64 + 0x80) :: rest) =
      UInt8.ofNat (n % 64 + 0x80) :: continuation k 0x80 0xBF rest := by
  have hoctet : (UInt8.ofNat (n % 64 + 0x80)).toNat = n % 64 + 0x80 := toNat_octet (by omega)
  rw [continuation, hoctet, if_pos ⟨hlow, hhigh⟩]

theorem lead_congr {bits : Nat} (h : n = bits) :
    some (Lead.mk k low high n) = some ⟨k, low, high, bits⟩ := by
  rw [h]

theorem lead?_of_three (hlow : 0x7FF < n) (hhigh : n ≤ 0xFFFF)
    (hscalar : n < 0xD800 ∨ 0xDFFF < n) :
    ∃ low high, lead? (n / 4096 % 16 + 0xE0) = some ⟨2, low, high, n / 4096⟩ ∧
      low ≤ n / 64 % 64 + 0x80 ∧ n / 64 % 64 + 0x80 ≤ high := by
  unfold lead?
  repeat' split
  all_goals first
    | omega
    | exact ⟨_, _, lead_congr (by omega), by omega, by omega⟩

theorem lead?_of_four (hlow : 0xFFFF < n) (hhigh : n < 0x110000) :
    ∃ low high, lead? (n / 262144 % 8 + 0xF0) = some ⟨3, low, high, n / 262144⟩ ∧
      low ≤ n / 4096 % 64 + 0x80 ∧ n / 4096 % 64 + 0x80 ≤ high := by
  unfold lead?
  repeat' split
  all_goals first
    | omega
    | exact ⟨_, _, lead_congr (by omega), by omega, by omega⟩

end Octets

/-- The octets of a character stand for its number. -/
theorem spells (c : Char) : Spells c.toNat (String.utf8EncodeChar c) := by
  have hscalar : c.toNat < 0xD800 ∨ 0xDFFF < c.toNat ∧ c.toNat < 0x110000 := c.valid
  have hany : ∀ {k n rest}, continuation (k + 1) 0x80 0xBF (UInt8.ofNat (n % 64 + 0x80) :: rest) =
      UInt8.ofNat (n % 64 + 0x80) :: continuation k 0x80 0xBF rest :=
    continuation_cons (by omega) (by omega)
  have hoctet : ∀ n, (UInt8.ofNat (n % 64 + 0x80)).toNat = n % 64 + 0x80 := fun _ =>
    toNat_octet (by omega)
  unfold String.utf8EncodeChar
  generalize hn : c.val.toNat = n
  rw [show c.toNat = n from hn] at hscalar ⊢
  dsimp only
  -- One case for each length of a code. What differs between them is in the lead octet.
  split
  · refine .intro (l := ⟨0, 0x80, 0xBF, n⟩) ?_ (fun _ => continuation_zero) rfl rfl
    rw [toNat_octet (by omega), lead?, if_pos (by assumption)]
  split
  · refine .intro (l := ⟨1, 0x80, 0xBF, n / 64⟩) ?_ (fun _ => ?_) rfl ?_
    · rw [toNat_octet (by omega), lead?, if_neg (by omega), if_pos (by omega)]
      exact lead_congr (by omega)
    · rw [List.cons_append, hany, continuation_zero]
    · simp only [codePoint, List.foldl_cons, List.foldl_nil, hoctet]
      omega
  split
  · obtain ⟨low, high, hlead, hlow, hhigh⟩ :=
      lead?_of_three (n := n) (by omega) (by omega) (by omega)
    refine .intro (l := ⟨2, low, high, n / 4096⟩) ?_ (fun _ => ?_) rfl ?_
    · rw [toNat_octet (by omega), hlead]
    · rw [List.cons_append, continuation_cons hlow hhigh, List.cons_append, hany, continuation_zero]
    · simp only [codePoint, List.foldl_cons, List.foldl_nil, hoctet]
      omega
  · obtain ⟨low, high, hlead, hlow, hhigh⟩ := lead?_of_four (n := n) (by omega) (by omega)
    refine .intro (l := ⟨3, low, high, n / 262144⟩) ?_ (fun _ => ?_) rfl ?_
    · rw [toNat_octet (by omega), hlead]
    · rw [List.cons_append, continuation_cons hlow hhigh, List.cons_append, hany, List.cons_append,
        hany, continuation_zero]
    · simp only [codePoint, List.foldl_cons, List.foldl_nil, hoctet]
      omega

theorem decodeUtf8_encode (cs : List Char) :
    decodeUtf8 (cs.flatMap String.utf8EncodeChar) = cs := by
  induction cs with
  | nil => rw [List.flatMap_nil, decodeUtf8]
  | cons c cs ih => rw [List.flatMap_cons, (spells c).decode, ih, Char.ofNat_toNat]

end StreamCompute.Text
