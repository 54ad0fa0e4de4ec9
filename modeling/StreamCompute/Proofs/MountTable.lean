/-
  StreamCompute.Proofs.MountTable

  What is found in a mount table is what was written there. A system writes one
  line for each file system that is mounted, and escapes the characters of a
  field that would end it. Escapes are read octet by octet, but no octet of a
  longer character is taken for a backslash, so reading undoes writing.
-/
import StreamCompute.HostMemory.Mounts
import StreamCompute.Proofs.Utf8

namespace StreamCompute.Text

/-! ## Splitting -/

section Splitting

variable {p : Char → Bool} {piece rest : List Char} {c : Char}

theorem splitAtEach_of_none (h : ∀ c ∈ piece, p c = false) : splitAtEach p piece = [piece] := by
  induction piece with
  | nil => rfl
  | cons c piece ih =>
    obtain ⟨hc, hrest⟩ := List.forall_mem_cons.mp h
    simp [splitAtEach, hc, ih hrest]

theorem splitAtEach_append (h : ∀ c ∈ piece, p c = false) (hc : p c = true) :
    splitAtEach p (piece ++ c :: rest) = piece :: splitAtEach p rest := by
  induction piece with
  | nil => simp [splitAtEach, hc]
  | cons d piece ih =>
    obtain ⟨hd, hrest⟩ := List.forall_mem_cons.mp h
    simp [splitAtEach, hd, ih hrest]

/-- Words that are written with spaces between are read back. -/
theorem words_intercalate {pieces : List (List Char)}
    (h : ∀ w ∈ pieces, w ≠ [] ∧ ∀ c ∈ w, isBlank c = false) :
    words ([' '].intercalate pieces) = pieces := by
  induction pieces with
  | nil => rfl
  | cons w pieces ih =>
    obtain ⟨⟨hne, hw⟩, hrest⟩ := List.forall_mem_cons.mp h
    cases pieces with
    | nil =>
      unfold words
      rw [List.intercalate_singleton, splitAtEach_of_none hw]
      simp [hne]
    | cons w' pieces =>
      have hsplit : [' '].intercalate (w :: w' :: pieces) =
          w ++ ' ' :: [' '].intercalate (w' :: pieces) := by
        simp [List.intercalate]
      have hkept : (!w.isEmpty) = true := by simpa using hne
      rw [hsplit, words, splitAtEach_append hw (by decide),
        List.filter_cons_of_pos (p := (!List.isEmpty ·)) hkept, ← words, ih hrest]

/-- Lines that are each ended are read back, and one more without characters. -/
theorem lines_flatMap {texts : List (List Char)} (h : ∀ t ∈ texts, '\n' ∉ t) :
    lines (texts.flatMap (· ++ ['\n'])) = texts ++ [[]] := by
  induction texts with
  | nil => rfl
  | cons t texts ih =>
    obtain ⟨ht, hrest⟩ := List.forall_mem_cons.mp h
    have hnone : ∀ c ∈ t, (c == '\n') = false := fun c hc =>
      beq_eq_false_iff_ne.mpr fun heq => ht (heq ▸ hc)
    rw [List.flatMap_cons, List.append_assoc, List.singleton_append, lines,
      splitAtEach_append hnone rfl, ← lines, ih hrest, List.cons_append]

end Splitting

end StreamCompute.Text

namespace StreamCompute.HostMemory

/-! ## Escapes -/

/-- The characters of a field that are not written as themselves. -/
def escaped : List Char := [' ', '\t', '\n', '\\']

/-- How a character of a field is written. -/
def escape (c : Char) : List Char :=
  if c ∈ escaped then
    '\\' :: [c.toNat / 64, c.toNat / 8 % 8, c.toNat % 8].map fun d => Char.ofNat ('0'.toNat + d)
  else [c]

theorem unescapeBytes_append {bytes rest : Bytes} (h : 92 ∉ bytes) :
    unescapeBytes (bytes ++ rest) = bytes ++ unescapeBytes rest := by
  induction bytes with
  | nil => rfl
  | cons b bytes ih =>
    obtain ⟨hb, hrest⟩ := not_or.mp (fun hor => h (List.mem_cons.mpr hor))
    rw [List.cons_append, unescapeBytes, ih hrest, List.cons_append]
    exact fun _ _ _ _ heq => absurd heq.symm hb

/-- Only a backslash has the octet of a backslash. -/
theorem backslash_notMem_utf8EncodeChar {c : Char} (h : c ≠ '\\') :
    92 ∉ String.utf8EncodeChar c := by
  have hc : c.val.toNat ≠ 92 := fun hn =>
    h ((Char.ofNat_toNat c).symm.trans (congrArg Char.ofNat hn))
  have hne : ∀ n, n < 256 → n ≠ 92 → ¬ (92 : UInt8) = UInt8.ofNat n := fun n hn hne heq => by
    have hnat := congrArg UInt8.toNat heq
    rw [Text.toNat_octet hn] at hnat
    exact hne hnat.symm
  unfold String.utf8EncodeChar
  dsimp only
  repeat' split
  all_goals
    simp only [List.mem_cons, List.not_mem_nil, or_false, not_or]
    repeat' apply And.intro
  all_goals exact hne _ (by omega) (by omega)

theorem unescapeBytes_escape (c : Char) (rest : Bytes) :
    unescapeBytes ((escape c).flatMap String.utf8EncodeChar ++ rest) =
      String.utf8EncodeChar c ++ unescapeBytes rest := by
  by_cases hc : c ∈ escaped
  · simp only [escaped, List.mem_cons, List.not_mem_nil, or_false] at hc
    rcases hc with rfl | rfl | rfl | rfl <;> rfl
  · have hne : c ≠ '\\' := by
      rintro rfl
      exact hc (by decide)
    rw [escape, if_neg hc, List.flatMap_singleton,
      unescapeBytes_append (backslash_notMem_utf8EncodeChar hne)]

theorem unescape_escape (cs : List Char) :
    unescape (String.ofList (cs.flatMap escape)) = String.ofList cs := by
  have hbytes : unescapeBytes ((cs.flatMap escape).flatMap String.utf8EncodeChar) =
      cs.flatMap String.utf8EncodeChar := by
    induction cs with
    | nil => rfl
    | cons c cs ih =>
      rw [List.flatMap_cons, List.flatMap_append, unescapeBytes_escape, ih, List.flatMap_cons]
  rw [unescape, Text.encodeUtf8_ofList, hbytes, Text.decodeUtf8_encode]

/-! ## Mount tables -/

/-- A field of a mount table. The only blanks in it are some that are escaped. -/
structure MountField where
  text : String
  nonempty : text ≠ ""
  blanks : ∀ c ∈ text.toList, Text.isBlank c = true → c = ' ' ∨ c = '\t' ∨ c = '\n'

structure MountEntry where
  source : MountField
  directory : MountField
  type : MountField
  options : MountField

def MountField.written (f : MountField) : List Char :=
  f.text.toList.flatMap escape

def MountEntry.line (e : MountEntry) : List Char :=
  [' '].intercalate
    [e.source.written, e.directory.written, e.type.written, e.options.written, ['0'], ['0']]

/-- The table as the system writes it. -/
def mountTable (entries : List MountEntry) : String :=
  String.ofList ((entries.map MountEntry.line).flatMap (· ++ ['\n']))

theorem MountField.written_ne_nil (f : MountField) : f.written ≠ [] := by
  have hne : f.text.toList ≠ [] := fun h => f.nonempty (String.toList_eq_nil_iff.mp h)
  obtain ⟨c, cs, hcs⟩ := List.exists_cons_of_ne_nil hne
  rw [written, hcs, List.flatMap_cons]
  unfold escape
  split <;> simp

theorem isBlank_escape {c d : Char} (h : Text.isBlank c = true → c = ' ' ∨ c = '\t' ∨ c = '\n')
    (hd : d ∈ escape c) : Text.isBlank d = false := by
  by_cases hc : c ∈ escaped
  · have hall : escaped.all (fun c => (escape c).all fun d => !Text.isBlank d) = true := by decide
    simpa using List.all_eq_true.mp (List.all_eq_true.mp hall c hc) d hd
  · rw [escape, if_neg hc, List.mem_singleton] at hd
    subst hd
    refine Bool.eq_false_iff.mpr fun hblank => hc ?_
    rcases h hblank with rfl | rfl | rfl <;> decide

theorem MountField.not_blank_of_mem (f : MountField) {d : Char} (hd : d ∈ f.written) :
    Text.isBlank d = false := by
  obtain ⟨c, hc, hd⟩ := List.mem_flatMap.mp hd
  exact isBlank_escape (f.blanks c hc) hd

theorem MountField.unescape_written (f : MountField) :
    unescape (String.ofList f.written) = f.text := by
  rw [written, unescape_escape, String.ofList_toList]

theorem MountEntry.words_line (e : MountEntry) : Text.words e.line =
    [e.source.written, e.directory.written, e.type.written, e.options.written, ['0'], ['0']] := by
  have hfield : ∀ f : MountField, f.written ≠ [] ∧ ∀ c ∈ f.written, Text.isBlank c = false :=
    fun f => ⟨f.written_ne_nil, fun _ => f.not_blank_of_mem⟩
  refine Text.words_intercalate ?_
  simp only [List.forall_mem_cons]
  have hzero : ['0'] ≠ [] ∧ Text.isBlank '0' = false ∧ ∀ c ∈ [], Text.isBlank c = false :=
    ⟨List.cons_ne_nil _ _, by decide, List.forall_mem_nil _⟩
  exact ⟨hfield _, hfield _, hfield _, hfield _, hzero, hzero, List.forall_mem_nil _⟩

theorem MountEntry.newline_notMem_line (e : MountEntry) : '\n' ∉ e.line := by
  have hfield : ∀ f : MountField, '\n' ∉ f.written := fun f h => by
    cases f.not_blank_of_mem h
  simp [line, List.intercalate, hfield]

theorem MountEntry.hugeDirectory?_line (e : MountEntry) :
    hugeDirectory? e.line =
      if e.type.text = "hugetlbfs" then some e.directory.text else none := by
  have htype : e.type.written = "hugetlbfs".toList ↔ e.type.text = "hugetlbfs" := by
    have hplain : "hugetlbfs".toList = "hugetlbfs".toList.flatMap escape := by decide
    constructor
    · intro h
      rw [← e.type.unescape_written, h, hplain, unescape_escape, String.ofList_toList]
    · intro h
      rw [MountField.written, h]
      exact hplain.symm
  simp only [hugeDirectory?, e.words_line, htype, e.directory.unescape_written]

/-- In a mount table, the directory is found of the first entry whose type is that of huge pages,
    however its fields are escaped, and nothing if there is none. -/
theorem mount_table_is_read_back (entries : List MountEntry) :
    findHugePages? (mountTable entries) =
      (entries.find? fun e => e.type.text = "hugetlbfs").map fun e => e.directory.text := by
  have hlines : Text.lines (mountTable entries).toList = entries.map MountEntry.line ++ [[]] := by
    rw [mountTable, String.toList_ofList, Text.lines_flatMap]
    exact List.forall_mem_map.mpr fun e _ => e.newline_notMem_line
  rw [findHugePages?, hlines]
  clear hlines
  induction entries with
  | nil => rfl
  | cons e entries ih =>
    rw [List.map_cons, List.cons_append, List.findSome?_cons, e.hugeDirectory?_line, List.find?_cons]
    by_cases he : e.type.text = "hugetlbfs"
    · simp only [he, if_true, decide_true, Option.map_some]
    · simp only [he, if_false, decide_false]
      exact ih

/-! ## Decoding -/

/-- The octet that octal digits stand for, if it is one. -/
def octal? (digits : List Char) : Option UInt8 :=
  if digits.all (fun d => '0' ≤ d ∧ d ≤ '7') ∧ Text.spelled 8 digits 0 ≤ 255 then
    some (Text.spelled 8 digits 0).toUInt8
  else none

/-- The octets of characters in which each escape stands for the octet it is read as. An escape
    is a backslash and three characters that `read?` takes; the rest is copied. -/
def decodeEscapes (read? : List Char → Option UInt8) : List Char → Bytes
  | '\\' :: a :: b :: c :: rest =>
    match read? [a, b, c] with
    | some octet => octet :: decodeEscapes read? rest
    | none => String.utf8EncodeChar '\\' ++ decodeEscapes read? (a :: b :: c :: rest)
  | c :: rest => String.utf8EncodeChar c ++ decodeEscapes read? rest
  | [] => []

/-- Octal digits after a plus sign, if there is one. -/
def signedOctal? (cs : List Char) : Option UInt8 :=
  octal? (Text.unsignedDigits cs)

theorem isDigit_octal {d : Char} : Text.IsDigit 8 d ↔ '0' ≤ d ∧ d ≤ '7' := by
  simp only [Text.IsDigit, Char.le_def, UInt32.le_iff_toNat_le]
  show _ ∧ _ ∧ d.val.toNat - 48 < 8 ↔ _
  simp
  omega

theorem unsignedDigits_three (a b c : Char) :
    Text.unsignedDigits [a, b, c] = if a = '+' then [b, c] else [a, b, c] := by
  unfold Text.unsignedDigits
  split <;> simp_all

theorem readUnsigned_octal (a b c : Char) :
    (Text.readUnsigned 8 256 [a, b, c]).map Nat.toUInt8 = signedOctal? [a, b, c] := by
  have hne : Text.unsignedDigits [a, b, c] ≠ [] := by
    rw [unsignedDigits_three]
    split <;> simp
  have hread : ∀ n, Text.readUnsigned 8 256 [a, b, c] = some n ↔
      ((Text.unsignedDigits [a, b, c]).all (fun d => '0' ≤ d ∧ d ≤ '7') ∧
        Text.spelled 8 (Text.unsignedDigits [a, b, c]) 0 ≤ 255) ∧
        n = Text.spelled 8 (Text.unsignedDigits [a, b, c]) 0 := by
    intro n
    rw [Text.readUnsigned_eq_some_iff]
    simp only [isDigit_octal, List.all_eq_true, decide_eq_true_eq]
    grind
  unfold signedOctal? octal?
  split
  · rename_i h
    rw [(hread _).mpr ⟨h, rfl⟩, Option.map_some]
  · rename_i h
    rw [Option.map_eq_none_iff, Option.eq_none_iff_forall_ne_some]
    exact fun n hn => h ((hread n).mp hn).1

/-- Octets are read as octal digits, also after a plus sign. -/
theorem octalByte?_eq (x y z : UInt8) : octalByte? x y z =
    signedOctal? [Char.ofNat x.toNat, Char.ofNat y.toNat, Char.ofNat z.toNat] :=
  readUnsigned_octal _ _ _

theorem ascii_of_signedOctal? {a b c : Char} {octet : UInt8}
    (h : signedOctal? [a, b, c] = some octet) : a.toNat < 128 ∧ b.toNat < 128 ∧ c.toNat < 128 := by
  have hdigits : ∀ d ∈ Text.unsignedDigits [a, b, c], d.toNat < 128 := by
    intro d hd
    unfold signedOctal? octal? at h
    split at h
    · rename_i hall
      have hle : d.toNat ≤ '7'.toNat := (of_decide_eq_true (List.all_eq_true.mp hall.1 d hd)).2
      exact Nat.lt_of_le_of_lt hle (by decide)
    · cases h
  rw [unsignedDigits_three] at hdigits
  split at hdigits
  · subst a
    simpa using hdigits
  · simpa using hdigits

section Octets

variable {x : UInt8} {octets : Bytes} {cs : List Char}

theorem utf8EncodeChar_of_ascii {c : Char} (h : c.toNat < 128) :
    String.utf8EncodeChar c = [UInt8.ofNat c.toNat] := by
  have hc : c.val.toNat ≤ 127 := Nat.le_of_lt_succ h
  unfold String.utf8EncodeChar
  exact if_pos hc

/-- An octet below 128 is a character of its own. -/
theorem exists_ascii (hx : x.toNat < 128) (h : cs.flatMap String.utf8EncodeChar = x :: octets) :
    ∃ rest, cs = Char.ofNat x.toNat :: rest ∧ rest.flatMap String.utf8EncodeChar = octets := by
  cases cs with
  | nil => cases h
  | cons c rest =>
    have hspells := Text.spells c
    rw [List.flatMap_cons] at h
    generalize String.utf8EncodeChar c = encoded at h hspells
    cases hspells with
    | intro hlead _ hlength hvalue =>
      obtain ⟨rfl, rfl⟩ := List.cons.inj h
      rw [Text.lead?, if_pos (by omega), Option.some.injEq] at hlead
      subst hlead
      obtain rfl := List.length_eq_zero_iff.mp hlength
      exact ⟨rest, by rw [← Char.ofNat_toNat c, ← hvalue]; rfl, rfl⟩

theorem unescapeBytes_of_escape {a b c : Char} {octet : UInt8}
    (h : signedOctal? [a, b, c] = some octet) :
    unescapeBytes (92 :: (a :: b :: c :: cs).flatMap String.utf8EncodeChar) =
      octet :: unescapeBytes (cs.flatMap String.utf8EncodeChar) := by
  obtain ⟨ha, hb, hc⟩ := ascii_of_signedOctal? h
  have hoctet : ∀ {d : Char}, d.toNat < 128 → Char.ofNat (UInt8.ofNat d.toNat).toNat = d := by
    intro d hd
    rw [Text.toNat_octet (by omega), Char.ofNat_toNat]
  have hread : octalByte? (UInt8.ofNat a.toNat) (UInt8.ofNat b.toNat) (UInt8.ofNat c.toNat) =
      some octet := by
    rw [octalByte?_eq, hoctet ha, hoctet hb, hoctet hc, h]
  simp only [List.flatMap_cons, utf8EncodeChar_of_ascii ha, utf8EncodeChar_of_ascii hb,
    utf8EncodeChar_of_ascii hc, List.cons_append, List.nil_append, unescapeBytes, hread]

/-- Octets that are read as an escape are characters. -/
theorem unescapeBytes_of_no_escape
    (h : ∀ a b c rest, cs = a :: b :: c :: rest → signedOctal? [a, b, c] = none) :
    unescapeBytes (92 :: cs.flatMap String.utf8EncodeChar) =
      92 :: unescapeBytes (cs.flatMap String.utf8EncodeChar) := by
  generalize hoctets : cs.flatMap String.utf8EncodeChar = octets
  rcases octets with _ | ⟨x, _ | ⟨y, _ | ⟨z, rest⟩⟩⟩
  iterate 3 rfl
  have hread : octalByte? x y z = none := by
    rw [octalByte?_eq]
    cases hsigned : signedOctal? [Char.ofNat x.toNat, Char.ofNat y.toNat, Char.ofNat z.toNat] with
    | none => rfl
    | some octet =>
      obtain ⟨hx, hy, hz⟩ := ascii_of_signedOctal? hsigned
      have hbyte : ∀ byte : UInt8, (Char.ofNat byte.toNat).toNat = byte.toNat := by
        intro byte
        have hvalid : byte.toNat.isValidChar := .inl (Nat.lt_trans byte.toNat_lt (by decide))
        rw [Char.ofNat, dif_pos hvalid]
        rfl
      rw [hbyte] at hx hy hz
      obtain ⟨cs₁, rfl, h₁⟩ := exists_ascii hx hoctets
      obtain ⟨cs₂, rfl, h₂⟩ := exists_ascii hy h₁
      obtain ⟨cs₃, rfl, -⟩ := exists_ascii hz h₂
      rw [h _ _ _ _ rfl] at hsigned
      cases hsigned
  simp only [unescapeBytes, hread]

theorem unescapeBytes_encode (cs : List Char) :
    unescapeBytes (cs.flatMap String.utf8EncodeChar) = decodeEscapes signedOctal? cs := by
  fun_induction decodeEscapes signedOctal? cs with
  | case1 a b c rest octet h ih =>
    rw [← ih]
    exact unescapeBytes_of_escape h
  | case2 a b c rest h ih =>
    rw [← ih]
    exact unescapeBytes_of_no_escape fun _ _ _ _ heq => by cases heq; exact h
  | case3 c rest hother ih =>
    rw [← ih]
    by_cases hc : c = '\\'
    · subst hc
      exact unescapeBytes_of_no_escape fun _ _ _ _ heq => (hother _ _ _ _ rfl heq).elim
    · exact unescapeBytes_append (backslash_notMem_utf8EncodeChar hc)
  | case4 => rfl

end Octets

/-- A text in which no plus sign and two octal digits come after a backslash. -/
def Unsigned (cs : List Char) : Prop :=
  ∀ b c, octal? [b, c] ≠ none → ¬ ['\\', '+', b, c] <:+: cs

theorem signedOctal?_eq {a b c : Char} {rest : List Char}
    (h : Unsigned ('\\' :: a :: b :: c :: rest)) : signedOctal? [a, b, c] = octal? [a, b, c] := by
  rw [signedOctal?, unsignedDigits_three]
  split
  · subst a
    have hnone : octal? ['+', b, c] = none := if_neg fun hall => absurd hall.1 (by simp)
    rw [hnone]
    exact Decidable.byContradiction fun hsome => h b c hsome ⟨[], rest, rfl⟩
  · rfl

theorem Unsigned.of_append {cs : List Char} (front : List Char) (h : Unsigned (front ++ cs)) :
    Unsigned cs :=
  fun b c hoctal hin => h b c hoctal (hin.trans (List.suffix_append ..).isInfix)

theorem decodeEscapes_of_unsigned {cs : List Char} (h : Unsigned cs) :
    decodeEscapes signedOctal? cs = decodeEscapes octal? cs := by
  fun_induction decodeEscapes octal? cs with
  | case1 a b c rest octet hread ih =>
    simp only [decodeEscapes, signedOctal?_eq h, hread]
    rw [ih (.of_append ['\\', a, b, c] h)]
  | case2 a b c rest hread ih =>
    rw [← ih (.of_append ['\\'] h)]
    simp only [decodeEscapes, signedOctal?_eq h, hread]
  | case3 c rest hother ih =>
    rw [decodeEscapes, ih (.of_append [c] h)]
    exact hother
  | case4 => rfl

/-- Where no backslash begins an escape, all is copied. -/
theorem decodeEscapes_of_none {cs : List Char}
    (h : ∀ a b c, octal? [a, b, c] ≠ none → ¬ ['\\', a, b, c] <:+: cs) :
    decodeEscapes octal? cs = cs.flatMap String.utf8EncodeChar := by
  fun_induction decodeEscapes octal? cs with
  | case1 a b c rest octet hread ih =>
    exact absurd ⟨[], rest, rfl⟩ (h a b c (by simp [hread]))
  | case2 a b c rest hread ih =>
    rw [ih fun a b c hoctal hin => h a b c hoctal (hin.trans (List.suffix_cons ..).isInfix),
      List.flatMap_cons (x := '\\')]
  | case3 c rest hother ih =>
    rw [ih fun a b c hoctal hin => h a b c hoctal (hin.trans (List.suffix_cons ..).isInfix),
      List.flatMap_cons]
  | case4 => rfl

theorem unescape_eq {field text : String}
    (h : decodeEscapes signedOctal? field.toList = Text.encodeUtf8 text) : unescape field = text := by
  rw [← text.ofList_toList, Text.encodeUtf8_ofList] at h
  rw [unescape, ← field.ofList_toList, Text.encodeUtf8_ofList, unescapeBytes_encode, h,
    Text.decodeUtf8_encode, text.ofList_toList]

/-- A field whose escapes decode to the octets of a text is read as that text, where a plus sign
    and two octal digits count as an escape, too. Without those, the escapes are exactly the
    backslashes with three octal digits that stand for an octet, and a field that has none of
    them is left as it is. -/
theorem octal_escapes_are_decoded (field : String) :
    (∀ text, decodeEscapes signedOctal? field.toList = Text.encodeUtf8 text →
      unescape field = text) ∧
    (Unsigned field.toList →
      (∀ text, decodeEscapes octal? field.toList = Text.encodeUtf8 text → unescape field = text) ∧
      ((∀ a b c, octal? [a, b, c] ≠ none → ¬ ['\\', a, b, c] <:+: field.toList) →
        unescape field = field)) := by
  refine ⟨fun _ => unescape_eq, fun h => ?_⟩
  rw [← decodeEscapes_of_unsigned h]
  refine ⟨fun _ => unescape_eq, fun hnone => unescape_eq ?_⟩
  rw [decodeEscapes_of_unsigned h, decodeEscapes_of_none hnone, ← Text.encodeUtf8_ofList,
    field.ofList_toList]

/-- A blank that is written as an escape is read back. -/
theorem escaped_blank_is_decoded :
    Unsigned "a\\040b\\777".toList ∧ unescape "a\\040b\\777" = "a b\\777" := by
  have hunsigned : Unsigned "a\\040b\\777".toList := by
    rintro b c - ⟨front, rest, h⟩
    have hplus : '+' ∈ "a\\040b\\777".toList := by rw [← h]; simp
    exact absurd hplus (by decide)
  refine ⟨hunsigned, ((octal_escapes_are_decoded _).2 hunsigned).1 _ ?_⟩
  rw [← String.ofList_toList (s := "a b\\777"), Text.encodeUtf8_ofList]
  decide

theorem signed_escape_is_decoded :
    ¬ ∀ field text, decodeEscapes octal? field.toList = Text.encodeUtf8 text →
      unescape field = text := by
  intro h
  have hcopied := h "\\+40" "\\+40" (by
    rw [← String.ofList_toList (s := "\\+40"), Text.encodeUtf8_ofList]
    decide)
  have hblank : unescape "\\+40" = " " := unescape_eq (by
    rw [← String.ofList_toList (s := " "), Text.encodeUtf8_ofList]
    decide)
  rw [hblank] at hcopied
  exact absurd hcopied (by decide)

end StreamCompute.HostMemory
