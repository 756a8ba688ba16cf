import ClassDiagram.Text.Utf8
import Mathlib.Data.List.TakeWhile

namespace ClassDiagram.Text

theorem toList_loop (bytes : ByteArray) (i : Nat) (read : List UInt8) :
    ByteArray.toList.loop bytes i read = read.reverse ++ bytes.data.toList.drop i := by
  induction hleft : bytes.size - i generalizing i read with
  | zero =>
    rw [ByteArray.toList.loop, if_neg (by omega), List.drop_eq_nil_of_le, List.append_nil]
    have hsize : bytes.data.toList.length = bytes.size := rfl
    omega
  | succ left ih =>
    have hi : i < bytes.size := by omega
    rw [ByteArray.toList.loop, if_pos hi, ih (i + 1) _ (by omega)]
    have hlength : i < bytes.data.toList.length := hi
    rw [List.drop_eq_getElem_cons hlength, List.reverse_cons, List.append_assoc, List.singleton_append]
    have hbyte : bytes.get! i = bytes.data.toList[i] := getElem!_pos bytes.data i hi
    rw [hbyte]

theorem encodeUtf8_ofList (cs : List Char) : encodeUtf8 (String.ofList cs) = cs.flatMap String.utf8EncodeChar := by
  rw [encodeUtf8, ByteArray.toList, toList_loop, String.toByteArray_ofList, List.utf8Encode]
  simp

theorem encodeUtf8_eq_flatMap (s : String) : encodeUtf8 s = s.toList.flatMap String.utf8EncodeChar := by
  rw [← encodeUtf8_ofList, String.ofList_toList]

@[simp] theorem encodeUtf8_empty : encodeUtf8 "" = [] := by
  simp [encodeUtf8_eq_flatMap]

/-- Two texts in a row are spelled by their bytes in a row, so what is added to a file leaves what was there. -/
@[simp] theorem encodeUtf8_append (s t : String) : encodeUtf8 (s ++ t) = encodeUtf8 s ++ encodeUtf8 t := by
  simp [encodeUtf8_eq_flatMap]

/-- A first byte is read with the bytes that it announces, if the second lies in its range and the others are of
the form that continues a character. -/
theorem readChar_of_sequence {first second : UInt8} {lo hi : Nat} {tail : List UInt8}
    (hsequence : sequenceOf first = some (tail.length + 1, lo, hi)) (hlo : lo ≤ second.toNat)
    (hhi : second.toNat ≤ hi) (htail : ∀ b ∈ tail, isContinuation b = true) (rest : List UInt8) :
    readChar first (second :: tail ++ rest) =
      .char (Char.ofNat ((second :: tail).foldl (fun n b => n * 64 + b.toNat % 64)
        (leadBits first (tail.length + 1)))) (tail.length + 2) := by
  have hrange : ¬ (second.toNat < lo ∨ hi < second.toNat) := by omega
  have hgood : tail.takeWhile isContinuation = tail := List.takeWhile_eq_self_iff.mpr htail
  rw [readChar, hsequence]
  simp [hrange, hgood]

theorem toNat_ofNat_of_lt {n : Nat} (hn : n < 256) : (UInt8.ofNat n).toNat = n := by
  simp [Nat.mod_eq_of_lt hn]

/-- The bytes are read as one character, whatever follows them. -/
def Spells (bytes : List UInt8) (n : Nat) : Prop :=
  ∃ first more, bytes = first :: more ∧
    ∀ rest, readChar first (more ++ rest) = .char (Char.ofNat n) (more.length + 1)

variable {n : Nat} {first second third fourth : UInt8}

theorem isContinuation_of_toNat {b : UInt8} (hb : b.toNat = n % 64 + 128) : isContinuation b = true := by
  rw [isContinuation, Bool.and_eq_true, decide_eq_true_eq, decide_eq_true_eq, hb]
  omega

/-- A byte below 128 is a character by itself. -/
theorem spells_one (hn : n ≤ 127) (hfirst : first.toNat = n) : Spells [first] n := by
  have hsequence : sequenceOf first = some (0, 0, 0) := by
    rw [sequenceOf, hfirst]
    exact if_pos (by omega)
  refine ⟨first, [], rfl, fun rest => ?_⟩
  rw [readChar, hsequence, hfirst]
  rfl

/-- The two bytes hold five and six bits, and the range of the first leaves out what one byte spells. -/
theorem spells_two (hlow : 127 < n) (hn : n ≤ 2047) (hfirst : first.toNat = n / 64 + 192)
    (hsecond : second.toNat = n % 64 + 128) : Spells [first, second] n := by
  have hsequence : sequenceOf first = some (([] : List UInt8).length + 1, 0x80, 0xBF) := by
    rw [sequenceOf, hfirst]
    rw [if_neg (by omega), if_neg (by omega), if_pos (by omega)]
    rfl
  refine ⟨first, [second], rfl, fun rest => ?_⟩
  have hlo : 0x80 ≤ second.toNat := by omega
  have hhi : second.toNat ≤ 0xBF := by omega
  have hread := readChar_of_sequence hsequence hlo hhi (by simp) rest
  have hbits : leadBits first 1 * 64 + second.toNat % 64 = n := by
    rw [leadBits, hfirst, hsecond]
    omega
  rw [← hbits]
  exact hread

/-- The range of the second byte leaves out what two bytes spell, and surrogates. -/
theorem spells_three (hlow : 2047 < n) (hn : n ≤ 65535) (hvalid : n < 0xD800 ∨ 0xDFFF < n)
    (hfirst : first.toNat = n / 4096 + 224) (hsecond : second.toNat = n / 64 % 64 + 128)
    (hthird : third.toNat = n % 64 + 128) : Spells [first, second, third] n := by
  obtain ⟨lo, hi, hsequence, hlo, hhi⟩ : ∃ lo hi, sequenceOf first = some ([third].length + 1, lo, hi) ∧
      lo ≤ second.toNat ∧ second.toNat ≤ hi := by
    rw [sequenceOf, hfirst, hsecond]
    rw [if_neg (by omega), if_neg (by omega), if_neg (by omega)]
    split_ifs with hleast hsurrogate hother <;> simp only [beq_iff_eq] at *
    · exact ⟨0xA0, 0xBF, rfl, by omega, by omega⟩
    · exact ⟨0x80, 0x9F, rfl, by omega, by omega⟩
    · exact ⟨0x80, 0xBF, rfl, by omega, by omega⟩
    all_goals omega
  refine ⟨first, [second, third], rfl, fun rest => ?_⟩
  have hread := readChar_of_sequence hsequence hlo hhi (by simp [isContinuation_of_toNat hthird]) rest
  have hbits : (leadBits first 2 * 64 + second.toNat % 64) * 64 + third.toNat % 64 = n := by
    rw [leadBits, hfirst, hsecond, hthird]
    omega
  rw [← hbits]
  exact hread

/-- The range of the second byte leaves out what three bytes spell, and what lies above the last character. -/
theorem spells_four (hlow : 65535 < n) (hn : n < 0x110000) (hfirst : first.toNat = n / 262144 + 240)
    (hsecond : second.toNat = n / 4096 % 64 + 128) (hthird : third.toNat = n / 64 % 64 + 128)
    (hfourth : fourth.toNat = n % 64 + 128) : Spells [first, second, third, fourth] n := by
  obtain ⟨lo, hi, hsequence, hlo, hhi⟩ : ∃ lo hi, sequenceOf first = some ([third, fourth].length + 1, lo, hi) ∧
      lo ≤ second.toNat ∧ second.toNat ≤ hi := by
    rw [sequenceOf, hfirst, hsecond]
    rw [if_neg (by omega), if_neg (by omega), if_neg (by omega), if_neg (by simp), if_neg (by simp),
      if_neg (by omega)]
    split_ifs with hleast hother hlast <;> simp only [beq_iff_eq] at *
    · exact ⟨0x90, 0xBF, rfl, by omega, by omega⟩
    · exact ⟨0x80, 0xBF, rfl, by omega, by omega⟩
    · exact ⟨0x80, 0x8F, rfl, by omega, by omega⟩
    all_goals omega
  refine ⟨first, [second, third, fourth], rfl, fun rest => ?_⟩
  have htail : ∀ b ∈ [third, fourth], isContinuation b = true := by
    simp [isContinuation_of_toNat hthird, isContinuation_of_toNat hfourth]
  have hread := readChar_of_sequence hsequence hlo hhi htail rest
  have hbits : ((leadBits first 3 * 64 + second.toNat % 64) * 64 + third.toNat % 64) * 64 + fourth.toNat % 64 = n := by
    rw [leadBits, hfirst, hsecond, hthird, hfourth]
    · omega
    all_goals simp
  rw [← hbits]
  exact hread

/-- The bytes that spell a character are read as this character, whatever follows: one case for each number of
bytes. -/
theorem spells_utf8EncodeChar (c : Char) : Spells (String.utf8EncodeChar c) c.toNat := by
  have hvalid : c.toNat < 0xD800 ∨ 0xDFFF < c.toNat ∧ c.toNat < 0x110000 := c.valid
  have hcode : c.val.toNat = c.toNat := rfl
  rw [String.utf8EncodeChar, hcode]
  generalize c.toNat = n at hvalid ⊢
  split_ifs with hone htwo hthree
  · exact spells_one hone (toNat_ofNat_of_lt (by omega))
  · exact spells_two (by omega) htwo ((toNat_ofNat_of_lt (by omega)).trans (by omega)) (toNat_ofNat_of_lt (by omega))
  · exact spells_three (by omega) hthree (by omega) ((toNat_ofNat_of_lt (by omega)).trans (by omega))
      (toNat_ofNat_of_lt (by omega)) (toNat_ofNat_of_lt (by omega))
  · exact spells_four (by omega) (by omega) ((toNat_ofNat_of_lt (by omega)).trans (by omega))
      (toNat_ofNat_of_lt (by omega)) (toNat_ofNat_of_lt (by omega)) (toNat_ofNat_of_lt (by omega))

/-- The bytes that belong to a character already read are passed over. -/
theorem decodeFrom_append (position : Nat) (skipped rest : List UInt8) :
    decodeFrom position skipped.length (skipped ++ rest) = decodeFrom (position + skipped.length) 0 rest := by
  induction skipped generalizing position with
  | nil => rfl
  | cons b skipped ih =>
    rw [List.cons_append, List.length_cons, decodeFrom, ih, Nat.add_right_comm, Nat.add_assoc]

/-- A character is read from the front, and then the rest from behind its bytes. -/
theorem decodeFrom_utf8EncodeChar (c : Char) (position : Nat) (rest : List UInt8) :
    decodeFrom position 0 (String.utf8EncodeChar c ++ rest) =
      (decodeFrom (position + (String.utf8EncodeChar c).length) 0 rest).map (c :: ·) := by
  obtain ⟨first, more, hbytes, hread⟩ := spells_utf8EncodeChar c
  rw [hbytes, List.cons_append, decodeFrom, hread, Char.ofNat_toNat]
  dsimp only
  rw [Nat.add_sub_cancel, decodeFrom_append, List.length_cons, Nat.add_assoc, Nat.add_comm 1]

/-- What spells a text is read as this text, character by character. -/
@[simp] theorem decodeUtf8_encodeUtf8 (s : String) : decodeUtf8 (encodeUtf8 s) = .ok s := by
  have hfrom (cs : List Char) (position : Nat) :
      decodeFrom position 0 (cs.flatMap String.utf8EncodeChar) = .ok cs := by
    induction cs generalizing position with
    | nil => rfl
    | cons c cs ih => rw [List.flatMap_cons, decodeFrom_utf8EncodeChar, ih]; rfl
  rw [decodeUtf8, encodeUtf8_eq_flatMap, hfrom, Except.map, String.ofList_toList]

end ClassDiagram.Text
