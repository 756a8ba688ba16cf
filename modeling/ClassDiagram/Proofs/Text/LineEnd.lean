import ClassDiagram.Files.System
import ClassDiagram.Proofs.Text.Lines
import ClassDiagram.Proofs.Text.Utf8

namespace ClassDiagram

namespace Text

/-- What stands in a file where a line ends. -/
inductive LineEnd where
  | lf
  | crlf
  | cr
deriving Repr, DecidableEq

namespace LineEnd

/-- The characters of a line end. -/
def chars : LineEnd → List Char
  | .lf => ['\n']
  | .crlf => ['\r', '\n']
  | .cr => ['\r']

/-- The bytes of a line end. -/
def bytes : LineEnd → List UInt8
  | .lf => [0x0a]
  | .crlf => [0x0d, 0x0a]
  | .cr => [0x0d]

/-- Writes bytes with this line end in the place of each line feed. -/
def write (lineEnd : LineEnd) (bytes : List UInt8) : List UInt8 :=
  bytes.flatMap fun b => if b = 0x0a then lineEnd.bytes else [b]

/-- Writes a text with this line end in the place of each line feed. -/
def writeChars (lineEnd : LineEnd) (cs : List Char) : List Char :=
  cs.flatMap fun c => if c = '\n' then lineEnd.chars else [c]

variable {lineEnd : LineEnd}

@[simp] theorem write_lf (bytes : List UInt8) : lf.write bytes = bytes := by
  have hkept : (fun b : UInt8 => if b = 0x0a then lf.bytes else [b]) = fun b => [b] := by
    funext b
    by_cases hb : b = 0x0a <;> simp [hb, LineEnd.bytes]
  rw [write, hkept, List.flatMap_singleton']

/-- No other character than the line feed is spelled with its byte, as every byte of a longer sequence is above
127. -/
theorem not_mem_utf8EncodeChar {c : Char} (hc : c ≠ '\n') : (0x0a : UInt8) ∉ String.utf8EncodeChar c := by
  have hcode : c.val.toNat ≠ 10 := fun hsame => hc (Char.ext (UInt32.toNat_inj.mp hsame))
  have hbyte {n : Nat} (hn : n % 256 ≠ 10) : (0x0a : UInt8) ≠ UInt8.ofNat n := by
    intro hsame
    have hvalue := congrArg UInt8.toNat hsame
    rw [UInt8.toNat_ofNat'] at hvalue
    exact hn hvalue.symm
  intro hmem
  rw [String.utf8EncodeChar] at hmem
  generalize c.val.toNat = n at hcode hmem
  -- A character of several bytes has no byte below 128.
  split_ifs at hmem with hone htwo hthree <;>
    simp only [List.mem_cons, List.not_mem_nil, or_false] at hmem
  · exact hbyte (by omega) hmem
  · obtain hsame | hsame := hmem <;> exact hbyte (by omega) hsame
  · obtain hsame | hsame | hsame := hmem <;> exact hbyte (by omega) hsame
  · obtain hsame | hsame | hsame | hsame := hmem <;> exact hbyte (by omega) hsame

theorem write_utf8EncodeChar (lineEnd : LineEnd) (c : Char) :
    lineEnd.write (String.utf8EncodeChar c) =
      (if c = '\n' then lineEnd.chars else [c]).flatMap String.utf8EncodeChar := by
  by_cases hc : c = '\n'
  · rw [hc, if_pos rfl]
    cases lineEnd <;> rfl
  · rw [if_neg hc, write]
    have hbytes : ∀ b ∈ String.utf8EncodeChar c, (if b = 0x0a then lineEnd.bytes else [b]) = [b] := by
      intro b hb
      refine if_neg ?_
      rintro rfl
      exact not_mem_utf8EncodeChar hc hb
    rw [List.flatMap_congr hbytes]
    simp

/-- It makes no difference whether line ends are written into the bytes or into the text that they spell. -/
theorem write_encodeUtf8 (lineEnd : LineEnd) (text : String) :
    lineEnd.write (encodeUtf8 text) = encodeUtf8 (String.ofList (lineEnd.writeChars text.toList)) := by
  rw [encodeUtf8_eq_flatMap, encodeUtf8_ofList, writeChars, write, List.flatMap_assoc, List.flatMap_assoc]
  exact List.flatMap_congr fun c _ => write_utf8EncodeChar lineEnd c

/-- Written with carriage returns, a text has no line feed left that could pair with one. -/
theorem not_mem_writeChars_cr (cs : List Char) : '\n' ∉ cr.writeChars cs := by
  intro hmem
  obtain ⟨c, _, hc⟩ := List.mem_flatMap.mp hmem
  by_cases hend : c = '\n'
  · simp [hend, chars] at hc
  · simp [hend, Ne.symm hend] at hc

/-- A carriage return alone is a line end, as long as no line feed follows. -/
theorem unifyLineEnds_chars {cs : List Char} (hcs : lineEnd = cr → '\n' ∉ cs) :
    unifyLineEnds (lineEnd.chars ++ cs) = '\n' :: unifyLineEnds cs := by
  cases lineEnd with
  | lf => exact unifyLineEnds_cons (by simp)
  | crlf => rfl
  | cr => exact unifyLineEnds_cons fun _ hhead => hcs rfl (List.mem_of_mem_head? hhead)

/-- Whatever its line end, a text without carriage returns is read as it is. A carriage return of its own would
become a line end. -/
theorem unifyLineEnds_writeChars (lineEnd : LineEnd) {cs : List Char} (hcs : '\r' ∉ cs) :
    unifyLineEnds (lineEnd.writeChars cs) = cs := by
  induction cs with
  | nil => rfl
  | cons c cs ih =>
    rw [List.mem_cons, not_or] at hcs
    rw [writeChars, List.flatMap_cons, ← writeChars]
    by_cases hc : c = '\n'
    · have hrest : lineEnd = cr → '\n' ∉ lineEnd.writeChars cs := by
        rintro rfl
        exact not_mem_writeChars_cr cs
      rw [if_pos hc, unifyLineEnds_chars hrest, ih hcs.2, hc]
    · rw [if_neg hc, List.singleton_append, unifyLineEnds_cons fun hreturn => absurd hreturn.symm hcs.1,
        if_neg (Ne.symm hcs.1), ih hcs.2]

end LineEnd

/-- Does a text start with something else than a line feed? -/
def startsInLine (s : String) : Bool :=
  s.toList.head?.any (· ≠ '\n')

theorem startsInLine_append {s : String} (hs : startsInLine s = true) (t : String) :
    startsInLine (s ++ t) = true := by
  rw [startsInLine] at hs ⊢
  rw [String.toList_append]
  cases hcs : s.toList with
  | nil => simp [hcs] at hs
  | cons c cs => simpa [hcs] using hs

theorem head?_of_startsInLine {s : String} (hs : startsInLine s = true) : s.toList.head? ≠ some '\n' := by
  intro hhead
  simp [startsInLine, hhead] at hs

/-- Bytes that are read as the same text, and still are when the same text is added to both. What is added does not
begin with a line feed, since this would complete a line end that is half there. -/
def ReadAlike (bytes bytes' : List UInt8) : Prop :=
  ∀ more : String, more.toList.head? ≠ some '\n' →
    FileSystem.textOf (bytes ++ encodeUtf8 more) = FileSystem.textOf (bytes' ++ encodeUtf8 more)

namespace ReadAlike

variable {bytes bytes' : List UInt8}

theorem refl (bytes : List UInt8) : ReadAlike bytes bytes :=
  fun _ _ => rfl

theorem textOf_eq (halike : ReadAlike bytes bytes') : FileSystem.textOf bytes = FileSystem.textOf bytes' := by
  simpa using halike "" (by simp)

/-- What reads alike does so after a line was added to both, if the line does not begin with a line feed. A log
file can be one of the sources, so lines are added while a run goes on. -/
theorem append (halike : ReadAlike bytes bytes') {line : String} (hline : line.toList.head? ≠ some '\n') :
    ReadAlike (bytes ++ encodeUtf8 line) (bytes' ++ encodeUtf8 line) := by
  intro more hmore
  have hboth : (line ++ more).toList.head? ≠ some '\n' := by
    rw [String.toList_append]
    cases hcs : line.toList with
    | nil => exact hmore
    | cons c cs => simpa [hcs] using hline
  rw [List.append_assoc, List.append_assoc, ← encodeUtf8_append]
  exact halike _ hboth

/-- Texts that are the same once their line ends are unified are read alike, also with the same text behind
them. -/
theorem of_unifyLineEnds_eq {s t : String} (hsame : unifyLineEnds s.toList = unifyLineEnds t.toList) :
    ReadAlike (encodeUtf8 s) (encodeUtf8 t) := by
  intro more hmore
  rw [← encodeUtf8_append, ← encodeUtf8_append, FileSystem.textOf, FileSystem.textOf, decodeUtf8_encodeUtf8,
    decodeUtf8_encodeUtf8, Except.map, Except.map, String.toList_append, String.toList_append,
    unifyLineEnds_append hmore, unifyLineEnds_append hmore, hsame]

/-- A file reads the same with other line ends, if it has them replaced in a text without carriage returns. -/
theorem write {lineEnd : LineEnd}
    (htext : lineEnd ≠ .lf → ∃ text : String, bytes = encodeUtf8 text ∧ '\r' ∉ text.toList) :
    ReadAlike (lineEnd.write bytes) bytes := by
  by_cases hlf : lineEnd = .lf
  · rw [hlf, LineEnd.write_lf]
    exact .refl bytes
  · obtain ⟨text, rfl, hreturns⟩ := htext hlf
    rw [LineEnd.write_encodeUtf8]
    refine of_unifyLineEnds_eq ?_
    rw [String.toList_ofList, LineEnd.unifyLineEnds_writeChars _ hreturns, unifyLineEnds_eq_self hreturns]

end ReadAlike

end Text

end ClassDiagram
