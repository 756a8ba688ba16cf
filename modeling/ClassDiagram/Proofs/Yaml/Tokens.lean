import ClassDiagram.Yaml.Token.Scan

namespace ClassDiagram.Yaml

/-- If the result is a failure, its fault is one of these. -/
def FailsAs {α : Type} (allowed : Fault → Prop) (result : Except Fault α) : Prop :=
  ∀ fault, result = .error fault → allowed fault

namespace FailsAs

variable {α β : Type} {allowed : Fault → Prop}

theorem ok (a : α) : FailsAs allowed (.ok a) := nofun

theorem pure (a : α) : FailsAs allowed (Pure.pure a : Except Fault α) := nofun

theorem error {fault : Fault} (hfault : allowed fault) : FailsAs allowed (.error fault : Except Fault α) := by
  rintro _ ⟨⟩
  exact hfault

/-- Two steps in a row fail as each of them does, the second on whatever the first gives. -/
theorem bind {result : Except Fault α} {next : α → Except Fault β} (hresult : FailsAs allowed result)
    (hnext : ∀ a, FailsAs allowed (next a)) : FailsAs allowed (result >>= next) := by
  cases result with
  | error fault =>
    rintro _ ⟨⟩
    exact hresult fault rfl
  | ok a => exact hnext a

theorem map {result : Except Fault α} (hresult : FailsAs allowed result) (f : α → β) :
    FailsAs allowed (result.map f) := by
  cases result with
  | error fault =>
    rintro _ ⟨⟩
    exact hresult fault rfl
  | ok a => exact nofun

theorem ite {condition : Prop} [Decidable condition] {yes no : Except Fault α} (hyes : FailsAs allowed yes)
    (hno : FailsAs allowed no) : FailsAs allowed (if condition then yes else no) := by
  split
  · exact hyes
  · exact hno

theorem mono {fewer : Fault → Prop} {result : Except Fault α} (hresult : FailsAs fewer result)
    (hfewer : ∀ fault, fewer fault → allowed fault) : FailsAs allowed result :=
  fun fault hfault => hfewer fault (hresult fault hfault)

end FailsAs

/-- A plain malformation, or an escape that names no character. -/
def Fault.IsOfToken (fault : Fault) : Prop :=
  fault = .malformed ∨ fault = .codePoint ∨ fault = .codePointOverflow

/-- Whatever goes wrong here is a fault of tokens. -/
abbrev TokenSafe {α : Type} (result : Except Fault α) : Prop :=
  FailsAs Fault.IsOfToken result

theorem tokenSafe_malformed {α : Type} : TokenSafe (.error .malformed : Except Fault α) :=
  .error (.inl rfl)

/-- The only faults of tokens that are told apart: the number of an escape may lie beyond the last character, and
then it may also be too large for a machine number. -/
theorem tokenSafe_charOfNumber (n : Nat) : TokenSafe (charOfNumber n) := by
  unfold charOfNumber
  apply FailsAs.ite
  · exact .ok _
  · apply FailsAs.ite
    · exact .error (.inr (.inl rfl))
    · exact .error (.inr (.inr rfl))

theorem tokenSafe_quotedBreaks (n : Nat) (c : Cursor) : TokenSafe (quotedBreaks n c) := by
  induction n generalizing c with
  | zero => exact .ok _
  | succ n ih =>
    rw [quotedBreaks]
    apply FailsAs.ite
    · exact tokenSafe_malformed
    · dsimp only
      split
      · exact .ok _
      · apply FailsAs.bind (ih _)
        intro found
        exact .ok _

theorem tokenSafe_quotedSpaces (c : Cursor) : TokenSafe (quotedSpaces c) := by
  rw [quotedSpaces]
  dsimp only
  split
  · exact .ok _
  · apply FailsAs.bind (tokenSafe_quotedBreaks _ _)
    intro found
    exact .ok _

/-- An escape is a letter for a character, a number in hexadecimal digits, or a line end that is to be passed
over. Only the number can fail otherwise than by a plain malformation. -/
theorem tokenSafe_escape (c : Cursor) : TokenSafe (escape c) := by
  rw [escape]
  split
  · exact tokenSafe_malformed
  · split
    · exact .ok _
    · split
      · dsimp only
        split
        · exact tokenSafe_malformed
        · next n _ => exact (tokenSafe_charOfNumber n).map _
      · exact .ite (tokenSafe_quotedBreaks _ _) tokenSafe_malformed

/-- The rest of a quoted text goes from one part to the next: plain characters, blanks and line ends, and in
double quotes escapes. -/
theorem tokenSafe_quotedRest (isDouble : Bool) (n : Nat) (c : Cursor) : TokenSafe (quotedRest isDouble n c) := by
  induction n generalizing c with
  | zero => exact tokenSafe_malformed
  | succ n ih =>
    have hmore (text : List Char) (c : Cursor) :
        TokenSafe (quotedRest isDouble n c >>= fun found => .ok (text ++ found.1, found.2)) := by
      apply FailsAs.bind (ih c)
      intro found
      exact .ok _
    rw [quotedRest]
    split
    · exact tokenSafe_malformed
    · apply FailsAs.ite
      · apply FailsAs.bind (tokenSafe_quotedSpaces c)
        intro found
        exact hmore found.1 found.2
      · apply FailsAs.ite
        · -- In double quotes: the closing quote, an escape, or any other character.
          apply FailsAs.ite
          · exact .ok _
          · apply FailsAs.ite
            · apply FailsAs.bind (tokenSafe_escape c.next)
              intro found
              exact hmore found.1 found.2
            · exact hmore _ _
        · apply FailsAs.ite
          · exact .ite (hmore _ _) (.ok _)
          · exact hmore _ _

theorem tokenSafe_blockHeader (c : Cursor) : TokenSafe (blockHeader c) := by
  rw [blockHeader]
  apply FailsAs.ite
  · exact tokenSafe_malformed
  · exact .ite (.ok _) tokenSafe_malformed

/-- A text in block form can only fail in its first line, where indentation and line ends are marked. -/
theorem tokenSafe_blockScalar (isFolded : Bool) (least : Nat) (c : Cursor) :
    TokenSafe (blockScalar isFolded least c) := by
  apply FailsAs.bind (tokenSafe_blockHeader c.next)
  intro header
  exact .ite (.ok _) (.ok _)

theorem tokenSafe_name (c : Cursor) : TokenSafe (name c) := by
  rw [name]
  exact .ite tokenSafe_malformed (.ok _)

theorem tokenSafe_anchorName (c : Cursor) : TokenSafe (anchorName c) := by
  apply FailsAs.bind (tokenSafe_name c.next)
  intro found
  exact .ite (.ok _) tokenSafe_malformed

theorem tokenSafe_tagEscapes (n : Nat) (c : Cursor) : TokenSafe (tagEscapes n c) := by
  induction n generalizing c with
  | zero => exact .ok _
  | succ n ih =>
    rw [tagEscapes]
    apply FailsAs.ite
    · exact .ok _
    · dsimp only
      split
      · exact tokenSafe_malformed
      · apply FailsAs.bind (ih _)
        intro found
        exact .ok _

/-- The text of a tag may hold bytes in percent escapes. They have to spell characters, and where they do not the
fault is a plain malformation like any other. -/
theorem tokenSafe_tagText (n : Nat) (c : Cursor) : TokenSafe (tagText n c) := by
  induction n generalizing c with
  | zero => exact .ok _
  | succ n ih =>
    rw [tagText]
    split
    · exact .ok _
    · apply FailsAs.ite
      · apply FailsAs.bind (tokenSafe_tagEscapes _ _)
        intro found
        dsimp only
        split
        · exact tokenSafe_malformed
        · apply FailsAs.bind (ih _)
          intro more
          exact .ok _
      · apply FailsAs.ite
        · apply FailsAs.bind (ih _)
          intro more
          exact .ok _
        · exact .ok _

theorem tokenSafe_tagUri (c : Cursor) : TokenSafe (tagUri c) := by
  rw [tagUri]
  apply FailsAs.ite
  · apply FailsAs.bind (tokenSafe_tagText _ _)
    intro found
    exact .ok _
  · exact tokenSafe_malformed

theorem tokenSafe_tagHandle (c : Cursor) : TokenSafe (tagHandle c) := by
  rw [tagHandle]
  apply FailsAs.ite
  · exact tokenSafe_malformed
  · apply FailsAs.ite
    · exact .ok _
    · exact .ite (.ok _) tokenSafe_malformed

theorem tokenSafe_verbatimTag (c : Cursor) : TokenSafe (verbatimTag c) := by
  unfold verbatimTag
  apply FailsAs.bind (tokenSafe_tagUri c)
  intro found
  exact .ite (.ok _) tokenSafe_malformed

theorem tokenSafe_handledTag (c : Cursor) : TokenSafe (handledTag c) := by
  rw [handledTag]
  apply FailsAs.ite
  · apply FailsAs.bind (tokenSafe_tagHandle c)
    intro handle
    apply FailsAs.bind (tokenSafe_tagUri handle.2)
    intro suffix
    exact .ok _
  · apply FailsAs.bind (tokenSafe_tagUri c.next)
    intro suffix
    exact .ok _

/-- A tag is written out in angle brackets, is a lone exclamation mark, or begins with a handle. Whichever form it
has, a word has to end behind it. -/
theorem tokenSafe_tag (c : Cursor) : TokenSafe (tag c) := by
  have hended (found : Token × Cursor) : TokenSafe
      (if endsField found.2.head? then .ok (found.1, found.2) else .error .malformed) :=
    .ite (.ok _) tokenSafe_malformed
  rw [tag]
  apply FailsAs.ite
  · apply FailsAs.bind (tokenSafe_verbatimTag _)
    intro found
    exact hended found
  · apply FailsAs.ite
    · exact hended (.tag none "!", c.next)
    · apply FailsAs.bind (tokenSafe_handledTag c)
      intro found
      exact hended found

theorem tokenSafe_versionNumber (c : Cursor) : TokenSafe (versionNumber c) := by
  rw [versionNumber]
  exact .ite tokenSafe_malformed (.ok _)

theorem tokenSafe_versionDirective (c : Cursor) : TokenSafe (versionDirective c) := by
  unfold versionDirective
  apply FailsAs.bind (tokenSafe_versionNumber _)
  intro major
  apply FailsAs.ite
  · exact tokenSafe_malformed
  · apply FailsAs.bind (tokenSafe_versionNumber _)
    intro minor
    exact .ite (.ok _) tokenSafe_malformed

theorem tokenSafe_handleDirective (c : Cursor) : TokenSafe (handleDirective c) := by
  unfold handleDirective
  apply FailsAs.bind (tokenSafe_tagHandle _)
  intro handle
  apply FailsAs.ite
  · exact tokenSafe_malformed
  · apply FailsAs.bind (tokenSafe_tagUri _)
    intro expansion
    exact .ite (.ok _) tokenSafe_malformed

/-- Directives give a version or a handle, and every slip in them is a plain malformation. -/
theorem tokenSafe_directive (c : Cursor) : TokenSafe (directive c) := by
  unfold directive
  apply FailsAs.bind (tokenSafe_name c.next)
  intro word
  apply FailsAs.ite
  · exact tokenSafe_malformed
  · -- Directives of other names are passed over up to the end of their line, which every directive has to reach.
    apply FailsAs.ite
    · apply FailsAs.bind (tokenSafe_versionDirective word.2)
      intro found
      exact .ite (.ok _) tokenSafe_malformed
    · apply FailsAs.ite
      · apply FailsAs.bind (tokenSafe_handleDirective word.2)
        intro found
        exact .ite (.ok _) tokenSafe_malformed
      · exact .ite (.ok _) tokenSafe_malformed

namespace Scanner

theorem tokenSafe_dropKey (s : Scanner) : TokenSafe s.dropKey := by
  rw [dropKey]
  exact .ite tokenSafe_malformed (.ok _)

/-- Most tokens forget a pending key first and are then certain: whatever is done to the scanner afterwards cannot
fail any more. -/
theorem tokenSafe_dropKey_bind (s : Scanner) (next : Scanner → Scanner) :
    TokenSafe (s.dropKey >>= fun s => .ok (next s)) := by
  apply FailsAs.bind (tokenSafe_dropKey s)
  intro dropped
  exact .ok _

/-- A key that was possible at an earlier place and has to be one is missing its colon, which is a malformation. -/
theorem tokenSafe_dropStaleKeys (s : Scanner) : TokenSafe s.dropStaleKeys := by
  rw [dropStaleKeys]
  exact .ite tokenSafe_malformed (.ok _)

theorem tokenSafe_saveKey (s : Scanner) : TokenSafe s.saveKey := by
  rw [saveKey]
  apply FailsAs.ite
  · exact .ok _
  · exact tokenSafe_dropKey_bind s _

theorem tokenSafe_saveKey_bind (s : Scanner) (next : Scanner → Scanner) :
    TokenSafe (s.saveKey >>= fun s => .ok (next s)) := by
  apply FailsAs.bind (tokenSafe_saveKey s)
  intro saved
  exact .ok _

theorem tokenSafe_dash (s : Scanner) : TokenSafe s.dash := by
  rw [dash]
  apply FailsAs.ite
  · exact tokenSafe_malformed
  · exact tokenSafe_dropKey_bind _ _

theorem tokenSafe_questionMark (s : Scanner) : TokenSafe s.questionMark := by
  rw [questionMark]
  apply FailsAs.ite
  · exact tokenSafe_malformed
  · exact tokenSafe_dropKey_bind _ _

theorem tokenSafe_colon (s : Scanner) : TokenSafe s.colon := by
  rw [colon]
  split
  · exact .ok _
  · apply FailsAs.ite
    · exact tokenSafe_malformed
    · exact tokenSafe_dropKey_bind _ _

/-- A token with which a key may start fails as its own text does: noting the place of the key fails only where
another key is required there, which is a malformation. -/
theorem tokenSafe_keyStart (s : Scanner) {scan : Cursor → Except Fault (Token × Cursor)}
    (hscan : ∀ c, TokenSafe (scan c)) : TokenSafe (s.keyStart scan) := by
  unfold keyStart
  apply FailsAs.bind (tokenSafe_saveKey s)
  intro saved
  apply FailsAs.bind (hscan saved.cursor)
  intro found
  exact .ok _

theorem tokenSafe_block (s : Scanner) (isFolded : Bool) : TokenSafe (s.block isFolded) := by
  unfold block
  apply FailsAs.bind (tokenSafe_dropKey s)
  intro dropped
  apply FailsAs.bind (tokenSafe_blockScalar _ _ _)
  intro found
  exact .ok _

theorem tokenSafe_directiveLine (s : Scanner) : TokenSafe s.directiveLine := by
  unfold directiveLine
  apply FailsAs.bind (tokenSafe_dropKey _)
  intro dropped
  apply FailsAs.bind (tokenSafe_directive dropped.cursor)
  intro found
  exact .ok _

/-- Whichever token a character starts, reading it fails as tokens fail. One case for each character that can
start one. -/
theorem tokenSafe_fetch (s : Scanner) (c : Char) : TokenSafe (s.fetch c) := by
  have hquoted (isDouble : Bool) (c : Cursor) : TokenSafe
      (quotedScalar isDouble c >>= fun found => .ok (Token.scalar (String.ofList found.1) false, found.2)) := by
    apply FailsAs.bind (tokenSafe_quotedRest isDouble _ _)
    intro found
    exact .ok _
  have hnamed (make : String → Token) (c : Cursor) : TokenSafe
      (anchorName c >>= fun found => .ok (make found.1, found.2)) := by
    apply FailsAs.bind (tokenSafe_anchorName c)
    intro found
    exact .ok _
  unfold fetch
  dsimp only
  -- One step for each kind of token, in the order in which they are tried.
  apply FailsAs.ite (tokenSafe_directiveLine s)
  apply FailsAs.ite (tokenSafe_dropKey_bind _ _)
  apply FailsAs.ite (tokenSafe_dropKey_bind _ _)
  apply FailsAs.ite (tokenSafe_saveKey_bind s _)
  apply FailsAs.ite (tokenSafe_saveKey_bind s _)
  apply FailsAs.ite (tokenSafe_dropKey_bind s _)
  apply FailsAs.ite (tokenSafe_dropKey_bind s _)
  apply FailsAs.ite (tokenSafe_dropKey_bind s _)
  apply FailsAs.ite (tokenSafe_dash s)
  apply FailsAs.ite (tokenSafe_questionMark s)
  apply FailsAs.ite (tokenSafe_colon s)
  apply FailsAs.ite (tokenSafe_keyStart s (hnamed .alias))
  apply FailsAs.ite (tokenSafe_keyStart s (hnamed .anchor))
  apply FailsAs.ite (tokenSafe_keyStart s tokenSafe_tag)
  apply FailsAs.ite (tokenSafe_block s false)
  apply FailsAs.ite (tokenSafe_block s true)
  apply FailsAs.ite (tokenSafe_keyStart s (hquoted false))
  apply FailsAs.ite (tokenSafe_keyStart s (hquoted true))
  apply FailsAs.ite (tokenSafe_saveKey_bind s _)
  exact tokenSafe_malformed

/-- One step of the scanner: blanks are passed over, keys that are no longer possible are dropped, and one token
is read. -/
theorem tokenSafe_step (s : Scanner) : TokenSafe s.step := by
  unfold step
  apply FailsAs.bind (tokenSafe_dropStaleKeys _)
  intro fresh
  dsimp only
  split
  · apply FailsAs.bind (tokenSafe_fetch _ _)
    intro next
    exact .pure _
  · apply FailsAs.bind (tokenSafe_dropKey _)
    intro next
    exact .pure _

/-- A run of the scanner ends with the fault of one of its steps, if it does not come to the end of the text. -/
theorem run_fault (n : Nat) (s : Scanner) {fault : Fault} (hfault : (run n s).fault = some fault) :
    fault.IsOfToken := by
  induction n generalizing s with
  | zero => cases hfault
  | succ n ih =>
    rw [run] at hfault
    split at hfault
    · next hstep =>
      cases hfault
      exact tokenSafe_step s _ hstep
    · split at hfault
      · cases hfault
      · exact ih _ hfault

end Scanner

/-- A text that cannot be cut into tokens is malformed, or has an escape that names no character. -/
theorem ofText_fault {text : List Char} {fault : Fault} (hfault : (TokenStream.ofText text).fault = some fault) :
    fault.IsOfToken := by
  rw [TokenStream.ofText] at hfault
  split at hfault
  · exact Scanner.run_fault _ _ hfault
  · cases hfault
    exact .inl rfl

end ClassDiagram.Yaml
