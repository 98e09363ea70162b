import SchemaAtlas.Proofs.Yaml.Scalar
import SchemaAtlas.Proofs.Yaml.Token.Round

/-!
# The tokens of a line

What the lexer makes of the line of a key, of an item and of a scalar.  It
either faces a line, with all collections ended that lie right of a level, or
stands right behind a colon or a dash; from each of these it comes to one of
them again.
-/

namespace SchemaAtlas.Yaml.Token.Lexer

open Scalar (blanks indentStep writeLine Suits)

variable
    {lexer here : Lexer}
    {letter : Char}
    {letters rest text more lines : List Char}
    {style : Style}
    {column : Nat}
    {level : Int}
    {tokens : List Token}
    {indents outer : List Int}

/-! ## Lines -/

/-- A line begins with its blanks; its text begins behind them. -/
structure Line (lines : List Char) (column : Nat) (text : List Char) :
    Prop where
  isLines : lines = blanks column ++ text
  begins : Begins text

theorem Line.unique
    {otherColumn : Nat} {otherText : List Char}
    (line : Line lines column text) (other : Line lines otherColumn otherText) :
    column = otherColumn ∧ text = otherText := by
  obtain ⟨rfl, begins⟩ := line
  obtain ⟨same, otherBegins⟩ := other
  have notBlank {text : List Char} {count : Nat} {further : List Char}
      (begins : Begins text) : text ≠ blanks (count + 1) ++ further := by
    rintro rfl
    cases (begins ' ' rfl).1
  induction column generalizing otherColumn with
  | zero =>
      cases otherColumn with
      | zero => exact ⟨rfl, same⟩
      | succ count => exact absurd same (notBlank begins)
  | succ column induction =>
      cases otherColumn with
      | zero => exact absurd same.symm (notBlank otherBegins)
      | succ count =>
          obtain ⟨sameColumn, sameText⟩ := induction (List.cons.inj same).2
          exact ⟨by omega, sameText⟩

/-- The next line begins at some level or left of it. -/
def StartsBy (level : Nat) (lines : List Char) : Prop :=
  ∃ column text, column ≤ level ∧ Line lines column text

/-! ## States -/

theorem indent_of_cons (isIndents : lexer.indents = level :: outer) :
    lexer.indent = level := by
  rw [indent, isIndents, List.headD_cons]

/-- The lexer faces a line, whatever gap there is before it. -/
structure Faces (lexer : Lexer) (lines : List Char) (level : Int)
    (tokens : List Token) (indents : List Int) : Prop where
  line : Line lines lexer.settled.position.column lexer.settled.rest
  keyAllowed : lexer.settled.keyAllowed = true
  optional : lexer.settled.Optional
  isTokens : (lexer.settled.unroll level).tokens = tokens
  isIndents : (lexer.settled.unroll level).indents = indents

/-- The lexer stands behind a colon or a dash that belongs to the collection
at a level. -/
structure Behind (lexer : Lexer) (text : List Char) (tokens : List Token)
    (level : Int) (outer : List Int) : Prop where
  isRest : lexer.rest = text
  inside : level < lexer.position.column
  isKeys : lexer.keys = [none]
  isTokens : lexer.tokens = tokens
  isIndents : lexer.indents = level :: outer

theorem optional_of_keys
    (isKeys : lexer.keys = [none]) : lexer.Optional :=
  ⟨none, isKeys, by simp⟩

/-- Nothing is ended at the level of the innermost collection. -/
theorem unroll_of_le
    {deeper : Int}
    (outside : lexer.inFlow = false)
    (isIndents : lexer.indents = level :: outer)
    (isDeeper : level ≤ deeper) :
    lexer.unroll deeper = lexer := by
  have kept :=
    @unroll_eq lexer deeper [] (level :: outer) outside isIndents (by simp)
      (by simpa using isDeeper)
  rw [kept]
  obtain ⟨⟩ := lexer
  cases isIndents
  rfl

section Arriving

variable
    {deeper : Int}
    (optional : lexer.Optional)
    (isIndents : lexer.indents = level :: outer)
    (isDeeper : level ≤ deeper)
    (line : Line lines column text)
include optional isIndents isDeeper line

theorem faces_of_text
    (isRest : lexer.rest = text) (isColumn : lexer.position.column = column)
    (allowed : lexer.keyAllowed = true) :
    Faces lexer lines deeper lexer.tokens (level :: outer) := by
  have here : lexer.settled = lexer :=
    settled_of_begins (by rw [isRest]; exact line.begins)
  have kept := unroll_of_le optional.inFlow isIndents isDeeper
  refine ⟨?_, ?_, ?_, ?_, ?_⟩
  · rw [here, isRest, isColumn]
    exact line
  · rw [here, allowed]
  · rw [here]
    exact optional
  · rw [here, kept]
  · rw [here, kept, isIndents]

theorem faces_of_lines
    (isRest : lexer.rest = lines) (isColumn : lexer.position.column = 0)
    (allowed : lexer.keyAllowed = true) :
    Faces lexer lines deeper lexer.tokens (level :: outer) := by
  have here : lexer.settled = lexer.past (blanks column) text :=
    settled_blanks (by rw [isRest, line.isLines]) line.begins
  have kept : (lexer.past (blanks column) text).unroll deeper =
      lexer.past (blanks column) text :=
    unroll_of_le optional.inFlow isIndents isDeeper
  refine ⟨?_, ?_, ?_, ?_, ?_⟩
  · rw [here, rest_past, position_past, Position.column_after_blanks, isColumn,
      Nat.zero_add]
    exact line
  · rw [here, keyAllowed_past, allowed]
  · rw [here]
    exact optional
  · rw [here, kept, tokens_past]
  · rw [here, kept, indents_past, isIndents]

theorem faces_of_break (isRest : lexer.rest = '\n' :: lines) :
    Faces lexer lines deeper lexer.tokens (level :: outer) := by
  let allowed : Lexer := { lexer with keyAllowed := true }
  have here : lexer.settled = allowed.past ('\n' :: blanks column) text :=
    settled_line (by rw [isRest, line.isLines]) line.begins optional.inFlow
  have kept : (allowed.past ('\n' :: blanks column) text).unroll deeper =
      allowed.past ('\n' :: blanks column) text :=
    unroll_of_le optional.inFlow isIndents isDeeper
  have isColumn :
      (lexer.position.after ('\n' :: blanks column)).column = column := by
    rw [Position.after_cons _ (by decide), Position.column_after_blanks]
    exact Nat.zero_add column
  refine ⟨?_, ?_, ?_, ?_, ?_⟩
  · rw [here, rest_past, position_past, isColumn]
    exact line
  · rw [here, keyAllowed_past]
  · rw [here]
    exact optional
  · rw [here, kept, tokens_past]
  · rw [here, kept, indents_past, isIndents]

end Arriving

/-! ## One round -/

theorem length_skipGap_le (rounds : Nat) (lexer : Lexer) :
    (lexer.skipGap rounds).rest.length ≤ lexer.rest.length := by
  induction rounds generalizing lexer with
  | zero => exact Nat.le_refl _
  | succ rounds induction =>
      rw [skipGap]
      split
      · exact Nat.le_refl _
      next letter rest isRest =>
        split
        · have shorter := induction (lexer.moveTo rest)
          simp only [moveTo, isRest, List.length_cons] at *
          omega
        · split
          · have shorter := induction
              (lexer.moveTo (rest.dropWhile fun letter => !isBreak letter))
            have fewer := (List.dropWhile_sublist
              (l := rest) (fun letter => !isBreak letter)).length_le
            simp only [moveTo, isRest, List.length_cons] at *
            omega
          · split
            next found further taken =>
              have shorter := induction
                { lexer.moveTo further with
                  keyAllowed := (lexer.moveTo further).keyAllowed ||
                    !(lexer.moveTo further).inFlow }
              have fewer := length_of_takeBreak taken
              simp only [moveTo, isRest, List.length_cons] at *
              omega
            · exact Nat.le_refl _

/-- A round is what reading one token does to the state in which all that comes
before it is in order. -/
theorem exists_round
    {motive : Lexer → Prop}
    (isRest : lexer.settled.rest = letter :: rest)
    (optional : lexer.settled.Optional)
    (isTokens :
      (lexer.settled.unroll lexer.settled.position.column).tokens = tokens)
    (isIndents :
      (lexer.settled.unroll lexer.settled.position.column).indents = indents)
    (read : ∀ here : Lexer, here.rest = letter :: rest →
      here.position = lexer.settled.position →
      here.keyAllowed = lexer.settled.keyAllowed → here.Optional →
      here.tokens = tokens → here.indents = indents →
      ∃ later, here.readToken letter = .ok later ∧
        later.rest.length < here.rest.length ∧ motive later) :
    ∃ later, Round lexer later ∧ motive later := by
  obtain ⟨possible, notRequired, inOrder⟩ := optional.dropStaleKeys
  have outside := optional.inFlow
  have outsideKept :
      ({ lexer.settled with keys := [possible] } : Lexer).inFlow = false :=
    inFlow_of_keys rfl
  have kept : ({ lexer.settled with keys := [possible] } : Lexer).unroll
      lexer.settled.position.column =
        { lexer.settled.unroll lexer.settled.position.column with
          keys := [possible] } := by
    rw [unroll, unroll, outside, outsideKept]
    rfl
  have sameRest : (lexer.settled.unroll lexer.settled.position.column).rest =
      lexer.settled.rest := by
    rw [unroll, outside]
    rfl
  have samePosition :
      (lexer.settled.unroll lexer.settled.position.column).position =
        lexer.settled.position := by
    rw [unroll, outside]
    rfl
  have sameAllowed :
      (lexer.settled.unroll lexer.settled.position.column).keyAllowed =
        lexer.settled.keyAllowed := by
    rw [unroll, outside]
    rfl
  obtain ⟨later, reads, shorter, holds⟩ := read
    { lexer.settled.unroll lexer.settled.position.column with
      keys := [possible] }
    (sameRest.trans isRest) samePosition sameAllowed
    ⟨possible, rfl, notRequired⟩ isTokens isIndents
  have short := length_skipGap_le (lexer.rest.length + 1) lexer
  refine ⟨later, ⟨?_, letter, rest, _, inOrder, isRest, ?_⟩, holds⟩
  · simp only [sameRest] at shorter
    exact Nat.lt_of_lt_of_le shorter short
  · rw [kept]
    exact reads

/-! ## Tokens by their first letter -/

theorem Optional.saveKey
    (optional : lexer.Optional)
    (notRequired : lexer.indent ≠ (lexer.position.column : Int)) :
    ∃ possible : Option PossibleKey,
      (∀ key ∈ possible, key.required = false) ∧
        lexer.saveKey = .ok { lexer with keys := [possible] } := by
  by_cases allowed : lexer.keyAllowed = true
  · refine ⟨_, ?_, optional.saveKey_of_keyAllowed allowed⟩
    rintro key ⟨⟩
    simpa using notRequired
  · obtain ⟨possible, isKeys, free⟩ := optional
    refine ⟨possible, free, ?_⟩
    rw [saveKey_of_not_keyAllowed (by simpa using allowed), ← isKeys]

theorem readToken_singleQuote (notFirst : here.position.column ≠ 0) :
    here.readToken '\'' = here.readQuoted .singleQuoted := by
  simp [readToken, notFirst]

theorem readToken_doubleQuote (notFirst : here.position.column ≠ 0) :
    here.readToken '"' = here.readQuoted .doubleQuoted := by
  simp [readToken, notFirst]

theorem readToken_bar
    (outside : here.inFlow = false) (notFirst : here.position.column ≠ 0) :
    here.readToken '|' = here.readBlockText .literal := by
  simp [readToken, notFirst, outside]

theorem readToken_plain
    {stop : List Char}
    (bare : Scalar.IsBare (letter :: letters))
    (outside : here.inFlow = false)
    (isRest : here.rest = letter :: (letters ++ stop))
    (unmarked : here.position.column = 0 → atDocumentMark here.rest = false) :
    here.readToken letter = here.readPlain := by
  have opensNothing := bare.opensNothing
  simp only [Scalar.opensAsIndicator, Bool.or_eq_false_iff] at opensNothing
  obtain ⟨⟨⟨noOpening, marksNothing⟩, -⟩, -⟩ := opensNothing
  have inLine : isBreak letter = false :=
    bare.unbroken letter List.mem_cons_self
  have notBlank : isBlank letter = false :=
    isBlank_eq_false (bare.printable letter List.mem_cons_self)
      (bare.opensInText letter rfl)
  have goesOn : (letter = '?' ∨ letter = ':') ∨ letter = '-' →
      atGap (letters ++ stop) = false := by
    intro mark
    cases letters with
    | nil =>
        rcases mark with (rfl | rfl) | rfl
        · cases marksNothing
        · cases marksNothing
        · cases marksNothing
    | cons next later => simpa [atGap, mark] using marksNothing
  have notIndicator : letter ∉ Scalar.openingIndicators := by
    simpa using noOpening
  have plain : here.atPlain = true := by
    simp only [atPlain, isRest]
    by_cases dash : letter = '-'
    · have noGap := goesOn (.inr dash)
      cases isLater : letters ++ stop with
      | nil => simp [isLater, atGap] at noGap
      | cons next later =>
          simp only [isLater, atGap, Bool.or_eq_false_iff] at noGap
          simp [dash, noGap.1]
    by_cases mark : letter = '?' ∨ letter = ':'
    · have noGap := goesOn (.inl mark)
      simp [outside, noGap, mark]
    · simp only [not_or] at mark
      simp [notBlank, inLine, notIndicator, dash, mark]
  simp only [Scalar.openingIndicators, List.mem_cons, List.not_mem_nil,
    or_false, not_or] at notIndicator
  have noMark :
      (decide (here.position.column = 0) && atDocumentMark here.rest) =
        false := by
    simpa using unmarked
  have noEntry :
      (decide (letter = '-') && atGap (here.rest.drop 1)) = false := by
    simpa [isRest] using fun dash => goesOn (.inr dash)
  have noKey :
      (decide (letter = '?') && (here.inFlow || atGap (here.rest.drop 1))) =
        false := by
    simpa [isRest, outside] using fun mark => goesOn (.inl (.inl mark))
  have noValue :
      (decide (letter = ':') && (here.inFlow || atGap (here.rest.drop 1))) =
        false := by
    simpa [isRest, outside] using fun mark => goesOn (.inl (.inr mark))
  rw [readToken]
  simp only [noMark, noEntry, noKey, noValue, plain, notIndicator, decide_false,
    Bool.and_false, Bool.false_and, Bool.false_eq_true, if_false, if_true]

/-! ## Scalars -/

theorem readQuoted_eq
    {kept : Lexer}
    (saved : lexer.saveKey = .ok kept)
    (read : (if style = .singleQuoted then
        Scalar.readSingleQuoted .none false (kept.rest.drop 1)
      else
        Scalar.readDoubleQuoted ((kept.rest.drop 1).length + 1) .none false
          (kept.rest.drop 1)) = .ok (letters, rest)) :
    lexer.readQuoted style =
      .ok (({ kept with keyAllowed := false }.moveTo rest).emit
        (.scalar style letters)) := by
  rw [readQuoted, saved]
  simp only [bind, Except.bind, pure, Except.pure]
  by_cases single : style = .singleQuoted
  · rw [if_pos single] at read ⊢
    rw [read]
  · rw [if_neg single] at read ⊢
    rw [read]

theorem readPlain_eq
    {kept : Lexer} {broken : Bool}
    (saved : lexer.saveKey = .ok kept)
    (read :
      Scalar.readPlain kept.inFlow (kept.indent + 1) .none kept.position.column
        kept.rest = .ok (letters, broken, rest)) :
    lexer.readPlain =
      .ok (({ kept with keyAllowed := broken }.moveTo rest).emit
        (.scalar .plain letters)) := by
  rw [readPlain, saved]
  simp only [bind, Except.bind, read]
  rfl

theorem readBlockText_eq
    {kept : Lexer}
    (dropped : lexer.dropKey = .ok kept)
    (read : Scalar.readBlock true kept.indent (kept.rest.drop 1) =
      .ok (letters, rest)) :
    lexer.readBlockText .literal =
      .ok (({ kept with keyAllowed := true }.moveTo rest).emit
        (.scalar .literal letters)) := by
  have isLiteral : (Style.literal == Style.literal) = true := rfl
  rw [readBlockText, dropped]
  simp only [bind, Except.bind, isLiteral, read]
  rfl

section Scalars

variable
    {parent : Nat}
    (optional : here.Optional)
    (isIndents : here.indents = (parent : Int) :: outer)
include optional isIndents

/-- A literal block ends at its last line break. -/
theorem exists_readBlockText
    (line : Line more column text)
    (literal : Scalar.IsLiteral letters)
    (shallow : column ≤ parent)
    (isRest : here.rest =
      writeLine (parent + indentStep) .literal letters ++ more) :
    ∃ later, here.readBlockText .literal = .ok later ∧
      later.rest.length < here.rest.length ∧
        Faces later more parent (.scalar .literal letters :: here.tokens)
          (parent :: outer) := by
  let kept : Lexer := { here with keys := [none], keyAllowed := true }
  have moved : kept.moveTo more =
      kept.past (writeLine (parent + indentStep) .literal letters) more :=
    moveTo_of_rest isRest
  have isIndent : here.indent = parent := indent_of_cons isIndents
  have read :
      Scalar.readBlock true here.indent (here.rest.drop 1) =
        .ok (letters, more) := by
    rw [isRest, isIndent, Scalar.writeLine_literal literal.present,
      line.isLines]
    simp only [List.cons_append, List.drop_one, List.tail_cons,
      List.append_assoc]
    exact Scalar.readBlock_of_isLiteral literal (by rw [indentStep]; omega)
      line.begins.inText
  have isColumn : (here.position.after
      (writeLine (parent + indentStep) .literal letters)).column = 0 := by
    obtain ⟨front, last, isWritten, ends⟩ :=
      Scalar.exists_writeLine (parent + indentStep) .literal letters
    have printable := Scalar.allPrintable_writeLine (parent + indentStep)
      (Scalar.Suits.literal literal)
    rw [isWritten] at printable ⊢
    rw [Position.after_append]
    · exact Position.column_after_break _
        (isPrintable_ne (printable last (by simp)) rfl) ends
    · intro letter mem
      exact isPrintable_ne (printable letter (by simp [mem])) rfl
  refine ⟨_, readBlockText_eq optional.dropKey read, ?_, ?_⟩
  · show (kept.moveTo more).rest.length < here.rest.length
    rw [moved, rest_past, isRest, Scalar.writeLine_literal literal.present]
    simp only [List.length_cons, List.length_append]
    omega
  · show Faces ((kept.moveTo more).emit _) _ _ _ _
    rw [moved]
    exact faces_of_lines (optional_of_keys rfl) isIndents (Int.le_refl _) line
      rfl isColumn rfl

variable (inside : parent < here.position.column)
include inside

theorem exists_saveKey :
    ∃ possible : Option PossibleKey,
      (∀ key ∈ possible, key.required = false) ∧
        here.saveKey = .ok { here with keys := [possible] } := by
  apply optional.saveKey
  rw [indent_of_cons isIndents]
  omega

variable (line : Line more column text)
include line

/-- A quoted scalar ends at its quote, before the end of the line. -/
theorem exists_readQuoted
    {quote : Char} {written : List Char}
    (isRest : here.rest = quote :: (written ++ '\n' :: more))
    (read : (if style = .singleQuoted then
        Scalar.readSingleQuoted .none false (written ++ '\n' :: more)
      else
        Scalar.readDoubleQuoted ((written ++ '\n' :: more).length + 1) .none
          false (written ++ '\n' :: more)) = .ok (letters, '\n' :: more)) :
    ∃ later, here.readQuoted style = .ok later ∧
      later.rest.length < here.rest.length ∧
        Faces later more parent (.scalar style letters :: here.tokens)
          (parent :: outer) := by
  obtain ⟨possible, free, saved⟩ := exists_saveKey optional isIndents inside
  let kept : Lexer := { here with keys := [possible], keyAllowed := false }
  have moved :
      kept.moveTo ('\n' :: more) =
        kept.past (quote :: written) ('\n' :: more) :=
    moveTo_of_rest isRest
  have behind : here.rest.drop 1 = written ++ '\n' :: more := by
    rw [isRest]
    rfl
  refine ⟨_, readQuoted_eq saved (by rw [behind]; exact read), ?_, ?_⟩
  · show (kept.moveTo ('\n' :: more)).rest.length < here.rest.length
    rw [moved, rest_past, isRest]
    simp only [List.length_cons, List.length_append]
    omega
  · show Faces ((kept.moveTo ('\n' :: more)).emit _) _ _ _ _
    rw [moved]
    exact
      faces_of_break ⟨possible, rfl, free⟩ isIndents (Int.le_refl _) line rfl

/-- A bare scalar ends where the next line begins. -/
theorem exists_readPlain
    (bare : Scalar.IsBare letters)
    (shallow : column ≤ parent)
    (isRest : here.rest = letters ++ '\n' :: more) :
    ∃ later, here.readPlain = .ok later ∧
      later.rest.length < here.rest.length ∧
        Faces later more parent (.scalar .plain letters :: here.tokens)
          (parent :: outer) := by
  obtain ⟨possible, free, saved⟩ := exists_saveKey optional isIndents inside
  let kept : Lexer := { here with keys := [possible], keyAllowed := true }
  have isSplit : here.rest = (letters ++ '\n' :: blanks column) ++ text := by
    rw [isRest, line.isLines]
    simp
  have moved :
      kept.moveTo text = kept.past (letters ++ '\n' :: blanks column) text :=
    moveTo_of_rest isSplit
  have read :
      Scalar.readPlain false ((parent : Int) + 1) .none here.position.column
        (letters ++ '\n' :: more) = .ok (letters, true, text) := by
    apply Scalar.readPlain_of_isBare bare
    · intro first
      omega
    · rw [line.isLines]
      exact Scalar.readPlain_line (by omega) line.begins.inText
  have noReturn : ∀ letter ∈ letters, letter ≠ '\r' := fun letter mem =>
    isPrintable_ne (bare.printable letter mem) rfl
  have isColumn :
      (here.position.after (letters ++ '\n' :: blanks column)).column =
        column := by
    rw [Position.after_append _ noReturn, Position.after_cons _ (by decide),
      Position.column_after_blanks]
    exact Nat.zero_add column
  have isIndent : here.indent = parent := indent_of_cons isIndents
  have result := readPlain_eq saved
    (by rw [inFlow_of_keys rfl]; rw [← isRest, ← isIndent] at read; exact read)
  refine ⟨_, result, ?_, ?_⟩
  · show (kept.moveTo text).rest.length < here.rest.length
    rw [moved, rest_past, isSplit]
    simp only [List.length_cons, List.length_append]
    omega
  · show Faces ((kept.moveTo text).emit _) _ _ _ _
    rw [moved]
    exact faces_of_text ⟨possible, rfl, free⟩ isIndents (Int.le_refl _) line rfl
      isColumn rfl

/-- The scalar behind a colon or dash is read up to the next line. -/
theorem exists_readToken_scalar
    (suits : Suits style letters)
    (shallow : column ≤ parent)
    (isRest : here.rest = letter :: rest)
    (isWritten :
      here.rest = writeLine (parent + indentStep) style letters ++ more) :
    ∃ later, here.readToken letter = .ok later ∧
      later.rest.length < here.rest.length ∧
        Faces later more parent (.scalar style letters :: here.tokens)
          (parent :: outer) := by
  have notFirst : here.position.column ≠ 0 := by omega
  have outside := optional.inFlow
  cases suits with
  | plain present bare =>
      obtain ⟨first, further, rfl⟩ := List.exists_cons_of_ne_nil present
      rw [Scalar.writeLine_plain bare, List.append_assoc,
        List.singleton_append] at isWritten
      obtain ⟨rfl, -⟩ := List.cons.inj (isRest.symm.trans isWritten)
      rw [readToken_plain bare outside isWritten
        (fun first => absurd first notFirst)]
      exact
        exists_readPlain optional isIndents inside line bare shallow isWritten
  | singleQuoted single =>
      rw [Scalar.writeLine_singleQuoted, List.cons_append,
        List.append_assoc] at isWritten
      obtain ⟨rfl, -⟩ := List.cons.inj (isRest.symm.trans isWritten)
      rw [readToken_singleQuote notFirst]
      have isQuoted : here.rest = '\'' ::
          ((Scalar.singleQuotedLetters (parent + indentStep) false letters ++
            ['\'']) ++ '\n' :: more) := by
        rw [isWritten]
        simp
      apply exists_readQuoted optional isIndents inside line isQuoted
      rw [if_pos rfl, List.append_assoc, List.singleton_append]
      exact Scalar.readSingleQuoted_of_isSingle (by rw [indentStep]; omega)
        (by simp) single
  | doubleQuoted =>
      rw [Scalar.writeLine_doubleQuoted, List.cons_append,
        List.append_assoc] at isWritten
      obtain ⟨rfl, -⟩ := List.cons.inj (isRest.symm.trans isWritten)
      rw [readToken_doubleQuote notFirst]
      have isQuoted : here.rest = '"' ::
          ((letters.flatMap Scalar.doubleQuotedLetter ++ ['"']) ++
            '\n' :: more) := by
        rw [isWritten]
        simp
      apply exists_readQuoted optional isIndents inside line isQuoted
      rw [if_neg (by decide), List.append_assoc, List.singleton_append]
      have longer := Scalar.length_le_flatMap_doubleQuotedLetter letters
      exact Scalar.readDoubleQuoted_letters rfl
        (by simp only [List.length_append]; omega)
  | literal literal =>
      have opens := isWritten
      rw [Scalar.writeLine_literal literal.present, List.cons_append] at opens
      obtain ⟨rfl, -⟩ := List.cons.inj (isRest.symm.trans opens)
      rw [readToken_bar outside notFirst]
      exact
        exists_readBlockText optional isIndents line literal shallow isWritten

end Scalars

end SchemaAtlas.Yaml.Token.Lexer
