import SchemaAtlas.Proofs.Yaml.Token.Line

/-!
# The tokens of an entry

A key takes two rounds: that it is a key shows only at its colon, and then the
tokens that announce it are put in front of it.  A dash takes one round, and so
does each bracket of an empty sequence.
-/

namespace SchemaAtlas.Yaml.Token.Lexer

open Scalar (blanks indentStep writeLine Suits)

variable
    {lexer here : Lexer}
    {letter : Char}
    {letters rest text more lines : List Char}
    {style : Style}
    {column parent : Nat}
    {level : Int}
    {tokens opened : List Token}
    {indents outer : List Int}

/-! ## Behind a colon or dash -/

theorem begins_of_isBare
    (bare : Scalar.IsBare letters) (present : letters ≠ []) :
    Begins (letters ++ rest) := by
  obtain ⟨first, later, rfl⟩ := List.exists_cons_of_ne_nil present
  rintro letter ⟨⟩
  have printable := bare.printable first List.mem_cons_self
  have opensNothing := bare.opensNothing
  simp only [Scalar.opensAsIndicator, Bool.or_eq_false_iff] at opensNothing
  refine ⟨?_, bare.unbroken first List.mem_cons_self, ?_,
    isPrintable_ne printable rfl⟩
  · exact isBlank_eq_false printable (bare.opensInText first rfl)
  · rintro rfl
    cases opensNothing.1.1.1

theorem exists_begins_writeLine (suits : Suits style letters) (width : Nat) :
    ∃ first later, writeLine width style letters = first :: later ∧
      Begins (first :: later) := by
  cases suits with
  | plain present bare =>
      obtain ⟨first, later, rfl⟩ := List.exists_cons_of_ne_nil present
      rw [Scalar.writeLine_plain bare]
      exact ⟨first, later ++ ['\n'], rfl, begins_of_isBare bare present⟩
  | singleQuoted single =>
      exact ⟨_, _, Scalar.writeLine_singleQuoted,
        by simp [Begins, isBlank, isBreak]⟩
  | doubleQuoted =>
      exact ⟨_, _, Scalar.writeLine_doubleQuoted,
        by simp [Begins, isBlank, isBreak]⟩
  | literal literal =>
      exact ⟨_, _, Scalar.writeLine_literal literal.present,
        by simp [Begins, isBlank, isBreak]⟩

/-- The token behind a blank is read in the place of the collection that the
colon or dash belongs to. -/
theorem Behind.exists_round
    {motive : Lexer → Prop}
    (behind : Behind lexer (' ' :: letter :: rest) tokens level outer)
    (begins : Begins (letter :: rest))
    (read : ∀ here : Lexer, here.rest = letter :: rest →
      level < here.position.column → here.Optional →
      here.tokens = tokens → here.indents = level :: outer →
      ∃ later, here.readToken letter = .ok later ∧
        later.rest.length < here.rest.length ∧ motive later) :
    ∃ later, Round lexer later ∧ motive later := by
  obtain ⟨isRest, inside, isKeys, isTokens, isIndents⟩ := behind
  have settled : lexer.settled = lexer.past (blanks 1) (letter :: rest) :=
    settled_blanks isRest begins
  have isColumn :
      lexer.settled.position.column = lexer.position.column + 1 := by
    rw [settled, position_past, Position.column_after_blanks]
  have optional : lexer.settled.Optional := by
    rw [settled]
    exact optional_of_keys isKeys
  have kept :
      lexer.settled.unroll lexer.settled.position.column = lexer.settled :=
    unroll_of_le optional.inFlow (by rw [settled]; exact isIndents) (by omega)
  have sameRest : lexer.settled.rest = letter :: rest := by
    rw [settled, rest_past]
  have sameTokens :
      (lexer.settled.unroll lexer.settled.position.column).tokens = tokens := by
    rw [kept, settled]
    exact isTokens
  have sameIndents :
      (lexer.settled.unroll lexer.settled.position.column).indents =
        level :: outer := by
    rw [kept, settled]
    exact isIndents
  apply Lexer.exists_round sameRest optional sameTokens sameIndents
  intro here isRest isPosition _ optional isTokens isIndents
  exact read here isRest (by rw [isPosition, isColumn]; omega) optional isTokens
    isIndents

theorem Behind.scalar
    (behind : Behind lexer
      (' ' :: (writeLine (parent + indentStep) style letters ++ more))
      tokens parent outer)
    (suits : Suits style letters)
    (starts : StartsBy parent more) :
    ∃ later, Round lexer later ∧
      Faces later more parent (.scalar style letters :: tokens)
        (parent :: outer) := by
  obtain ⟨column, text, shallow, line⟩ := starts
  obtain ⟨first, later, isWritten, begins⟩ :=
    exists_begins_writeLine suits (parent + indentStep)
  rw [isWritten, List.cons_append] at behind
  apply behind.exists_round
  · rintro letter ⟨⟩
    exact begins first rfl
  intro here isRest inside optional isTokens isIndents
  obtain ⟨later, read, shorter, faces⟩ :=
    exists_readToken_scalar optional isIndents (by omega) line suits shallow
      isRest (by rw [isRest, isWritten, List.cons_append])
  exact ⟨later, read, shorter, isTokens ▸ faces⟩

/-! ## Before a line -/

/-- The state in which a line is faced, with nothing left to be ended at the
line's own column. -/
theorem Faces.exists_round
    {motive : Lexer → Prop}
    (faces :
      Faces lexer (blanks column ++ letter :: rest) column tokens indents)
    (begins : Begins (letter :: rest))
    (read : ∀ here : Lexer, here.rest = letter :: rest →
      here.position.column = column → here.keyAllowed = true → here.Optional →
      here.tokens = tokens → here.indents = indents →
      ∃ later, here.readToken letter = .ok later ∧
        later.rest.length < here.rest.length ∧ motive later) :
    ∃ later, Round lexer later ∧ motive later := by
  obtain ⟨line, keyAllowed, optional, isTokens, isIndents⟩ := faces
  obtain ⟨isColumn, isText⟩ := line.unique ⟨rfl, begins⟩
  rw [← isColumn] at isTokens isIndents
  apply Lexer.exists_round isText optional isTokens isIndents
  intro here isRest isPosition isAllowed optional isTokens isIndents
  exact read here isRest (by rw [isPosition, isColumn])
    (isAllowed.trans keyAllowed) optional isTokens isIndents

/-- What a dash at the column of the innermost collection leads to. -/
theorem Faces.dash
    (faces : Faces lexer (blanks column ++ '-' :: ' ' :: more) column tokens
      (column :: outer)) :
    ∃ later, Round lexer later ∧
      Behind later (' ' :: more) (.blockEntry :: tokens) column outer := by
  apply faces.exists_round
  · simp [Begins, isBlank, isBreak]
  intro here isRest isColumn isAllowed optional isTokens isIndents
  have outside := optional.inFlow
  have isIndent : here.indent = column := indent_of_cons isIndents
  have rolled :
      here.roll here.position.column here.tokens.length .blockSequenceStart =
        here := by
    rw [roll, outside, isIndent, isColumn]
    simp
  have unmarked : atDocumentMark ('-' :: ' ' :: more) = false := rfl
  have dispatch : here.readToken '-' = here.readBlockEntry := by
    simp [readToken, unmarked, isRest, atGap, isBlank]
  have moved :
      ({ here with keys := [none], keyAllowed := true } : Lexer).skip 1 =
        ({ here with keys := [none], keyAllowed := true } : Lexer).past ['-']
          (' ' :: more) :=
    skip_one isRest
  refine ⟨({ here with keys := [none], keyAllowed := true }.past ['-']
    (' ' :: more)).emit .blockEntry, ?_, ?_, ?_⟩
  · rw [dispatch, readBlockEntry, outside, isAllowed, rolled, optional.dropKey,
      ← moved]
    rfl
  · rw [isRest]
    simp [emit]
  · have inLine : ∀ letter ∈ ['-'], isBreak letter = false := by
      simp [isBreak]
    refine ⟨rfl, ?_, rfl, congrArg _ isTokens, isIndents⟩
    show (column : Int) < (here.position.after ['-']).column
    rw [Position.after_line _ inLine, isColumn]
    exact Int.lt_succ column

/-! ## Keys -/

/-- The texts that are written as keys. -/
structure IsKey (letters : List Char) : Prop where
  present : letters ≠ []
  bare : Scalar.IsBare letters
  opensWithWord : ∀ letter ∈ letters.head?, letter ≠ '-' ∧ letter ≠ '.'
  short : Position.bytes letters ≤ longestKey

/-- A word that is not too long can be a key. -/
theorem isKey_of_isWordLetter
    (present : letters ≠ [])
    (words : ∀ letter ∈ letters, Scalar.isWordLetter letter = true)
    (short : Position.bytes letters ≤ longestKey) :
    IsKey letters where
  present := present
  bare := Scalar.isBare_of_isWordLetter words
  opensWithWord letter first := by
    obtain ⟨-, -, -, -, -, -, noDash, noPoint⟩ :=
      Scalar.isWordLetter_iff.1 (words letter (List.mem_of_head? first))
    exact ⟨noDash, noPoint⟩
  short := short

/-- How a key makes itself the next one of the mapping at its column: the
mapping is open, or it is begun. -/
inductive Opens (column : Nat) (tokens : List Token) :
    List Int → List Token → List Int → Prop
  | inside {outer : List Int} :
      Opens column tokens (column :: outer) tokens outer
  | anew {outer : List Int} :
      (∀ indent ∈ outer.head?, indent < column) →
      Opens column tokens outer (.blockMappingStart :: tokens) outer

theorem emitAt_length
    (front : List Token) (token : Token)
    (isTokens : lexer.tokens = front ++ tokens) :
    lexer.emitAt tokens.length token =
      { lexer with tokens := front ++ token :: tokens } := by
  rw [emitAt, isTokens, List.length_append, Nat.add_sub_cancel]
  simp

/-- At its colon a key is announced, and with the first key of a mapping the
mapping. -/
theorem readValue_eq
    {key : PossibleKey} {scalar : Token}
    (opens : Opens column tokens indents opened outer)
    (isKeys : lexer.keys = [some key])
    (isCount : key.tokens = tokens.length)
    (isColumn : key.position.column = column)
    (isTokens : lexer.tokens = scalar :: tokens)
    (isIndents : lexer.indents = indents) :
    lexer.readValue =
      .ok ((({ lexer with
        tokens := scalar :: .key :: opened, indents := column :: outer,
        keys := [none], keyAllowed := false } : Lexer).skip
          1).emit .value) := by
  have outside : lexer.inFlow = false := inFlow_of_keys isKeys
  have announced : lexer.emitAt key.tokens .key =
      { lexer with tokens := scalar :: .key :: tokens } := by
    rw [isCount]
    exact emitAt_length [scalar] .key isTokens
  have rolled : ({ lexer with tokens := scalar :: .key :: tokens } : Lexer).roll
      key.position.column key.tokens .blockMappingStart =
        { lexer with
          tokens := scalar :: .key :: opened, indents := column :: outer } := by
    rw [roll, isColumn, isCount]
    have outsideStill :
        ({ lexer with tokens := scalar :: .key :: tokens } : Lexer).inFlow =
          false := outside
    rw [outsideStill, if_neg Bool.false_ne_true]
    cases opens with
    | inside =>
        rw [if_neg (by simp [indent, isIndents]), ← isIndents]
    | anew deeper =>
        have isDeeper : indents.headD (-1) < (column : Int) := by
          cases indents with
          | nil =>
              exact Int.lt_of_lt_of_le (by decide) (Int.natCast_nonneg column)
          | cons indent indents => exact deeper indent rfl
        rw [if_pos (by rw [indent, isIndents]; exact isDeeper),
          emitAt_length [scalar, .key] .blockMappingStart rfl, isIndents]
        rfl
  rw [readValue, isKeys]
  simp only [announced, rolled]
  rfl

/-- The lexer stands between a key and its colon. -/
structure AtColon (lexer : Lexer) (letters more : List Char) (column : Nat)
    (tokens : List Token) (indents : List Int) (key : PossibleKey) : Prop where
  isRest : lexer.rest = ':' :: more
  isKeys : lexer.keys = [some key]
  isCount : key.tokens = tokens.length
  isColumn : key.position.column = column
  sameLine : key.position.line = lexer.position.line
  short : lexer.position.offset ≤ key.position.offset + longestKey
  inside : column < lexer.position.column
  isTokens : lexer.tokens = .scalar .plain letters :: tokens
  isIndents : lexer.indents = indents

theorem atDocumentMark_of_ne (noDash : letter ≠ '-') (noPoint : letter ≠ '.') :
    atDocumentMark (letter :: rest) = false := by
  rw [atDocumentMark]
  · rintro later ⟨⟩
    exact noDash rfl
  · rintro later ⟨⟩
    exact noPoint rfl

/-- The text of a key is a scalar like any other, but for the place that is
remembered. -/
theorem Faces.keyText
    (faces : Faces lexer (blanks column ++ (letters ++ ':' :: more))
      column tokens indents)
    (isKey : IsKey letters)
    (gap : atGap more = true) :
    ∃ later, Round lexer later ∧
      ∃ key, AtColon later letters more column tokens indents key := by
  obtain ⟨present, bare, opensWithWord, short⟩ := isKey
  obtain ⟨first, further, rfl⟩ := List.exists_cons_of_ne_nil present
  apply faces.exists_round (begins_of_isBare bare present)
  intro here isRest isColumn isAllowed optional isTokens isIndents
  have outside := optional.inFlow
  have isSplit : here.rest = (first :: further) ++ ':' :: more := isRest
  have noMark : atDocumentMark here.rest = false := by
    obtain ⟨noDash, noPoint⟩ := opensWithWord first rfl
    rw [isRest]
    exact atDocumentMark_of_ne noDash noPoint
  have dispatch : here.readToken first = here.readPlain :=
    readToken_plain bare outside isRest fun _ => noMark
  let key : PossibleKey :=
    ⟨here.indent == (here.position.column : Int), here.tokens.length,
      here.position⟩
  let kept : Lexer := { here with keys := [some key], keyAllowed := false }
  have placed := Position.after_line here.position bare.unbroken
  have read :
      Scalar.readPlain false (here.indent + 1) .none here.position.column
        here.rest = .ok (first :: further, false, ':' :: more) := by
    rw [isSplit] at noMark ⊢
    apply Scalar.readPlain_of_isBare bare
    · exact fun _ => noMark
    · exact Scalar.readPlain_colon (by rw [List.length_cons]; omega) gap
  have moved :
      kept.moveTo (':' :: more) = kept.past (first :: further) (':' :: more) :=
    moveTo_of_rest isRest
  refine ⟨(kept.past (first :: further) (':' :: more)).emit
    (.scalar .plain (first :: further)), ?_, ?_, key, ?_⟩
  · rw [dispatch, readPlain_eq (optional.saveKey_of_keyAllowed isAllowed)
      (by rw [inFlow_of_keys rfl]; exact read), ← moved]
  · rw [isSplit]
    simp only [emit, rest_past, List.length_append, List.length_cons]
    omega
  · refine
      { isRest := rfl
        isKeys := rfl
        isCount := congrArg List.length isTokens
        isColumn := isColumn
        sameLine := ?_
        short := ?_
        inside := ?_
        isTokens := congrArg _ isTokens
        isIndents := isIndents }
    · show here.position.line = (here.position.after (first :: further)).line
      rw [placed]
    · show (here.position.after (first :: further)).offset ≤
        here.position.offset + longestKey
      rw [placed]
      exact Nat.add_le_add_left short _
    · show column < (here.position.after (first :: further)).column
      rw [placed, isColumn]
      exact Nat.lt_add_of_pos_right (Nat.succ_pos _)

theorem AtColon.value
    {key : PossibleKey}
    (atColon : AtColon lexer letters more column tokens indents key)
    (opens : Opens column tokens indents opened outer)
    (gap : atGap more = true) :
    ∃ later, Round lexer later ∧
      Behind later more (.value :: .scalar .plain letters :: .key :: opened)
        column outer := by
  obtain ⟨isRest, isKeys, isCount, isColumn, sameLine, short, inside, isTokens,
    isIndents⟩ := atColon
  have outside : lexer.inFlow = false := inFlow_of_keys isKeys
  have settled : lexer.settled = lexer :=
    settled_of_begins (by rw [isRest]; simp [Begins, isBlank, isBreak])
  have inOrder : lexer.settled.dropStaleKeys = .ok lexer := by
    rw [settled]
    exact dropStaleKeys_of_fresh isKeys sameLine short
  have kept : lexer.unroll lexer.position.column = lexer := by
    have shallow :
        ∀ indent ∈ indents.head?, indent ≤ (lexer.position.column : Int) := by
      cases opens with
      | inside =>
          rintro indent ⟨⟩
          omega
      | anew deeper =>
          intro indent isFirst
          have isDeeper := deeper indent isFirst
          omega
    have unrolled :=
      @unroll_eq lexer lexer.position.column [] indents outside isIndents
        (by simp) shallow
    rw [unrolled]
    obtain ⟨⟩ := lexer
    cases isIndents
    rfl
  have notFirst : lexer.position.column ≠ 0 := by omega
  have dispatch : lexer.readToken ':' = lexer.readValue := by
    simp [readToken, notFirst, isRest, gap]
  let begun : Lexer := { lexer with
    tokens := .scalar .plain letters :: .key :: opened
    indents := column :: outer
    keys := [none], keyAllowed := false }
  have moved : begun.skip 1 = begun.past [':'] more := skip_one isRest
  refine ⟨(begun.past [':'] more).emit .value,
    ⟨?_, ':', more, lexer, inOrder, isRest, ?_⟩, ?_⟩
  · rw [isRest]
    simp [emit]
  · rw [kept, dispatch, readValue_eq opens isKeys isCount isColumn isTokens
      isIndents, ← moved]
  · have inLine : ∀ letter ∈ [':'], isBreak letter = false := by
      simp [isBreak]
    refine ⟨rfl, ?_, rfl, rfl, rfl⟩
    show (column : Int) < (lexer.position.after [':']).column
    rw [Position.after_line _ inLine]
    show (column : Int) < ((lexer.position.column + 1 : Nat) : Int)
    omega

/-- What a key leads to. -/
theorem Faces.key
    (faces : Faces lexer (blanks column ++ (letters ++ ':' :: more))
      column tokens indents)
    (isKey : IsKey letters)
    (opens : Opens column tokens indents opened outer)
    (gap : atGap more = true) :
    ∃ later, Reaches lexer later ∧
      Behind later more (.value :: .scalar .plain letters :: .key :: opened)
        column outer := by
  obtain ⟨middle, first, key, atColon⟩ := faces.keyText isKey gap
  obtain ⟨later, second, behind⟩ := atColon.value opens gap
  exact ⟨later, .tail (.single first) second, behind⟩

/-! ## Empty sequences -/

/-- The two brackets of an empty sequence are read in two rounds. -/
theorem Behind.emptySequence
    (behind :
      Behind lexer (' ' :: '[' :: ']' :: '\n' :: more) tokens parent outer)
    (starts : StartsBy parent more) :
    ∃ later, Reaches lexer later ∧
      Faces later more parent (.flowSequenceEnd :: .flowSequenceStart :: tokens)
        (parent :: outer) := by
  obtain ⟨column, text, shallow, line⟩ := starts
  have opening : ∃ middle, Round lexer middle ∧
      middle.rest = ']' :: '\n' :: more ∧
      (∃ possible : Option PossibleKey, middle.keys = [none, possible] ∧
        ∀ key ∈ possible, key.required = false) ∧
      middle.position.column ≠ 0 ∧
      middle.tokens = .flowSequenceStart :: tokens ∧
      middle.indents = (parent : Int) :: outer := by
    apply behind.exists_round
    · simp [Begins, isBlank, isBreak]
    intro here isRest inside optional isTokens isIndents
    have notFirst : here.position.column ≠ 0 := by omega
    obtain ⟨possible, free, saved⟩ :=
      exists_saveKey optional isIndents (by omega)
    have dispatch :
        here.readToken '[' = here.readFlowStart .flowSequenceStart := by
      simp [readToken, notFirst]
    let kept : Lexer :=
      { here with keys := [none, possible], keyAllowed := true }
    have moved : kept.skip 1 = kept.past ['['] (']' :: '\n' :: more) :=
      skip_one isRest
    refine ⟨(kept.past ['['] (']' :: '\n' :: more)).emit .flowSequenceStart,
      ?_, ?_, rfl, ⟨possible, rfl, free⟩, ?_, congrArg _ isTokens, isIndents⟩
    · rw [dispatch, readFlowStart, saved, ← moved]
      rfl
    · rw [isRest]
      simp [emit]
    · show (here.position.after ['[']).column ≠ 0
      rw [Position.after_line _ (by simp [isBreak])]
      exact Nat.succ_ne_zero _
  obtain ⟨middle, first, isRest, ⟨possible, isKeys, free⟩, notFirst, isTokens,
    isIndents⟩ := opening
  have settled : middle.settled = middle :=
    settled_of_begins (by rw [isRest]; simp [Begins, isBlank, isBreak])
  obtain ⟨possible, free, inOrder⟩ : ∃ possible : Option PossibleKey,
      (∀ key ∈ possible, key.required = false) ∧
        middle.settled.dropStaleKeys =
          .ok { middle with keys := [none, possible] } := by
    refine ⟨possible.filter middle.isFresh, ?_, ?_⟩
    · intro key kept
      exact free key (Option.mem_filter_iff.1 kept).1
    · rw [settled, dropStaleKeys_of_free (by simpa [isKeys] using free), isKeys]
      rfl
  let kept : Lexer := { middle with keys := [none, possible] }
  let closed : Lexer := { middle with keys := [possible], keyAllowed := false }
  have insideStill : kept.inFlow = true := by simp [kept, inFlow, flowLevel]
  have unrolled : kept.unroll kept.position.column = kept := by
    rw [unroll, insideStill, if_pos rfl]
  have dispatch : kept.readToken ']' = kept.readFlowEnd .flowSequenceEnd := by
    simp [readToken, kept, notFirst]
  have moved : closed.skip 1 = closed.past [']'] ('\n' :: more) :=
    skip_one isRest
  let later : Lexer := (closed.past [']'] ('\n' :: more)).emit .flowSequenceEnd
  have second : Round middle later := by
    refine ⟨?_, ']', '\n' :: more, kept, inOrder, isRest, ?_⟩
    · rw [isRest]
      simp [later, emit]
    · have kept_dropKey : kept.dropKey = .ok kept := rfl
      rw [unrolled, dispatch, readFlowEnd, kept_dropKey]
      simp only [bind, Except.bind, insideStill, if_true]
      exact
        congrArg (fun lexer => Except.ok (lexer.emit .flowSequenceEnd)) moved
  refine ⟨later, .tail (.single first) second, ?_⟩
  rw [← isTokens]
  exact faces_of_break ⟨possible, rfl, free⟩ isIndents (Int.le_refl _) line rfl

/-! ## The ends of collections -/

theorem Behind.faces
    {deeper : Int}
    (behind : Behind lexer ('\n' :: lines) tokens level outer)
    (isDeeper : level ≤ deeper)
    (line : Line lines column text) :
    Faces lexer lines deeper tokens (level :: outer) := by
  rw [← behind.isTokens]
  exact faces_of_break (optional_of_keys behind.isKeys) behind.isIndents
    isDeeper line behind.isRest

/-- A line that begins by an outer level ends the collection within. -/
theorem Faces.close
    {inner : Int}
    (faces : Faces lexer lines inner tokens (inner :: outer))
    (isDeeper : level < inner)
    (shallow : ∀ indent ∈ outer.head?, indent ≤ level) :
    Faces lexer lines level (.blockEnd :: tokens) outer := by
  obtain ⟨line, keyAllowed, optional, isTokens, isIndents⟩ := faces
  have outside := optional.inFlow
  -- What lay right of the inner column has been ended before.
  let ended :=
    lexer.settled.indents.takeWhile fun indent => decide (inner < indent)
  have isSplit : lexer.settled.indents = (ended ++ [inner]) ++ outer := by
    rw [unroll, outside] at isIndents
    have isRest : lexer.settled.indents.drop ended.length = inner :: outer :=
      isIndents
    have isEnded : lexer.settled.indents.take ended.length = ended :=
      List.prefix_iff_eq_take.1 (List.takeWhile_prefix _) |>.symm
    rw [List.append_assoc, List.singleton_append, ← isRest]
    exact (List.take_append_drop _ _).symm.trans (by rw [isEnded])
  have endedTokens :
      List.replicate ended.length .blockEnd ++ lexer.settled.tokens =
        tokens := by
    rw [unroll, outside] at isTokens
    exact isTokens
  have deeper : ∀ indent ∈ ended ++ [inner], level < indent := by
    intro indent mem
    rcases List.mem_append.1 mem with mem | mem
    · have isInner : decide (inner < indent) = true :=
        List.all_eq_true.1 List.all_takeWhile indent mem
      simp only [decide_eq_true_eq] at isInner
      omega
    · rw [List.mem_singleton.1 mem]
      exact isDeeper
  have unrolled := unroll_eq outside isSplit deeper shallow
  refine ⟨line, keyAllowed, optional, ?_, by rw [unrolled]⟩
  rw [unrolled, List.length_append, List.length_singleton, List.replicate_succ,
    List.cons_append]
  exact congrArg _ endedTokens

/-! ## The first and the last line -/

theorem faces_start (line : Line letters column text) :
    Faces (start letters) letters 0 [] [-1] :=
  faces_of_lines (optional_of_keys rfl) rfl (by decide) line rfl rfl rfl

/-- At the end of the text all collections are ended. -/
theorem readAll_of_end
    {kept last : Lexer} {rounds : Nat}
    (inOrder : lexer.settled.dropStaleKeys = .ok kept)
    (isRest : kept.rest = [])
    (dropped : (kept.unroll (-1)).dropKey = .ok last) :
    lexer.readAll (rounds + 1) = .ok last.tokens.reverse := by
  rw [readAll, ← settled, inOrder]
  simp only [bind, Except.bind, isRest, dropped]
  rfl

theorem Faces.readAll
    {rounds : Nat}
    (faces : Faces lexer [] (-1) tokens [-1])
    (enough : lexer.rest.length < rounds) :
    lexer.readAll rounds = .ok tokens.reverse := by
  obtain ⟨line, -, optional, isTokens, isIndents⟩ := faces
  obtain ⟨rounds, rfl⟩ : ∃ fewer, rounds = fewer + 1 := ⟨rounds - 1, by omega⟩
  obtain ⟨-, isRest⟩ := line.unique (⟨rfl, by simp [Begins]⟩ : Line [] 0 [])
  obtain ⟨possible, free, inOrder⟩ := optional.dropStaleKeys
  let kept : Lexer := { lexer.settled with keys := [possible] }
  have outside := optional.inFlow
  have outsideStill : kept.inFlow = false := inFlow_of_keys rfl
  have unrolled : (kept.unroll (-1)).tokens = tokens := by
    rw [← isTokens, unroll, unroll, outside, outsideStill]
    rfl
  have optionalEnd : (kept.unroll (-1)).Optional := by
    refine ⟨possible, ?_, free⟩
    rw [unroll, outsideStill]
    rfl
  rw [readAll_of_end inOrder isRest optionalEnd.dropKey]
  exact congrArg (fun tokens => Except.ok tokens.reverse) unrolled

end SchemaAtlas.Yaml.Token.Lexer
