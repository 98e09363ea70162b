import SchemaAtlas.Yaml.Node.Printer
import SchemaAtlas.Yaml.Node.Reader
import SchemaAtlas.Proofs.Yaml.Token.Entry

/-!
# Written documents are read back

A document of mappings, of sequences of scalars and of scalars is read back
from its text.  `Written` relates such a document to its tokens; the rounds of
the lexer collect these tokens from the text, and the reader makes the document
of them again.
-/

namespace SchemaAtlas.Yaml.Node

open Token.Lexer
open Scalar (Suits blanks indentStep writeLine AllPrintable)

variable
    {style : Style}
    {letters lines more : List Char}
    {value : Node}
    {items : List Node}
    {entries : List (Node × Node)}
    {column : Nat}
    {tokens soFar opened rest : List Token}
    {indents outer : List Int}
    {lexer : Token.Lexer}

/-! ## Documents and their tokens -/

/-- The tokens of the items of a sequence right below its key. -/
inductive WrittenItems : List Node → List Token → Prop
  | nil : WrittenItems [] []
  | cons {style : Style} {letters : List Char} {rest : List Node}
      {tokens : List Token} :
      Suits style letters → WrittenItems rest tokens →
      WrittenItems (.scalar style letters :: rest)
        (.blockEntry :: .scalar style letters :: tokens)

mutual

/-- The tokens of a value behind its key. -/
inductive Written : Node → List Token → Prop
  | scalar {style : Style} {letters : List Char} :
      Suits style letters →
      Written (.scalar style letters) [.scalar style letters]
  | emptySequence :
      Written (.sequence []) [.flowSequenceStart, .flowSequenceEnd]
  | sequence {items : List Node} {tokens : List Token} :
      items ≠ [] → WrittenItems items tokens → Written (.sequence items) tokens
  | mapping {entries : List (Node × Node)} {tokens : List Token} :
      entries ≠ [] → WrittenEntries entries tokens →
      Written (.mapping entries) (.blockMappingStart :: (tokens ++ [.blockEnd]))

/-- The tokens of the entries of a mapping. -/
inductive WrittenEntries : List (Node × Node) → List Token → Prop
  | nil : WrittenEntries [] []
  | cons {letters : List Char} {value : Node} {rest : List (Node × Node)}
      {tokens later : List Token} :
      IsKey letters → Written value tokens → WrittenEntries rest later →
      WrittenEntries ((.scalar .plain letters, value) :: rest)
        (.key :: .scalar .plain letters :: .value :: (tokens ++ later))

end

/-! ## The lines of a document -/

theorem itemLines_cons_append (items : List Node) :
    itemLines column (.scalar style letters :: items) ++ more =
      blanks column ++ '-' :: ' ' ::
        (writeLine (column + indentStep) style letters ++
          (itemLines column items ++ more)) := by
  simp [itemLines, behindDash]

theorem entryLines_cons_append (entries : List (Node × Node)) :
    entryLines column ((.scalar .plain letters, value) :: entries) ++ more =
      blanks column ++ (letters ++ ':' ::
        (behindKey column column value ++
          (entryLines column entries ++ more))) := by
  simp [entryLines, keyLetters, Scalar.write]

theorem behindKey_sequence (present : items ≠ []) :
    behindKey column column (.sequence items) =
      '\n' :: itemLines column items := by
  obtain ⟨first, later, rfl⟩ := List.exists_cons_of_ne_nil present
  rw [behindKey]
  simp

theorem behindKey_mapping (present : entries ≠ []) :
    behindKey column column (.mapping entries) =
      '\n' :: entryLines (column + indentStep) entries := by
  obtain ⟨first, later, rfl⟩ := List.exists_cons_of_ne_nil present
  rw [behindKey]
  simp

theorem atGap_behindKey (written : Written value tokens) :
    Yaml.atGap (behindKey column column value ++ more) = true := by
  cases written with
  | scalar suits => simp [behindKey, Yaml.atGap, isBlank]
  | emptySequence => simp [behindKey, Yaml.atGap, isBlank]
  | sequence present written =>
      rw [behindKey_sequence present]
      rfl
  | mapping present written =>
      rw [behindKey_mapping present]
      rfl

theorem startsBy_itemLines
    (written : WrittenItems items tokens) (starts : StartsBy column more) :
    StartsBy column (itemLines column items ++ more) := by
  cases written with
  | nil => exact starts
  | cons suits later =>
      rw [itemLines_cons_append]
      exact ⟨column, _, Nat.le_refl column, rfl,
        by simp [Begins, isBlank, isBreak]⟩

theorem startsBy_entryLines
    (written : WrittenEntries entries tokens) (starts : StartsBy column more) :
    StartsBy column (entryLines column entries ++ more) := by
  cases written with
  | nil =>
      rw [entryLines]
      exact starts
  | cons isKey written later =>
      rw [entryLines_cons_append]
      exact ⟨column, _, Nat.le_refl column, rfl,
        begins_of_isBare isKey.bare isKey.present⟩

theorem startsBy_of_le
    {deeper : Nat} (starts : StartsBy column more)
    (isDeeper : column ≤ deeper) :
    StartsBy deeper more := by
  obtain ⟨own, text, shallow, line⟩ := starts
  exact ⟨own, text, Nat.le_trans shallow isDeeper, line⟩

/-! ## From the text to the tokens -/

/-- The items of a sequence are read up to the next line left of their
dashes. -/
theorem WrittenItems.exists_reaches
    (written : WrittenItems items tokens)
    (faces : Faces lexer (itemLines column items ++ more) column soFar
      (column :: outer))
    (starts : StartsBy column more) :
    ∃ later, Reaches lexer later ∧
      Faces later more column (tokens.reverse ++ soFar) (column :: outer) := by
  induction written generalizing lexer soFar with
  | nil => exact ⟨lexer, .refl, faces⟩
  | cons suits written induction =>
      rw [itemLines_cons_append] at faces
      obtain ⟨dashed, dash, behind⟩ := faces.dash
      obtain ⟨read, item, faces⟩ :=
        behind.scalar suits (startsBy_itemLines written starts)
      obtain ⟨later, reaches, faces⟩ := induction faces
      refine ⟨later, .head dash (.head item reaches), ?_⟩
      simpa using faces

/-- What it is for a value to be read behind its key. -/
def IsReadBehindKey (value : Node) (tokens : List Token) : Prop :=
  ∀ (lexer : Token.Lexer) (column : Nat) (more : List Char) (soFar : List Token)
    (outer : List Int),
    Behind lexer (behindKey column column value ++ more) soFar column outer →
    StartsBy column more →
    ∃ later, Reaches lexer later ∧
      Faces later more column (tokens.reverse ++ soFar) (column :: outer)

/-- An entry is read up to the next line that is not right of its key. -/
theorem exists_reaches_entry
    (isKey : IsKey letters)
    (written : Written value tokens)
    (isRead : IsReadBehindKey value tokens)
    (opens : Opens column soFar indents opened outer)
    (faces : Faces lexer
      (blanks column ++
        (letters ++ ':' :: (behindKey column column value ++ more)))
      column soFar indents)
    (starts : StartsBy column more) :
    ∃ later, Reaches lexer later ∧
      Faces later more column
        ((.key :: .scalar .plain letters :: .value :: tokens).reverse ++ opened)
        (column :: outer) := by
  obtain ⟨middle, key, behind⟩ :=
    faces.key isKey opens (atGap_behindKey written)
  obtain ⟨later, reaches, faces⟩ :=
    isRead middle column more _ outer behind starts
  exact ⟨later, key.trans reaches, by simpa using faces⟩

/-- What it is for the entries of a mapping to be read. -/
def AreRead (entries : List (Node × Node)) (tokens : List Token) : Prop :=
  ∀ (lexer : Token.Lexer) (column : Nat) (more : List Char)
    (soFar opened : List Token) (indents outer : List Int),
    entries ≠ [] → Opens column soFar indents opened outer →
    Faces lexer (entryLines column entries ++ more) column soFar indents →
    StartsBy column more →
    ∃ later, Reaches lexer later ∧
      Faces later more column (tokens.reverse ++ opened) (column :: outer)

theorem isReadBehindKey_mapping
    (present : entries ≠ []) (written : WrittenEntries entries tokens)
    (areRead : AreRead entries tokens) :
    IsReadBehindKey (.mapping entries)
      (.blockMappingStart :: (tokens ++ [.blockEnd])) := by
  intro lexer column more soFar outer behind starts
  rw [behindKey_mapping present, List.cons_append] at behind
  have startsDeeper :=
    startsBy_of_le starts (Nat.le_add_right column indentStep)
  obtain ⟨own, text, -, line⟩ := startsBy_entryLines written startsDeeper
  have isDeeper : (column : Int) < ((column + indentStep : Nat) : Int) := by
    rw [indentStep]
    omega
  have faces := behind.faces (Int.le_of_lt isDeeper) line
  obtain ⟨later, reaches, faces⟩ := areRead _ _ _ _ _ _ _ present
    (.anew (by simpa using isDeeper)) faces startsDeeper
  have closed := faces.close isDeeper (by simp)
  exact ⟨later, reaches, by simpa using closed⟩

theorem areRead_cons
    {laterTokens : List Token}
    (isKey : IsKey letters)
    (written : Written value tokens)
    (writtenLater : WrittenEntries entries laterTokens)
    (isRead : IsReadBehindKey value tokens)
    (areRead : AreRead entries laterTokens) :
    AreRead ((.scalar .plain letters, value) :: entries)
      (.key :: .scalar .plain letters :: .value ::
        (tokens ++ laterTokens)) := by
  intro lexer column more soFar opened indents outer _ opens faces starts
  rw [entryLines_cons_append] at faces
  obtain ⟨middle, entry, faces⟩ :=
    exists_reaches_entry isKey written isRead opens faces
      (startsBy_entryLines writtenLater starts)
  by_cases isLast : entries = []
  · subst isLast
    cases writtenLater with
    | nil => exact ⟨middle, entry, by simpa [entryLines] using faces⟩
  · obtain ⟨later, reaches, faces⟩ :=
      areRead _ _ _ _ _ _ _ isLast .inside faces starts
    exact ⟨later, entry.trans reaches, by simpa using faces⟩

mutual

/-- A value is read behind its key. -/
theorem isReadBehindKey_of_written :
    ∀ {value : Node} {tokens : List Token},
      Written value tokens → IsReadBehindKey value tokens
  | _, _, .scalar suits => by
      intro lexer column more soFar outer behind starts
      rw [behindKey, List.cons_append] at behind
      obtain ⟨later, round, faces⟩ := behind.scalar suits starts
      exact ⟨later, .single round, faces⟩
  | _, _, .emptySequence => by
      intro lexer column more soFar outer behind starts
      rw [behindKey] at behind
      exact behind.emptySequence starts
  | _, _, .sequence present written => by
      intro lexer column more soFar outer behind starts
      rw [behindKey_sequence present, List.cons_append] at behind
      obtain ⟨own, text, -, line⟩ := startsBy_itemLines written starts
      have faces := behind.faces (Int.le_refl _) line
      exact written.exists_reaches faces starts
  | _, _, .mapping present written =>
      isReadBehindKey_mapping present written (areRead_of_written written)

/-- The entries of a mapping are read up to the next line left of their keys. -/
theorem areRead_of_written :
    ∀ {entries : List (Node × Node)} {tokens : List Token},
      WrittenEntries entries tokens → AreRead entries tokens
  | _, _, .nil => fun _ _ _ _ _ _ _ present => absurd rfl present
  | _, _, .cons isKey written later =>
      areRead_cons isKey written later (isReadBehindKey_of_written written)
        (areRead_of_written later)

end

/-! ## The letters of a document -/

theorem allPrintable_itemLines (written : WrittenItems items tokens) :
    AllPrintable (itemLines column items) := by
  induction written with
  | nil => simp [itemLines, AllPrintable]
  | cons suits _ induction =>
      rw [← List.append_nil (itemLines column _), itemLines_cons_append,
        Scalar.allPrintable_append, Scalar.allPrintable_cons,
        Scalar.allPrintable_cons, Scalar.allPrintable_append,
        List.append_nil]
      exact ⟨Scalar.allPrintable_blanks column, rfl, rfl,
        Scalar.allPrintable_writeLine _ suits, induction⟩

mutual

theorem allPrintable_behindKey :
    ∀ {value : Node} {tokens : List Token} (column : Nat),
      Written value tokens → AllPrintable (behindKey column column value)
  | _, _, column, .scalar suits => by
      rw [behindKey, Scalar.allPrintable_cons]
      exact ⟨rfl, Scalar.allPrintable_writeLine _ suits⟩
  | _, _, column, .emptySequence => by
      simp [behindKey, AllPrintable, isPrintable]
  | _, _, column, .sequence present written => by
      rw [behindKey_sequence present, Scalar.allPrintable_cons]
      exact ⟨rfl, allPrintable_itemLines written⟩
  | _, _, column, .mapping present written => by
      rw [behindKey_mapping present, Scalar.allPrintable_cons]
      exact ⟨rfl, allPrintable_entryLines _ written⟩

/-- A document is written with letters that may stand as they are. -/
theorem allPrintable_entryLines :
    ∀ {entries : List (Node × Node)} {tokens : List Token} (column : Nat),
      WrittenEntries entries tokens → AllPrintable (entryLines column entries)
  | _, _, column, .nil => by
      simp [entryLines, AllPrintable]
  | _, _, column, .cons isKey written later => by
      rw [← List.append_nil (entryLines column _), entryLines_cons_append,
        Scalar.allPrintable_append, Scalar.allPrintable_append,
        Scalar.allPrintable_cons, Scalar.allPrintable_append,
        List.append_nil]
      exact ⟨Scalar.allPrintable_blanks column, isKey.bare.printable, rfl,
        allPrintable_behindKey column written,
        allPrintable_entryLines column later⟩

end

/-- The tokens of a text are those of the document that it was written from. -/
theorem ofText_render
    (written : WrittenEntries entries tokens) (present : entries ≠ []) :
    Token.ofText (Node.mapping entries).render =
      .ok (.blockMappingStart :: (tokens ++ [.blockEnd])) := by
  have isText :
      (Node.mapping entries).documentLetters = entryLines 0 entries := by
    obtain ⟨first, later, rfl⟩ := List.exists_cons_of_ne_nil present
    rw [documentLetters]
    simp
  have allowed : (entryLines 0 entries).all isAllowed = true :=
    List.all_eq_true.2 fun letter mem =>
      isAllowed_of_isPrintable (allPrintable_entryLines 0 written letter mem)
  have ends : StartsBy 0 [] := ⟨0, [], Nat.le_refl 0, rfl, by simp [Begins]⟩
  obtain ⟨own, text, -, line⟩ := startsBy_entryLines written ends
  rw [List.append_nil] at line
  have faces :
      Faces (start (entryLines 0 entries)) (entryLines 0 entries ++ [])
        0 [] [-1] := by
    rw [List.append_nil]
    exact faces_start line
  obtain ⟨later, reaches, faces⟩ :=
    areRead_of_written written _ 0 [] [] _ _ _ present
      (.anew (by simp)) faces ends
  have closed : Faces later [] (-1)
      (.blockEnd :: (tokens.reverse ++ [.blockMappingStart])) [-1] :=
    faces.close (by decide) (by simp)
  have collected :=
    readAll_of_reaches reaches (fun rounds enough => closed.readAll enough)
      (Nat.lt_succ_self _)
  rw [Token.ofText, render, String.toList_ofList, isText, if_pos allowed]
  exact collected.trans (by simp)

/-! ## From the tokens to the document -/

variable
    {handles : Handles}
    {rounds : Nat}

theorem read_scalar
    (place : Place) (enough : 2 ≤ rounds) :
    read handles rounds place (.scalar style letters :: rest) =
      .ok (.scalar style letters, rest) := by
  obtain ⟨rounds, rfl⟩ : ∃ fewer, rounds = fewer + 2 := ⟨rounds - 2, by omega⟩
  rfl

theorem readBareItems_of_written
    (written : WrittenItems items tokens)
    (ends : rest.head? ≠ some .blockEntry)
    (enough : tokens.length < rounds) :
    readBareItems handles rounds (tokens ++ rest) = .ok (items, rest) := by
  induction written generalizing rounds with
  | nil =>
      obtain ⟨rounds, rfl⟩ : ∃ fewer, rounds = fewer + 1 :=
        ⟨rounds - 1, by simp at enough; omega⟩
      rw [List.nil_append, readBareItems]
      rintro later rfl
      exact ends rfl
  | @cons style letters items tokens suits written induction =>
      obtain ⟨rounds, rfl⟩ : ∃ fewer, rounds = fewer + 1 :=
        ⟨rounds - 1, by omega⟩
      simp only [List.length_cons] at enough
      have item :=
        @read_scalar style letters (tokens ++ rest) handles rounds .block
          (by omega)
      have later := @induction rounds (by omega)
      rw [List.cons_append, List.cons_append, readBareItems]
      simp only [orAbsent, endsBareItem, Bool.false_eq_true, if_false, bind,
        Except.bind, item, later]
      rfl

/-- The tokens of a part do not leave it out. -/
theorem endsBlockValue_of_written (written : Written value tokens) :
    endsBlockValue (tokens ++ rest) = false := by
  cases written with
  | scalar suits => rfl
  | emptySequence => rfl
  | sequence present written =>
      cases written with
      | nil => exact absurd rfl present
      | cons suits written => rfl
  | mapping present written => rfl

/-- The tokens of entries and the end of their mapping begin no further item. -/
theorem head?_ne_blockEntry (written : WrittenEntries entries tokens) :
    (tokens ++ .blockEnd :: rest).head? ≠ some .blockEntry := by
  cases written with
  | nil => simp
  | cons isKey written later => simp

theorem read_bareSequence
    (isRead : readBareItems handles rounds (.blockEntry :: tokens) =
      .ok (items, rest)) :
    read handles (rounds + 2) .blockPair (.blockEntry :: tokens) =
      .ok (.sequence items, rest) := by
  have content : readContent handles (rounds + 1) .blockPair ⟨none, none⟩
      (.blockEntry :: tokens) = .ok (.sequence items, rest) := by
    rw [readContent]
    simp only [if_true, isRead]
    rfl
  show readContent handles (rounds + 1) .blockPair ⟨none, none⟩ _ >>= _ = _
  rw [content]
  rfl

theorem read_mapping
    (place : Place) (inBlock : place ≠ .flow)
    (isRead : readBlockEntries handles rounds (tokens ++ .blockEnd :: rest) =
      .ok (entries, rest)) :
    read handles (rounds + 2) place
        (.blockMappingStart :: (tokens ++ .blockEnd :: rest)) =
      .ok (.mapping entries, rest) := by
  have content : readContent handles (rounds + 1) place ⟨none, none⟩
      (.blockMappingStart :: (tokens ++ .blockEnd :: rest)) =
        .ok (.mapping entries, rest) := by
    rw [readContent]
    simp only [if_neg inBlock, isRead]
    rfl
  show readContent handles (rounds + 1) place ⟨none, none⟩ _ >>= _ = _
  rw [content]
  rfl

theorem readBlockEntries_cons
    {laterTokens : List Token}
    (written : Written value tokens)
    (enough : 2 ≤ rounds)
    (isRead : read handles rounds .blockPair
      (tokens ++ (laterTokens ++ .blockEnd :: rest)) =
        .ok (value, laterTokens ++ .blockEnd :: rest))
    (areRead :
      readBlockEntries handles rounds (laterTokens ++ .blockEnd :: rest) =
        .ok (entries, rest)) :
    readBlockEntries handles (rounds + 1)
        (.key :: .scalar .plain letters :: .value :: (tokens ++ laterTokens) ++
          .blockEnd :: rest) =
      .ok ((.scalar .plain letters, value) :: entries, rest) := by
  have key := @read_scalar .plain letters
    (.value :: (tokens ++ (laterTokens ++ .blockEnd :: rest)))
    handles rounds .blockPair enough
  have present :=
    @endsBlockValue_of_written _ _ (laterTokens ++ .blockEnd :: rest) written
  have keyPresent : endsBlockValue (.scalar .plain letters :: .value ::
      (tokens ++ (laterTokens ++ .blockEnd :: rest))) = false := rfl
  rw [List.cons_append, List.cons_append, List.cons_append, List.append_assoc,
    readBlockEntries]
  simp only [orAbsent, keyPresent, Bool.false_eq_true, if_false, bind,
    Except.bind, key, behindColon, present, isRead, areRead]
  rfl

mutual

/-- A value is read back from its tokens. -/
theorem read_of_written :
    ∀ {value : Node} {tokens : List Token} {rounds : Nat} {rest : List Token},
      Written value tokens → rest.head? ≠ some .blockEntry →
      2 * tokens.length + 2 ≤ rounds →
      read handles rounds .blockPair (tokens ++ rest) = .ok (value, rest)
  | _, _, _, _, .scalar suits, _, enough =>
      read_scalar .blockPair (by omega)
  | _, _, rounds, rest, .emptySequence, _, enough => by
      obtain ⟨rounds, rfl⟩ : ∃ fewer, rounds = fewer + 3 :=
        ⟨rounds - 3, by simp at enough; omega⟩
      rfl
  | _, _, rounds, rest, .sequence present written, ends, enough => by
      obtain ⟨rounds, rfl⟩ : ∃ fewer, rounds = fewer + 2 :=
        ⟨rounds - 2, by omega⟩
      cases written with
      | nil => exact absurd rfl present
      | cons suits later =>
          simp only [List.length_cons] at enough
          exact read_bareSequence
            (readBareItems_of_written (.cons suits later) ends
              (by simp only [List.length_cons]; omega))
  | _, _, rounds, rest, .mapping present written, _, enough => by
      obtain ⟨rounds, rfl⟩ : ∃ fewer, rounds = fewer + 2 :=
        ⟨rounds - 2, by omega⟩
      simp only [List.length_cons, List.length_append] at enough
      have entries : readBlockEntries handles rounds (_ ++ .blockEnd :: rest) =
          .ok (_, rest) :=
        readBlockEntries_of_written written (by omega)
      simpa using read_mapping .blockPair (by decide) entries

/-- The entries of a mapping are read back from their tokens. -/
theorem readBlockEntries_of_written :
    ∀ {entries : List (Node × Node)} {tokens : List Token} {rounds : Nat}
      {rest : List Token},
      WrittenEntries entries tokens → 2 * tokens.length < rounds →
      readBlockEntries handles rounds (tokens ++ .blockEnd :: rest) =
        .ok (entries, rest)
  | _, _, rounds, rest, .nil, enough => by
      obtain ⟨rounds, rfl⟩ : ∃ fewer, rounds = fewer + 1 :=
        ⟨rounds - 1, by omega⟩
      rfl
  | _, _, rounds, rest, .cons isKey written later, enough => by
      obtain ⟨rounds, rfl⟩ : ∃ fewer, rounds = fewer + 1 :=
        ⟨rounds - 1, by omega⟩
      simp only [List.length_cons, List.length_append] at enough
      exact readBlockEntries_cons written (by omega)
        (read_of_written written (head?_ne_blockEntry later) (by omega))
        (readBlockEntries_of_written later (by omega))

end

/-- A document of mappings, sequences and scalars is read back from its text. -/
theorem ofText_render_mapping
    (written : WrittenEntries entries tokens) (present : entries ≠ []) :
    Document.ofText (Node.mapping entries).render =
      .ok (.ofNode (.mapping entries)) := by
  let all : List Token := .blockMappingStart :: (tokens ++ [.blockEnd])
  have enough : roundsFor all = (3 * tokens.length + 7) + 2 := by
    simp only [all, roundsFor, List.length_cons, List.length_append,
      List.length_nil]
    omega
  have areRead : readBlockEntries Tag.standardHandles (3 * tokens.length + 7)
      (tokens ++ [.blockEnd]) = .ok (entries, []) :=
    readBlockEntries_of_written written (by omega)
  have isRead : read Tag.standardHandles (roundsFor all) .block all =
      .ok (.mapping entries, []) := by
    rw [enough]
    exact read_mapping .block (by decide) areRead
  have content : Document.readContent all = .ok (.mapping entries, []) := isRead
  rw [Document.ofText, ofText_render written present]
  show Document.ofTokens all = _
  rw [Document.ofTokens, content]
  rfl

end SchemaAtlas.Yaml.Node
