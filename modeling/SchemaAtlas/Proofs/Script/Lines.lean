import SchemaAtlas.Script
import SchemaAtlas.Proofs.Lists

/-!
# Lines of scripts

A script is built as a list of lines and read as one text.  The lines of
that text are the lines of its parts in their order, so they are the lines
that were put in exactly if none of these holds a line break.  What a script
adds to the texts it is given, among them times and semicolons, never does.
-/

namespace SchemaAtlas

namespace Text

theorem dropEndWhile_eq_rdropWhile
    (inClass : Char → Bool) (letters : List Char) :
    dropEndWhile inClass letters = letters.rdropWhile inClass :=
  rfl

/-- The text holds no line break. -/
def OneLine (text : String) : Prop := '\n' ∉ text.toList

instance (text : String) : Decidable (OneLine text) :=
  inferInstanceAs (Decidable (¬ _))

/-- The lines of a text; there is one more of them than line breaks. -/
def lines (text : String) : List String :=
  (text.toList.splitOn '\n').map String.ofList

theorem oneLine_append {first second : String} :
    OneLine (first ++ second) ↔ OneLine first ∧ OneLine second := by
  simp only [OneLine, String.toList_append, List.mem_append, not_or]

theorem lines_of_oneLine {text : String} (oneLine : OneLine text) :
    lines text = [text] := by
  rw [lines, List.splitOn_eq_singleton oneLine]
  simp

theorem flatMap_lines
    {texts : List String} (oneLine : ∀ text ∈ texts, OneLine text) :
    texts.flatMap lines = texts := by
  induction texts with
  | nil => rfl
  | cons text texts induction =>
      rw [List.forall_mem_cons] at oneLine
      rw [List.flatMap_cons, lines_of_oneLine oneLine.1,
        induction oneLine.2]
      rfl

/-- A break ends the lines before it, and those behind it begin anew. -/
theorem lines_append_break (before after : String) :
    lines (before ++ ("\n" ++ after)) = lines before ++ lines after := by
  simp only [lines, String.toList_append]
  rw [← List.map_append, ← List.splitOn_append_cons_self]
  rfl

/-- Joined texts have the lines of the parts, one after another. -/
theorem lines_intercalate
    {parts : List String} (nonempty : parts ≠ []) :
    lines (String.intercalate "\n" parts) = parts.flatMap lines := by
  induction parts with
  | nil => exact (nonempty rfl).elim
  | cons part rest induction =>
      cases rest with
      | nil => simp
      | cons next later =>
          rw [String.intercalate_cons_cons, String.append_assoc,
            lines_append_break, induction (List.cons_ne_nil _ _)]
          rfl

theorem oneLine_or_first_break (text : String) :
    OneLine text ∨
      ∃ before after, OneLine before ∧ text = before ++ ("\n" ++ after) := by
  by_cases isBreak : '\n' ∈ text.toList
  · right
    rcases List.eq_append_cons_of_mem isBreak with
      ⟨before, after, split, noBreak⟩
    refine ⟨String.ofList before, String.ofList after, ?_, ?_⟩
    · simpa [OneLine] using noBreak
    · rw [← String.toList_inj, split]
      simp
  · exact .inl isBreak

theorem oneLine_or_last_break (text : String) :
    OneLine text ∨
      ∃ before after, OneLine after ∧ text = before ++ ("\n" ++ after) := by
  by_cases isBreak : '\n' ∈ text.toList
  · right
    rcases List.eq_append_cons_of_mem (List.mem_reverse.2 isBreak) with
      ⟨after, before, split, noBreak⟩
    refine ⟨String.ofList before.reverse, String.ofList after.reverse, ?_, ?_⟩
    · simpa [OneLine] using noBreak
    · rw [← String.toList_inj, ← List.reverse_inj, split]
      simp
  · exact .inl isBreak

/-- What is put in front of a text without a break stays in its first line. -/
theorem exists_first_line (text : String) :
    ∃ first rest, lines text = first :: rest ∧
      ∀ front, OneLine front →
        lines (front ++ text) = (front ++ first) :: rest := by
  rcases oneLine_or_first_break text with
    oneLine | ⟨before, after, oneLine, rfl⟩
  · refine ⟨text, [], lines_of_oneLine oneLine, ?_⟩
    intro front frontOneLine
    exact lines_of_oneLine (oneLine_append.2 ⟨frontOneLine, oneLine⟩)
  · refine ⟨before, lines after, ?_, ?_⟩
    · rw [lines_append_break, lines_of_oneLine oneLine]
      rfl
    · intro front frontOneLine
      rw [← String.append_assoc, lines_append_break,
        lines_of_oneLine (oneLine_append.2 ⟨frontOneLine, oneLine⟩)]
      rfl

/-- What is put behind a text without a break stays in its last line. -/
theorem exists_last_line (text : String) :
    ∃ before last, lines text = before ++ [last] ∧
      ∀ back, OneLine back →
        lines (text ++ back) = before ++ [last ++ back] := by
  rcases oneLine_or_last_break text with
    oneLine | ⟨before, after, oneLine, rfl⟩
  · refine ⟨[], text, lines_of_oneLine oneLine, ?_⟩
    intro back backOneLine
    exact lines_of_oneLine (oneLine_append.2 ⟨oneLine, backOneLine⟩)
  · refine ⟨lines before, after, ?_, ?_⟩
    · rw [lines_append_break, lines_of_oneLine oneLine]
    · intro back backOneLine
      rw [String.append_assoc, String.append_assoc, lines_append_break,
        lines_of_oneLine (oneLine_append.2 ⟨oneLine, backOneLine⟩)]

end Text

/-! ## Texts of a script -/

theorem Timestamp.padded_oneLine (width value : Nat) :
    Text.OneLine (padded width value) := by
  intro member
  rw [padded, String.toList_ofList, List.mem_append] at member
  rcases member with zero | digit
  · have isZero := List.eq_of_mem_replicate zero
    exact absurd isZero (by decide)
  · have isDigit := Nat.isDigit_of_mem_toDigits (by decide) (by decide) digit
    exact absurd isDigit (by decide)

theorem Timestamp.yearText_oneLine (year : Int) :
    Text.OneLine (yearText year) := by
  have digits := padded_oneLine 4 year.natAbs
  unfold yearText
  split
  · exact Text.oneLine_append.2 ⟨by decide, digits⟩
  · split
    · exact Text.oneLine_append.2 ⟨by decide, digits⟩
    · exact digits

theorem Timestamp.render_oneLine (time : Timestamp) :
    Text.OneLine time.render := by
  simp only [render, Text.oneLine_append, padded_oneLine, yearText_oneLine,
    true_and, and_true]
  decide

namespace Script

/-- The letters of a statement that are put into its line. -/
def keptLetters (statement : String) : List Char :=
  (statement.toList.rdropWhile Text.isBlank).rdropWhile (· == ';')

theorem toList_terminated (statement : String) :
    (terminated statement).toList = keptLetters statement ++ [';'] := by
  rw [terminated, String.toList_ofList, Text.dropEndWhile_eq_rdropWhile,
    Text.dropEndWhile_eq_rdropWhile, keptLetters]

theorem keptLetters_isPrefix (statement : String) :
    keptLetters statement <+: statement.toList :=
  (List.rdropWhile_prefix _ _).trans (List.rdropWhile_prefix _ _)

theorem terminated_oneLine
    {statement : String} (oneLine : Text.OneLine statement) :
    Text.OneLine (terminated statement) := by
  intro member
  rw [toList_terminated, List.mem_append] at member
  rcases member with kept | added
  · exact oneLine ((keptLetters_isPrefix statement).subset kept)
  · exact absurd (List.mem_singleton.1 added) (by decide)

/-- No statement is taken for a line that does not end in a semicolon. -/
theorem terminated_ne
    {line : String} (other : line.toList.getLast? ≠ some ';')
    (statement : String) :
    terminated statement ≠ line := by
  rintro rfl
  apply other
  rw [toList_terminated, List.getLast?_concat]

theorem lines_text
    {script : Script} (nonempty : script.lines ≠ []) :
    Text.lines script.text = script.lines.flatMap Text.lines :=
  Text.lines_intercalate nonempty

theorem lines_foldl_addTable (tables : List TableSchema) (script : Script) :
    (tables.foldl addTable script).lines =
      script.lines ++ tables.flatMap tableLines := by
  induction tables generalizing script with
  | nil => simp
  | cons table rest induction =>
      rw [List.foldl_cons, induction, List.flatMap_cons, addTable,
        List.append_assoc]

theorem lines_ofTables
    (banner : String) (time : Timestamp) (tables : List TableSchema) :
    (ofTables banner time tables).lines =
      bannerLine banner time ::
        (sectionLines "OPTION" ++ [terminated importDirective] ++
          tables.flatMap tableLines) := by
  rw [ofTables, lines_foldl_addTable]
  rfl

end Script

end SchemaAtlas
