import SchemaAtlas.Settings.File
import SchemaAtlas.Proofs.Folder
import SchemaAtlas.Proofs.Yaml.Node

/-!
# Settings loaded from their files

The text of settings is a mapping with a word for every setting, whatever the
settings are, so none of them is left to its standard value when the text is
read again.  The texts among them come back letter by letter: each gets a form
that suits it, and a form that is not bare where the text would be read as
something else.

With what is known about folders, settings that were saved to a file are the
ones that are loaded from it.
-/

namespace SchemaAtlas

open Yaml (Node Document Token Fault)
open Yaml.Node (Written WrittenItems WrittenEntries)

/-! ## Single settings in a document -/

namespace Yaml.Document

variable (document : Document)

theorem text_ofString (text : String) :
    document.text (.ofString text) = .ok text := by
  show Except.ok (String.ofList text.toList) = _
  rw [String.ofList_toList]

theorem mapM_text_ofString (texts : List String) :
    (texts.map Node.ofString).mapM document.text = .ok texts := by
  induction texts with
  | nil => rfl
  | cons text later induction =>
      rw [List.map_cons, List.mapM_cons, text_ofString, induction]
      rfl

theorem count_ofNat {value : Nat} (fits : value < 2 ^ 64) :
    document.count (.ofNat value) = .ok value := by
  have isTarget : document.target (.ofNat value) = .ofNat value := rfl
  have isBare :
      (Node.ofNat value).bare = .scalar .plain (Nat.toDigits 10 value) := rfl
  rw [count, isTarget, isBare]
  simp only [Scalar.unsigned?_toDigits]
  rw [if_pos (by simpa [isNumeral] using fits)]

/-- A field that has not been seen before is taken from a mapping. -/
theorem fields_cons
    {σ : Type}
    {field? : String → Option ((σ → Bool) × (Node → Except Fault (σ → σ)))}
    {name : String} {value : Node} {rest : List (Node × Node)} {state : σ}
    {seen : σ → Bool} {read : Node → Except Fault (σ → σ)} {change : σ → σ}
    (known : field? name = some (seen, read))
    (fresh : seen state = false)
    (isRead : read value = .ok change) :
    document.fields field? ((.ofString name, value) :: rest) state =
      document.fields field? rest (change state) := by
  rw [fields, text_ofString]
  simp only [bind, Except.bind, known, fresh, Bool.false_eq_true, if_false,
    isRead]

end Yaml.Document

/-! ## The document of settings -/

namespace ExportSettings

/-- Export settings are read back from their part of a document. -/
theorem ofPart_toNode
    (document : Document) (settings : ExportSettings)
    (fits : settings.maxConcurrent < 2 ^ 64) :
    ofPart document settings.toNode = .ok settings := by
  have extensions :
      ((document.items (.sequence (settings.extensions.map .ofString))).bind
        fun items => items.mapM document.text) = .ok settings.extensions :=
    document.mapM_text_ofString settings.extensions
  show (document.fields (field? document) _ .nothing >>= fun given =>
    pure given.completed) = Except.ok settings
  rw [document.fields_cons rfl rfl (by rw [document.text_ofString]; rfl),
    document.fields_cons rfl rfl (by rw [document.text_ofString]; rfl),
    document.fields_cons rfl rfl (by rw [document.text_ofString]; rfl),
    document.fields_cons rfl rfl (by rw [extensions]; rfl),
    document.fields_cons rfl rfl (by rw [document.text_ofString]; rfl),
    document.fields_cons rfl rfl (by rw [document.count_ofNat fits]; rfl)]
  rfl

end ExportSettings

namespace Settings

variable (settings : Settings)

/-- Settings are read back from their document. -/
theorem ofDocument_toNode (fits : settings.exporting.maxConcurrent < 2 ^ 64) :
    ofDocument (.ofNode settings.toNode) = .ok settings := by
  let document := Document.ofNode settings.toNode
  show (document.fields (field? document) _ none >>= fun exporting =>
    pure ⟨exporting.getD .standard⟩) = Except.ok settings
  rw [document.fields_cons rfl rfl
    (by rw [settings.exporting.ofPart_toNode document fits]; rfl)]
  rfl

/-! ## The text of settings -/

/-- A setting whose name is a word can be written. -/
theorem exists_writtenEntries_cons
    {name : String} {value : Node} {rest : List (Node × Node)}
    (plain : Yaml.Scalar.styleOf name = .plain)
    (words : name.toList.all Yaml.Scalar.isWordLetter = true)
    (present : name.toList ≠ [])
    (short : Token.Position.bytes name.toList ≤ Token.Lexer.longestKey)
    (written : ∃ tokens, Written value tokens)
    (later : ∃ tokens, WrittenEntries rest tokens) :
    ∃ tokens, WrittenEntries ((.ofString name, value) :: rest) tokens := by
  obtain ⟨tokens, written⟩ := written
  obtain ⟨laterTokens, later⟩ := later
  have isKey :=
    Token.Lexer.isKey_of_isWordLetter present (List.all_eq_true.1 words) short
  rw [Node.ofString, plain]
  exact ⟨_, .cons isKey written later⟩

theorem exists_written_ofString (text : String) :
    ∃ tokens, Written (.ofString text) tokens :=
  ⟨_, .scalar (Yaml.Scalar.suits_styleOf text)⟩

theorem exists_written_ofNat (value : Nat) :
    ∃ tokens, Written (.ofNat value) tokens :=
  ⟨_, .scalar (Yaml.Scalar.suits_toDigits value)⟩

theorem exists_writtenItems_ofStrings (texts : List String) :
    ∃ tokens, WrittenItems (texts.map .ofString) tokens := by
  induction texts with
  | nil => exact ⟨_, .nil⟩
  | cons text later induction =>
      obtain ⟨tokens, written⟩ := induction
      exact ⟨_, .cons (Yaml.Scalar.suits_styleOf text) written⟩

theorem exists_written_ofStrings (texts : List String) :
    ∃ tokens, Written (.sequence (texts.map .ofString)) tokens := by
  by_cases empty : texts = []
  · subst empty
    exact ⟨_, .emptySequence⟩
  · obtain ⟨tokens, written⟩ := exists_writtenItems_ofStrings texts
    exact ⟨_, .sequence (by simpa using empty) written⟩

theorem exists_written_toNode (settings : ExportSettings) :
    ∃ tokens, Written settings.toNode tokens := by
  have entries : ∃ tokens, WrittenEntries
      [ (.ofString "dialog_title", .ofString settings.dialogTitle),
        (.ofString "default_file_name", .ofString settings.defaultFileName),
        (.ofString "filter_name", .ofString settings.filterName),
        (.ofString "extensions",
          .sequence (settings.extensions.map Node.ofString)),
        (.ofString "banner", .ofString settings.banner),
        (.ofString "max_concurrent_table_queries",
          .ofNat settings.maxConcurrent) ]
      tokens := by
    apply exists_writtenEntries_cons (by decide) (by decide) (by decide)
      (by decide) (exists_written_ofString _)
    apply exists_writtenEntries_cons (by decide) (by decide) (by decide)
      (by decide) (exists_written_ofString _)
    apply exists_writtenEntries_cons (by decide) (by decide) (by decide)
      (by decide) (exists_written_ofString _)
    apply exists_writtenEntries_cons (by decide) (by decide) (by decide)
      (by decide) (exists_written_ofStrings _)
    apply exists_writtenEntries_cons (by decide) (by decide) (by decide)
      (by decide) (exists_written_ofString _)
    apply exists_writtenEntries_cons (by decide) (by decide) (by decide)
      (by decide) (exists_written_ofNat _)
    exact ⟨_, .nil⟩
  obtain ⟨tokens, entries⟩ := entries
  exact ⟨_, .mapping (by simp) entries⟩

/-- Settings are read back from their text, every one of them as it was. -/
theorem ofYaml_toYaml (fits : settings.exporting.maxConcurrent < 2 ^ 64) :
    ofYaml settings.toYaml = .ok settings := by
  obtain ⟨tokens, entries⟩ : ∃ tokens, WrittenEntries
      [(.ofString "export", settings.exporting.toNode)] tokens :=
    exists_writtenEntries_cons (by decide) (by decide) (by decide) (by decide)
      (exists_written_toNode settings.exporting) ⟨_, .nil⟩
  have read : Document.ofText settings.toYaml = .ok (.ofNode settings.toNode) :=
    Node.ofText_render_mapping entries (by simp)
  have parsed :
      (Document.ofText settings.toYaml).bind ofDocument = .ok settings := by
    rw [read]
    exact ofDocument_toNode settings fits
  rw [ofYaml, parsed]

/-- A file is loaded as the settings in its text. -/
theorem load_of_read
    {folder : Folder} {path text : String} {settings : Settings}
    (held : folder.read path = .ok text)
    (isRead : ofYaml text = .ok settings) :
    load folder path = .ok settings := by
  rw [load, held, ofFile, isRead]

/--
Settings that are saved to a file are loaded from it, each of them as it was:
every text letter by letter, whatever it reads like, the extensions in their
order, were it none, and the count.  The count is one of 64 bits; nothing is
asked of the path but that it can be written to and does not lead to the device
that keeps nothing.
-/
theorem load_of_save
    {folder changed : Folder} {path : String}
    (fits : settings.exporting.maxConcurrent < 2 ^ 64)
    (written : folder.write path settings.toYaml = .ok changed)
    (keeps : folder.resolve path ≠ .ok Folder.nullDevice) :
    settings.save folder path = .ok changed ∧
      load changed path = .ok settings := by
  constructor
  · rw [save, written]
  · exact load_of_read (Folder.read_of_write written keeps)
      (ofYaml_toYaml settings fits)

/-- Texts that read like something else, with quotes, colons, blanks and line
breaks. -/
theorem load_of_save_awkward :
    let settings : Settings :=
      ⟨{  dialogTitle := ""
          defaultFileName := "null"
          filterName := " 'it''s': \"#1\"\t"
          extensions :=
            ["", "0x1F", "true", "- a", "\n", "  b\n\n c\n", "d \n", "ü\u0007"]
          banner := "~\nline: 1\n  # line 2"
          maxConcurrent := 2 ^ 64 - 1 }⟩
    let changed : Folder :=
      ⟨[(["old"], .file none), (["s.yaml"], .file (some settings.toYaml))]⟩
    settings.save ⟨[(["old"], .file none)]⟩ "./s.yaml" = .ok changed ∧
      load changed "./s.yaml" = .ok settings := by
  intro settings changed
  have written : ∀ text,
      (Folder.mk [(["old"], .file none)]).write "./s.yaml" text =
        .ok ⟨[(["old"], .file none), (["s.yaml"], .file (some text))]⟩ := by
    intro text
    rfl
  have keeps :
      (Folder.mk [(["old"], .file none)]).resolve "./s.yaml" ≠
        .ok Folder.nullDevice := by
    have place : (Folder.mk [(["old"], .file none)]).resolve "./s.yaml" =
        .ok ["s.yaml"] :=
      rfl
    simp [place, Folder.nullDevice]
  have fits : settings.exporting.maxConcurrent < 2 ^ 64 := by
    decide
  exact load_of_save settings fits (written settings.toYaml) keeps

end Settings

end SchemaAtlas
