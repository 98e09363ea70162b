import SchemaAtlas.Snapshot
import SchemaAtlas.Proofs.Folder
import SchemaAtlas.Proofs.Json.ReadBack

/-!
# Snapshots loaded from their files

The text of a snapshot is decoded to that snapshot: every text is the same
letter by letter, and every dictionary holds the same entries in the same
order.  Metadata stands two levels below the snapshot that records it, far
from the depth at which the reader gives up.

With what is known about folders, a snapshot that was written to a file is
the one that is loaded from it.
-/

namespace SchemaAtlas

open Json (Value Decoder)
open Json.Decoder

variable {depth : Nat}

namespace TableInfo

theorem texts_takes (texts : Dict String) :
    Json.Takes ((Decoder.dict .string).fromText (depth + 1))
      (textsToJson texts) texts :=
  dict_takes string_takes texts

theorem textsOrNull_takes (texts : Dict String) :
    Json.Takes (textsOrNull.fromText (depth + 1))
      (textsToJson texts) texts :=
  orNull_takes (texts_takes texts) ∅

/-- Metadata is read back from its text. -/
theorem decoder_takes (info : TableInfo) :
    Json.Takes (decoder.fromText (depth + 2)) info.toJson info := by
  apply record_takes
  · apply Json.ReadsMembers.member (enterField_eq_ok rfl rfl)
      (map_takes (textsOrNull_takes info.fields) _)
    apply Json.ReadsMembers.member (enterField_eq_ok rfl rfl)
      (map_takes (textsOrNull_takes info.indexes) _)
    apply Json.ReadsMembers.member (enterField_eq_ok rfl rfl)
      (map_takes (textsOrNull_takes info.events) _)
    exact .done _
  · rfl

end TableInfo

namespace Snapshot

/-- A snapshot is read back from its text. -/
theorem decoder_takes (snapshot : Snapshot) :
    Json.Takes (decoder.fromText (depth + 4)) snapshot.toJson snapshot := by
  apply record_takes
  · apply Json.ReadsMembers.member (enterField_eq_ok rfl rfl)
      (map_takes (TableInfo.texts_takes snapshot.tables) _)
    apply Json.ReadsMembers.member (enterField_eq_ok rfl rfl)
      (map_takes (dict_takes TableInfo.decoder_takes snapshot.info) _)
    exact .done _
  · rfl

theorem ofText_render (snapshot : Snapshot) :
    decoder.ofText snapshot.render = .ok snapshot :=
  ofText_compact snapshot.decoder_takes

/-- A file with the text of a snapshot is loaded as that snapshot. -/
theorem load_of_read
    {folder : Folder} {path : String} {snapshot : Snapshot}
    (held : folder.read path = .ok snapshot.render) :
    load folder path = .ok snapshot := by
  rw [load, held, ofFile, ofText_render]

/--
A snapshot that was written to a file is loaded from it: the same tables
with the same definitions, the same metadata under the same names, and all
entries in their order.  The write is the folder's own, so nothing is asked
of the path but that it can be written to and does not lead to the device
that keeps nothing.
-/
theorem load_of_write
    {folder changed : Folder} {path : String} (snapshot : Snapshot)
    (written : folder.write path snapshot.render = .ok changed)
    (keeps : folder.resolve path ≠ .ok Folder.nullDevice) :
    load changed path = .ok snapshot :=
  load_of_read (Folder.read_of_write written keeps)

/-- Quotes, backslashes, control characters and letters beyond ASCII. -/
theorem load_of_write_escapes :
    let info : TableInfo :=
      { fields := .ofList [("\"a\\\n", "ä\u0000"), ("", "\u001f/ \u2028")]
        indexes := ∅
        events := .ofList [("𝄞", "\t")] }
    let snapshot : Snapshot :=
      ⟨.ofList [("b\\", "\""), ("a", "DEFINE TABLE a")],
        .ofList [("c", info), ("a", .empty)]⟩
    let changed : Folder :=
      ⟨[(["old"], .file none), (["s.json"], .file (some snapshot.render))]⟩
    load changed "./s.json" = .ok snapshot := by
  intro info snapshot changed
  have written : ∀ text,
      (Folder.mk [(["old"], .file none)]).write "./s.json" text =
        .ok ⟨[(["old"], .file none), (["s.json"], .file (some text))]⟩ := by
    intro text
    rfl
  have keeps :
      (Folder.mk [(["old"], .file none)]).resolve "./s.json" ≠
        .ok Folder.nullDevice := by
    decide
  exact load_of_write snapshot (written snapshot.render) keeps

end Snapshot

end SchemaAtlas
