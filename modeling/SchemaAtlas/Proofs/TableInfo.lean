import SchemaAtlas.TableInfo
import SchemaAtlas.Proofs.Dict
import SchemaAtlas.Proofs.Outcome

/-!
# Metadata read back from values

Metadata that is turned into a JSON value is decoded from that value as it
was, with the entries of its three dictionaries in their order.
-/

namespace SchemaAtlas

open Json (Value Decoder)

/--
A dictionary is read back from its object if every value is read back from
what stands for it there.
-/
theorem Json.Decoder.dict_fromValue
    {α : Type} {item : Decoder α} {write : α → Value}
    (readsBack : ∀ value, item.fromValue (write value) = .ok value)
    (dict : Dict α) :
    (Decoder.dict item).fromValue
        (.object (dict.entries.map fun entry => (entry.1, write entry.2))) =
      .ok dict := by
  have readEntries :
      (dict.entries.map fun entry => (entry.1, write entry.2)).mapM
          (fun entry => do pure (entry.1, ← item.fromValue entry.2)) =
        (Except.ok dict.entries : Except Json.Fault _) := by
    rw [Except.mapM_eq_ok_iff, List.forall₂_map_left_iff, List.forall₂_same]
    intro entry _
    simp only [readsBack]
    rfl
  change (List.mapM (fun entry : String × Value => do
    pure (entry.1, ← item.fromValue entry.2)) _ >>=
      fun pairs => pure (Dict.ofList pairs)) = _
  rw [readEntries]
  exact congrArg Except.ok (Dict.ofList_entries dict)

namespace TableInfo

theorem texts_fromValue (texts : Dict String) :
    (Decoder.dict .string).fromValue (textsToJson texts) = .ok texts :=
  Decoder.dict_fromValue (fun _ => rfl) texts

theorem textsOrNull_fromValue (texts : Dict String) :
    textsOrNull.fromValue (textsToJson texts) = .ok texts :=
  texts_fromValue texts

/-- Metadata is read back from its value. -/
theorem decoder_fromValue (info : TableInfo) :
    decoder.fromValue info.toJson = .ok info := by
  simp only [decoder, toJson, Decoder.record, Decoder.fieldsOfMembers,
    Decoder.map]
  simp [textsOrNull_fromValue, Except.map, bind, Except.bind, pure,
    Except.pure]

end TableInfo

end SchemaAtlas
