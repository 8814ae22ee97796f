import Relational.Description.Read
import Relational.Proofs.Json.RoundTrip

namespace Relational

namespace Json

def optionalMember (key : String) : Option String → List (String × Json)
  | some s => [(key, .text s)]
  | none => []

theorem mapM_decode {α β : Type} {decode : Json → Decoded β} {write : α → Json} {f : α → β}
    (h : ∀ a, decode (write a).sorted = .ok (f a)) (as : List α) :
    (sortedItems (as.map write)).mapM decode = .ok (as.map f) := by
  induction as
  case nil => rfl
  case cons a as hi =>
    rw [List.map_cons, sortedItems, List.mapM_cons, h, hi]
    rfl

end Json

open Json (insertMember decodeList optionalMember)

namespace ColumnRecord

def toJson (c : ColumnRecord) : Json :=
  .object [
    ("name", .text c.name), ("type", .text c.type), ("primaryKey", .bool c.primaryKey),
    ("autoIncrement", .bool c.autoIncrement)]

theorem textual_toJson (c : ColumnRecord) : c.toJson.Textual 1 := by
  refine .object fun m hm => ?_
  simp only [List.mem_cons, List.not_mem_nil, or_false] at hm
  obtain rfl | rfl | rfl | rfl := hm
  all_goals constructor

theorem sorted_toJson (c : ColumnRecord) : c.toJson.sorted =
    .object [
      ("autoIncrement", .bool c.autoIncrement), ("name", .text c.name),
      ("primaryKey", .bool c.primaryKey), ("type", .text c.type)] := by
  rfl

theorem decodeColumn_toJson (c : ColumnRecord) :
    Description.decodeColumn c.toJson.sorted = .ok c := by
  rw [sorted_toJson]
  rfl

end ColumnRecord

namespace RelationshipRecord

def toJson (r : RelationshipRecord) : Json :=
  .object <|
    optionalMember "relationshipType" r.kind ++
    [("relatedTable", .text r.relatedTable), ("foreignKey", .text r.foreignKey)] ++
    optionalMember "relatedForeignKey" r.relatedForeignKey ++
    optionalMember "throughTable" r.throughTable ++ [("junction", .bool r.junction)]

theorem textual_toJson (r : RelationshipRecord) : r.toJson.Textual 1 := by
  have ho (key : String) (o : Option String) : ∀ m ∈ optionalMember key o, m.2.Textual 0 := by
    cases o
    case none => simp [optionalMember]
    case some => simpa [optionalMember] using .text
  refine .object fun m hm => ?_
  simp only [List.mem_append, List.mem_cons, List.not_mem_nil, or_false] at hm
  obtain (((h | rfl | rfl) | h) | h) | rfl := hm
  all_goals first | exact ho _ _ m h | constructor

theorem sorted_toJson (r : RelationshipRecord) : r.toJson.sorted =
    .object (
      [("foreignKey", .text r.foreignKey), ("junction", .bool r.junction)] ++
      optionalMember "relatedForeignKey" r.relatedForeignKey ++
      [("relatedTable", .text r.relatedTable)] ++ optionalMember "relationshipType" r.kind ++
      optionalMember "throughTable" r.throughTable) := by
  obtain ⟨kind, _, _, relatedForeignKey, throughTable, _⟩ := r
  cases kind <;> cases relatedForeignKey <;> cases throughTable <;> rfl

theorem decodeRelationship_toJson (r : RelationshipRecord) :
    Description.decodeRelationship r.toJson.sorted = .ok r := by
  rw [sorted_toJson]
  obtain ⟨kind, relatedTable, foreignKey, relatedForeignKey, throughTable, junction⟩ := r
  cases kind <;> cases relatedForeignKey <;> cases throughTable <;> rfl

end RelationshipRecord

namespace TableRecord

def toJson (t : TableRecord) : Json :=
  .object [
    ("tableName", .text t.name), ("joinTable", .bool t.joinTable),
    ("columns", .array (t.columns.map (·.toJson))),
    ("relationships", .array (t.relationships.map (·.toJson)))]

theorem textual_toJson (t : TableRecord) : t.toJson.Textual 3 := by
  refine .object fun m hm => ?_
  simp only [List.mem_cons, List.not_mem_nil, or_false] at hm
  obtain rfl | rfl | rfl | rfl := hm
  case inl | inr.inl => constructor
  case inr.inr.inl => exact .array_map ColumnRecord.textual_toJson _
  case inr.inr.inr => exact .array_map RelationshipRecord.textual_toJson _

theorem sorted_toJson (t : TableRecord) : t.toJson.sorted =
    .object [
      ("columns", .array (Json.sortedItems (t.columns.map (·.toJson)))),
      ("joinTable", .bool t.joinTable),
      ("relationships", .array (Json.sortedItems (t.relationships.map (·.toJson)))),
      ("tableName", .text t.name)] := by
  rfl

theorem decodeTable_toJson (t : TableRecord) :
    Description.decodeTable t.toJson.sorted = .ok t := by
  have hc := Json.mapM_decode (f := id) ColumnRecord.decodeColumn_toJson t.columns
  have hr := Json.mapM_decode (f := id) RelationshipRecord.decodeRelationship_toJson t.relationships
  rw [sorted_toJson]
  simp [Description.decodeTable, Json.Shape.decode, Description.TableDraft.shape,
    Description.TableDraft.enter, Json.fillOnce, decodeList, Json.decodeOption, hc, hr]
  rfl

end TableRecord

namespace Description

def jsonOf (records : List TableRecord) : Json :=
  .array (records.map (·.toJson))

def jsonBytes (records : List TableRecord) : ByteArray :=
  (jsonOf records).toCompactText.toUTF8

theorem textual_jsonOf (records : List TableRecord) : (jsonOf records).Textual 4 :=
  .array_map TableRecord.textual_toJson records

theorem decodeTables_sortedItems {α : Type} {write : α → Json} {f : α → TableRecord}
    (h : ∀ a, decodeTable (write a).sorted = .ok (f a)) (place : Nat) (as : List α) :
    decodeTables place (Json.sortedItems (as.map write)) = .ok (as.map f) := by
  induction as generalizing place
  case nil => rfl
  case cons a as hi =>
    rw [List.map_cons, Json.sortedItems, decodeTables, h]
    simp only [hi]
    rfl

theorem fromUTF8?_toUTF8 (s : String) : String.fromUTF8? s.toUTF8 = some s := by
  have h : s.toUTF8.IsValidUTF8 := s.isValidUTF8
  rw [String.fromUTF8?, dif_pos h]
  rfl

theorem readJson_jsonBytes (records : List TableRecord) :
    readJson (jsonBytes records) = .ok records := by
  have hp := (textual_jsonOf records).parse_compact (by decide)
  rw [readJson, jsonBytes, fromUTF8?_toUTF8]
  have hl : (jsonOf records).compact =
      '[' :: (Json.compactItems (records.map (·.toJson)) ++ [']']) := rfl
  simp only [Json.toCompactText, String.toList_ofList, hl]
  rw [if_neg (by decide), ← hl, tablesOfJsonText, hp]
  have hd := decodeTables_sortedItems (f := id) TableRecord.decodeTable_toJson 1 records
  rwa [List.map_id] at hd

end Description

end Relational
