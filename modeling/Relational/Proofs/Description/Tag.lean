import Mathlib.Tactic.SplitIfs
import Relational.Proofs.Description.Json
import Relational.Proofs.Description.Record
import Relational.Proofs.Xml.Content

namespace Relational

open Xml (Name Opening Setting Content Event)

def Xml.Name.of (s : String) (h : (s != "" && s.toList.all isNameChar) = true := by decide) :
    Name where
  chars := s.toList
  nonempty := by simp_all
  plain := by simp_all

def Xml.optionalSetting (n : Name) : Option String → List Setting
  | some s => [⟨n, s⟩]
  | none => []

namespace ColumnRecord

def opening (c : ColumnRecord) : Opening where
  name := .of "column"
  settings := [
    ⟨.of "name", c.name⟩, ⟨.of "type", c.type⟩, ⟨.of "primary-key", toString c.primaryKey⟩,
    ⟨.of "auto-increment", toString c.autoIncrement⟩]

end ColumnRecord

namespace RelationshipRecord

def opening (r : RelationshipRecord) : Opening where
  name := .of "relationship"
  settings :=
    Xml.optionalSetting (.of "relationship-type") r.kind ++
    [⟨.of "related-table", r.relatedTable⟩, ⟨.of "foreign-key", r.foreignKey⟩] ++
    Xml.optionalSetting (.of "related-foreign-key") r.relatedForeignKey ++
    Xml.optionalSetting (.of "through-table") r.throughTable ++
    [⟨.of "junction", toString r.junction⟩]

end RelationshipRecord

namespace TableRecord

def opening (t : TableRecord) : Opening where
  name := .of "table"
  settings := [⟨.of "table-name", t.name⟩, ⟨.of "join-table", toString t.joinTable⟩]

def inside (t : TableRecord) : Content :=
  t.columns.foldr (fun c rest => .empty c.opening rest)
    (t.relationships.foldr (fun r rest => .empty r.opening rest) .done)

def events (t : TableRecord) : List Event :=
  .start t.opening.tag ::
    (t.columns.map (fun c => .empty c.opening.tag) ++
      t.relationships.map (fun r => .empty r.opening.tag) ++ [.close "table"])

end TableRecord

namespace Description

theorem read_tag (element : String) (o : Opening) (h : (o.settings.map (·.name.chars)).Nodup) :
    Attributes.read element o.tag =
      .ok (o.settings.map fun s =>
        (attributeKey (String.ofList s.name.chars), s.value)).reverse := by
  have hr : o.tag.readAttributes = .ok (o.settings.map (·.toAttribute)) := by
    rw [← o.tag_written false, ← toOption_eq_some, Xml.WrittenTag.toOption_readAttributes,
      ← Setting.attributes?_written h]
    simp [Opening.written, Function.comp_def]
  rw [Attributes.read, hr]
  simp [Setting.toAttribute, Function.comp_def]

theorem attributeKey_eq :
    attributeKey "table-name" = "tablename" ∧ attributeKey "join-table" = "jointable" ∧
    attributeKey "name" = "name" ∧ attributeKey "type" = "type" ∧
    attributeKey "primary-key" = "primarykey" ∧
    attributeKey "auto-increment" = "autoincrement" ∧
    attributeKey "relationship-type" = "relationshiptype" ∧
    attributeKey "related-table" = "relatedtable" ∧ attributeKey "foreign-key" = "foreignkey" ∧
    attributeKey "related-foreign-key" = "relatedforeignkey" ∧
    attributeKey "through-table" = "throughtable" ∧ attributeKey "junction" = "junction" := by
  decide

def Attributes.optional (key : String) : Option String → Attributes
  | some s => [(key, s)]
  | none => []

theorem map_optionalSetting (n : Name) (o : Option String) :
    (Xml.optionalSetting n o).map (fun s => (attributeKey (String.ofList s.name.chars), s.value)) =
      Attributes.optional (attributeKey (String.ofList n.chars)) o := by
  cases o <;> rfl

theorem reverse_optional (key : String) (o : Option String) :
    (Attributes.optional key o).reverse = Attributes.optional key o := by
  cases o <;> rfl

theorem lookup_optional (key k : String) (o : Option String) :
    (Attributes.optional k o).lookup key = if key = k then o else none := by
  cases o
  case none => simp [Attributes.optional]
  case some s =>
    simp only [Attributes.optional, List.lookup_cons, List.lookup_nil]
    split <;> simp_all

theorem lookup_optional_append (key k : String) (o : Option String) (a : Attributes) :
    (Attributes.optional k o ++ a).lookup key =
      if key = k then o.or (a.lookup key) else a.lookup key := by
  cases o
  case none => simp [Attributes.optional]
  case some s =>
    simp only [Attributes.optional, List.singleton_append, List.lookup_cons]
    split <;> simp_all

section

variable {a : Attributes} {keys : List String}

theorem get?_nil : a.get? [] = none :=
  rfl

theorem get?_cons (key : String) : a.get? (key :: keys) = (a.lookup key).or (a.get? keys) := by
  rw [Attributes.get?, List.findSome?_cons]
  cases a.lookup key <;> rfl

theorem toOption_required {value : String} (h : a.get? keys = some value) (element : String)
    (table : Option String) :
    (a.required element table keys).toOption =
      if Text.isBlankText value = false then some value else none := by
  simp only [Attributes.required, h]
  cases Text.isBlankText value <;> rfl

theorem flag_eq_ok {b : Bool} (h : a.get? keys = some (toString b)) (element : String) :
    a.flag element keys = .ok b := by
  simp only [Attributes.flag, h]
  cases b <;> rfl

end

theorem read_column (c : ColumnRecord) :
    Attributes.read "column" c.opening.tag = .ok [
      ("autoincrement", toString c.autoIncrement), ("primarykey", toString c.primaryKey),
      ("type", c.type), ("name", c.name)] := by
  rw [read_tag]
  case h =>
    simp only [ColumnRecord.opening, List.map]
    decide
  simp [ColumnRecord.opening, Name.of, attributeKey_eq]

theorem columnOf_opening (table : String) (c : ColumnRecord) :
    (columnOf table c.opening.tag).toOption = if c.Complete then some c else none := by
  rw [columnOf, read_column, ok_bind]
  generalize ha : [("autoincrement", _), _, _, _] = a
  have hn : Attributes.get? a ["name"] = some c.name := by
    simp [← ha, get?_cons, get?_nil, List.lookup_cons]
  have ht : Attributes.get? a ["type", "datatype"] = some c.type := by
    simp [← ha, get?_cons, get?_nil, List.lookup_cons]
  have hp : Attributes.get? a ["primarykey"] = some (toString c.primaryKey) := by
    simp [← ha, get?_cons, get?_nil, List.lookup_cons]
  have hi : Attributes.get? a ["autoincrement"] = some (toString c.autoIncrement) := by
    simp [← ha, get?_cons, get?_nil]
  simp only [toOption_bind, toOption_required hn, toOption_required ht, flag_eq_ok hp,
    flag_eq_ok hi, ColumnRecord.Complete]
  by_cases hb : Text.isBlankText c.name = false <;> by_cases hd : Text.isBlankText c.type = false
  all_goals simp [hb, hd, Except.toOption]

theorem read_relationship (r : RelationshipRecord) :
    Attributes.read "relationship" r.opening.tag = .ok (
      ("junction", toString r.junction) ::
      (Attributes.optional "throughtable" r.throughTable ++
      (Attributes.optional "relatedforeignkey" r.relatedForeignKey ++
      ("foreignkey", r.foreignKey) :: ("relatedtable", r.relatedTable) ::
      Attributes.optional "relationshiptype" r.kind))) := by
  rw [read_tag]
  case h =>
    obtain ⟨kind, _, _, relatedForeignKey, throughTable, _⟩ := r
    cases kind <;> cases relatedForeignKey <;> cases throughTable
    all_goals
      simp only [RelationshipRecord.opening, Xml.optionalSetting, List.map, List.cons_append,
        List.nil_append]
      decide
  simp [RelationshipRecord.opening, Name.of, attributeKey_eq, map_optionalSetting, reverse_optional]

theorem relationshipOf_opening (table : String) (r : RelationshipRecord) :
    (relationshipOf table r.opening.tag).toOption = if r.Complete then some r else none := by
  rw [relationshipOf, read_relationship, ok_bind]
  generalize ha : List.cons ("junction", _) _ = a
  have ht : Attributes.get? a ["relatedtable"] = some r.relatedTable := by
    simp [← ha, get?_cons, get?_nil, List.lookup_cons, lookup_optional_append]
  have hf : Attributes.get? a ["foreignkey"] = some r.foreignKey := by
    simp [← ha, get?_cons, get?_nil, List.lookup_cons, lookup_optional_append]
  have hj : Attributes.get? a ["junction"] = some (toString r.junction) := by
    simp [← ha, get?_cons, get?_nil]
  have hk : Attributes.get? a ["type", "kind", "relationshiptype"] = r.kind := by
    simp [← ha, get?_cons, get?_nil, List.lookup_cons, lookup_optional, lookup_optional_append]
  have hr : Attributes.get? a ["relatedforeignkey"] = r.relatedForeignKey := by
    simp [← ha, get?_cons, get?_nil, List.lookup_cons, lookup_optional, lookup_optional_append]
  have hg : Attributes.get? a ["throughtable"] = r.throughTable := by
    simp [← ha, get?_cons, get?_nil, List.lookup_cons, lookup_optional, lookup_optional_append]
  simp only [toOption_bind, toOption_required ht, toOption_required hf, flag_eq_ok hj, hk, hr, hg,
    RelationshipRecord.Complete]
  by_cases hb : Text.isBlankText r.relatedTable = false <;>
    by_cases hd : Text.isBlankText r.foreignKey = false
  all_goals simp [hb, hd, Except.toOption]

theorem read_table (t : TableRecord) :
    Attributes.read "table" t.opening.tag = .ok [
      ("jointable", toString t.joinTable), ("tablename", t.name)] := by
  rw [read_tag]
  case h =>
    simp only [TableRecord.opening, List.map]
    decide
  simp [TableRecord.opening, Name.of, attributeKey_eq]

theorem tableOf_opening (t : TableRecord) :
    (tableOf t.opening.tag).toOption =
      if Text.isBlankText t.name = false then some { name := t.name, joinTable := t.joinTable }
      else none := by
  rw [tableOf, read_table, ok_bind]
  generalize ha : [("jointable", _), _] = a
  have hn : Attributes.get? a ["name", "tablename"] = some t.name := by
    simp [← ha, get?_cons, get?_nil, List.lookup_cons]
  have hj : Attributes.get? a ["jointable", "isjointable"] = some (toString t.joinTable) := by
    simp [← ha, get?_cons, get?_nil, List.lookup_cons]
  simp only [toOption_bind, toOption_required hn, flag_eq_ok hj]
  by_cases hb : Text.isBlankText t.name = false
  all_goals simp [hb, Except.toOption]

end Description

end Relational
