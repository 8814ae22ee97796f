import Relational.Proofs.Description.Tag

namespace Relational.Description

open Xml (Name Opening Content Event)

namespace Progress

def step (p : Progress) : Event → Except XmlError Progress
  | .start tag => p.enter tag true
  | .empty tag => p.enter tag false
  | .close name => .ok (p.leave name)
  | .fault position fault => .error (p.faultAt position fault)

theorem read_eq_foldlM (p : Progress) (events : List Event) :
    p.read events = events.foldlM step p >>= finish := by
  induction events generalizing p
  case nil => rfl
  case cons e events hi =>
    rw [List.foldlM_cons]
    cases e
    case close name => exact hi (p.leave name)
    case fault => rfl
    case start tag =>
      rw [read, step]
      cases p.enter tag true
      case error => rfl
      case ok p => exact hi p
    case empty tag =>
      rw [read, step]
      cases p.enter tag false
      case error => rfl
      case ok p => exact hi p

def inRoot (tables : List TableRecord) : Progress :=
  { rooted := true, depth := 1, tables }

def inTable (tables : List TableRecord) (t : TableRecord) : Progress :=
  { rooted := true, depth := 2, current := some t, tables }

theorem elementName_eq :
    elementName "table" = "table" ∧ elementName "column" = "column" ∧
      elementName "relationship" = "relationship" := by
  decide

theorem enter_table (tables : List TableRecord) (t : TableRecord) :
    (inRoot tables).enter t.opening.tag true = inTable tables <$> tableOf t.opening.tag := by
  have hn : t.opening.tag.name = "table" := String.ofList_toList
  simp [enter, inRoot, hn, elementName_eq]
  rfl

theorem enter_column (tables : List TableRecord) (t : TableRecord) (c : ColumnRecord) :
    (inTable tables t).enter c.opening.tag false =
      (fun c => inTable tables { t with columns := t.columns ++ [c] }) <$>
        columnOf t.name c.opening.tag := by
  have hn : c.opening.tag.name = "column" := String.ofList_toList
  simp [enter, inTable, hn, elementName_eq]
  rfl

theorem enter_relationship (tables : List TableRecord) (t : TableRecord) (r : RelationshipRecord) :
    (inTable tables t).enter r.opening.tag false =
      (fun r => inTable tables { t with relationships := t.relationships ++ [r] }) <$>
        relationshipOf t.name r.opening.tag := by
  have hn : r.opening.tag.name = "relationship" := String.ofList_toList
  simp [enter, inTable, hn, elementName_eq]
  rfl

theorem leave_table (tables : List TableRecord) (t : TableRecord) :
    (inTable tables t).leave "table" = inRoot (tables ++ [t]) := by
  simp [leave, inTable, inRoot, elementName_eq]

theorem step_columns (tables : List TableRecord) (t : TableRecord) (columns : List ColumnRecord) :
    ((columns.map fun c => Event.empty c.opening.tag).foldlM step (inTable tables t)).toOption =
      if ∀ c ∈ columns, c.Complete then
        some (inTable tables { t with columns := t.columns ++ columns })
      else none := by
  have hs (before : List ColumnRecord) (c : ColumnRecord) :
      (step (inTable tables { t with columns := before }) (.empty c.opening.tag)).toOption =
        if c.Complete then some (inTable tables { t with columns := before ++ [c] }) else none := by
    rw [step, enter_column, toOption_map, columnOf_opening]
    split <;> rfl
  rw [List.foldlM_map]
  have h := toOption_foldlM (P := ColumnRecord.Complete)
    (fun p (c : ColumnRecord) => step p (.empty c.opening.tag))
    (fun before => inTable tables { t with columns := before }) hs t.columns columns
  exact h

theorem step_relationships (tables : List TableRecord) (t : TableRecord)
    (relationships : List RelationshipRecord) :
    ((relationships.map fun r => Event.empty r.opening.tag).foldlM step
        (inTable tables t)).toOption =
      if ∀ r ∈ relationships, r.Complete then
        some (inTable tables { t with relationships := t.relationships ++ relationships })
      else none := by
  have hs (before : List RelationshipRecord) (r : RelationshipRecord) :
      (step (inTable tables { t with relationships := before }) (.empty r.opening.tag)).toOption =
        if r.Complete then some (inTable tables { t with relationships := before ++ [r] })
        else none := by
    rw [step, enter_relationship, toOption_map, relationshipOf_opening]
    split <;> rfl
  rw [List.foldlM_map]
  have h := toOption_foldlM (P := RelationshipRecord.Complete)
    (fun p (r : RelationshipRecord) => step p (.empty r.opening.tag))
    (fun before => inTable tables { t with relationships := before }) hs t.relationships
    relationships
  exact h

theorem step_table (tables : List TableRecord) (t : TableRecord) :
    (t.events.foldlM step (inRoot tables)).toOption =
      if t.Complete then some (inRoot (tables ++ [t])) else none := by
  simp only [TableRecord.events, List.foldlM_cons, List.foldlM_append, List.append_assoc,
    List.foldlM_nil, toOption_bind]
  rw [step, enter_table, toOption_map, tableOf_opening]
  by_cases hn : Text.isBlankText t.name = false
  case neg => simp [TableRecord.Complete, hn]
  case pos =>
    simp only [hn, if_true, Option.map_some, Option.bind_some, step_columns]
    by_cases hc : ∀ c ∈ t.columns, c.Complete
    case neg =>
      rw [if_neg hc, if_neg fun h => hc h.2.1]
      rfl
    case pos =>
      simp only [if_pos hc, Option.bind_some, step_relationships]
      by_cases hr : ∀ r ∈ t.relationships, r.Complete
      case neg =>
        rw [if_neg hr, if_neg fun h => hr h.2.2]
        rfl
      case pos =>
        rw [if_pos hr, if_pos ⟨hn, hc, hr⟩]
        simp only [Option.bind_some, step, leave_table, Except.toOption]
        rfl

end Progress

section

variable (records : List TableRecord)

def xmlOf : Content :=
  .element ⟨.of "schema", []⟩
    (records.foldr (fun t rest => .element t.opening t.inside rest) .done) .done

def xmlBytes : ByteArray :=
  (String.ofList (xmlOf records).chars).toUTF8

theorem events_foldr_empty {α : Type} (opening : α → Opening) (items : List α) (rest : Content) :
    (items.foldr (fun a rest => .empty (opening a) rest) rest).events =
      items.map (fun a => .empty (opening a).tag) ++ rest.events := by
  induction items
  case nil => rfl
  case cons a items hi => simp [Content.events, hi]

theorem events_xmlOf :
    (xmlOf records).events =
      .start ⟨"schema", []⟩ :: (records.flatMap (·.events) ++ [.close "schema"]) := by
  have hn (s : String) (h) : String.ofList (Name.of s h).chars = s := String.ofList_toList
  have hi (t : TableRecord) : t.inside.events =
      t.columns.map (fun c => .empty c.opening.tag) ++
        t.relationships.map (fun r => .empty r.opening.tag) := by
    rw [TableRecord.inside, events_foldr_empty, events_foldr_empty]
    simp [Content.events]
  have ht : (records.foldr (fun t rest => Content.element t.opening t.inside rest) .done).events =
      records.flatMap (·.events) := by
    induction records
    case nil => rfl
    case cons t records hr =>
      rw [List.foldr_cons, Content.events, hr, hi, List.flatMap_cons, TableRecord.events]
      simp [Opening.tag, TableRecord.opening, hn]
  simp only [xmlOf, Content.events, ht, Opening.tag, hn]
  rfl

theorem toOption_readXml_xmlBytes :
    (readXml (xmlBytes records)).toOption =
      if ∀ t ∈ records, t.Complete then some records else none := by
  have hd : (xmlOf records).chars.dropWhile (· == byteOrderMark) = (xmlOf records).chars := by
    simp [xmlOf, Content.chars, byteOrderMark]
  have hf := toOption_foldlM (fun p (t : TableRecord) => t.events.foldlM Progress.step p)
    Progress.inRoot Progress.step_table [] records
  have hs : Progress.step {} (.start ⟨"schema", []⟩) = .ok (Progress.inRoot []) := rfl
  have hu : readXml (xmlBytes records) = tablesOfXmlText (xmlOf records).chars := by
    rw [readXml, xmlBytes, fromUTF8?_toUTF8]
    simp only [String.toList_ofList, hd]
  rw [hu, tablesOfXmlText, Content.events_chars, Progress.read_eq_foldlM, events_xmlOf,
    List.foldlM_cons, hs, ok_bind, List.foldlM_append, foldlM_flatMap]
  simp only [toOption_bind, hf]
  split <;> rfl

end

end Relational.Description
