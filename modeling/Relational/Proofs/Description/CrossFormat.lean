import Relational.Proofs.Description.Xml

namespace Relational

open Description (jsonBytes xmlBytes)

namespace Schema

theorem read_json_jsonBytes (records : List TableRecord) :
    read .json (jsonBytes records) = (ofRecords records).mapError .record := by
  simp only [read, Description.records, Description.readJson_jsonBytes]
  rfl

theorem read_xml_xmlBytes (records : List TableRecord) (h : ∀ t ∈ records, t.Complete) :
    read .xml (xmlBytes records) = (ofRecords records).mapError .record := by
  have hr := Description.toOption_readXml_xmlBytes records
  rw [if_pos h] at hr
  cases hx : Description.readXml (xmlBytes records)
  case error => simp [hx, Except.toOption] at hr
  case ok =>
    simp only [hx, Except.toOption, Option.some.injEq] at hr
    simp only [read, Description.records, hx, hr]
    rfl

-- As long as no required text is blank, the schema, or the reason why there is none, is that of the
-- records in both formats. A blank one is refused in both, for reasons that may differ.
theorem read_json_xml (records : List TableRecord) :
    ((∀ t ∈ records, t.Complete) →
      read .json (jsonBytes records) = (ofRecords records).mapError .record ∧
      read .xml (xmlBytes records) = (ofRecords records).mapError .record) ∧
    ((∃ t ∈ records, ¬t.Complete) →
      (∃ e, read .json (jsonBytes records) = .error e) ∧
      ∃ e, read .xml (xmlBytes records) = .error e) := by
  refine ⟨fun h => ?complete, fun h => ⟨?json, ?xml⟩⟩
  case complete => exact ⟨read_json_jsonBytes records, read_xml_xmlBytes records h⟩
  case json =>
    rw [read_json_jsonBytes]
    cases hs : ofRecords records
    case error e => exact ⟨_, rfl⟩
    case ok =>
      have ⟨t, hm, ht⟩ := h
      exact absurd (complete_of_ofRecords hs t hm) ht
  case xml =>
    have hr := Description.toOption_readXml_xmlBytes records
    have ⟨t, hm, ht⟩ := h
    rw [if_neg fun hc => ht (hc t hm)] at hr
    cases hx : Description.readXml (xmlBytes records)
    case ok => simp [hx, Except.toOption] at hr
    case error e => exact ⟨.xml e, by simp only [read, Description.records, hx]; rfl⟩

def markedRecords : List TableRecord := [{
  name := "<\"a\">"
  columns := [{ name := "[id]", type := " INT", primaryKey := true }]
  relationships := [{ kind := some " ", relatedTable := "<\"a\">", foreignKey := "[id]" }] }]

def markedSchema : Schema := { tables := [{
  name := "<\"a\">"
  columns := [{ name := "[id]", type := "INT", primaryKey := true }]
  relationships := [{
    kind := .oneToMany, relatedTable := "<\"a\">", foreignKey := "[id]"
    relatedForeignKey := "[id]" }] }] }

theorem read_json_xml_marked :
    (read .json (jsonBytes markedRecords) = .ok markedSchema ∧
      read .xml (xmlBytes markedRecords) = .ok markedSchema) ∧
    (∃ e, read .json (jsonBytes [{ name := " " }]) = .error e) ∧
      ∃ e, read .xml (xmlBytes [{ name := " " }]) = .error e := by
  have ho : ofRecords markedRecords = .ok markedSchema := by decide
  have h := (read_json_xml markedRecords).1 (by decide)
  have hb := (read_json_xml [{ name := " " }]).2 ⟨_, List.mem_singleton_self _, by decide⟩
  rw [ho] at h
  exact ⟨h, hb⟩

end Schema

end Relational
