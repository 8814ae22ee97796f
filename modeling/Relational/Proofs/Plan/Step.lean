import Relational.Proofs.Except
import Relational.Proofs.Plan.Declaration

namespace Relational

theorem Table.name_of_column? {t : Table} {name : String} {c : Column}
    (h : t.column? name = some c) : c.name = name := by
  simpa using List.find?_some h

theorem Table.hasColumn_of_mem {t : Table} {c : Column} (h : c ∈ t.columns) :
    t.hasColumn c.name := by
  simpa [hasColumn, column?] using ⟨c, h, rfl⟩

structure Endpoint.At (tables : List Table) (e : Endpoint) (names : String × String) : Prop where
  place  : tables[e.place]? = some e.table
  table  : e.table.name = names.1
  column : e.table.column? names.2 = some e.column

namespace Endpoint.At

variable {tables : List Table} {e : Endpoint} {names : String × String}

theorem names_eq (h : e.At tables names) : e.names = names :=
  Prod.ext h.table (Table.name_of_column? h.column)

theorem hasColumn (h : e.At tables names) : e.table.hasColumn e.column.name := by
  rw [Table.name_of_column? h.column, Table.hasColumn, h.column]
  rfl

end Endpoint.At

section

variable {tables : List Table} {place : Nat} {t : Table} {e : Endpoint}

theorem getElem?_of_findTable? {name : String} (h : findTable? tables name = some (place, t)) :
    tables[place]? = some t ∧ t.name = name := by
  have ⟨p, hf, hp⟩ := Option.map_eq_some_iff.mp h
  have hm := List.mem_reverse.mp (List.mem_of_find?_eq_some hf)
  obtain ⟨rfl, rfl⟩ := Prod.mk.inj hp
  exact ⟨List.mem_zipIdx_iff_getElem?.mp hm, by simpa using List.find?_some hf⟩

theorem at_of_endpoint {owner related column : String} (ht : tables[place]? = some t)
    (h : endpoint owner related place t column = .ok e) : e.At tables (t.name, column) := by
  unfold endpoint at h
  split at h
  case h_1 hc =>
    cases h
    exact ⟨ht, rfl, hc⟩
  case h_2 => contradiction

end

namespace Demand

inductive Step (tables : List Table) (d : Demand) (e : Declaration) : Demand → Prop
  | direct {left right : Endpoint} :
    e.relationship.kind = .oneToMany → left.At tables e.left → right.At tables e.right →
    Step tables d e (d.addKey (left.keyTo right))
  | through {left right toLeft toRight : Endpoint} {through : String} :
    e.relationship.kind = .manyToMany → e.relationship.throughTable = some through →
    left.At tables e.left → right.At tables e.right →
    toLeft.At tables (through, e.left.2) → toRight.At tables (through, e.right.2) →
    Step tables d e ((d.addKey (toLeft.keyTo left)).addKey (toRight.keyTo right))
  | join {left right : Endpoint} :
    e.NeedsJoin → left.At tables e.left → right.At tables e.right →
    Step tables d e (d.addJoin tables left right)

variable {tables : List Table} {d d' : Demand}

theorem step_of_add {place : Nat} {owner : Table} {r : Relationship}
    (ho : tables[place]? = some owner) (h : Demand.add tables place owner d r = .ok d') :
    Step tables d ⟨owner, r⟩ d' := by
  unfold Demand.add at h
  extract_lets relate at h
  split at h
  case h_2 => contradiction
  case h_1 found hf =>
    have ⟨_, heq, h⟩ := bind_eq_ok.mp h
    cases heq
    have ⟨left, hl, h⟩ := bind_eq_ok.mp h
    have ⟨right, hr, h⟩ := bind_eq_ok.mp h
    have ⟨hrp, hn⟩ := getElem?_of_findTable? hf
    have hl := at_of_endpoint ho hl
    have hr := hn ▸ at_of_endpoint hrp hr
    split at h
    case h_1 hk =>
      cases h
      exact .direct hk hl hr
    case h_2 hk ht =>
      cases h
      exact .join ⟨hk, ht⟩ hl hr
    case h_3 hk ht =>
      split at h
      case h_1 => contradiction
      case h_2 hf =>
        have ⟨htp, hn⟩ := getElem?_of_findTable? hf
        have ⟨toLeft, htl, h⟩ := bind_eq_ok.mp h
        have ⟨toRight, htr, h⟩ := bind_eq_ok.mp h
        cases h
        exact .through hk ht hl hr (hn ▸ at_of_endpoint htp htl) (hn ▸ at_of_endpoint htp htr)

def Kept (tables : List Table) (P : List Declaration → Demand → Prop) : Prop :=
  ∀ done e d d', P done d → Step tables d e d' → P (done ++ [e]) d'

variable {P : List Declaration → Demand → Prop} {done : List Declaration}

theorem Kept.foldlM_relationships (hP : Kept tables P) {place : Nat} {owner : Table}
    (ho : tables[place]? = some owner) {rs : List Relationship} (hd : P done d)
    (h : rs.foldlM (Demand.add tables place owner) d = .ok d') :
    P (done ++ rs.map (⟨owner, ·⟩)) d' := by
  induction rs generalizing done d
  case nil =>
    cases h
    simpa using hd
  case cons r rs ih =>
    rw [List.foldlM_cons] at h
    have ⟨d₁, h₁, h⟩ := bind_eq_ok.mp h
    have := ih (hP _ _ _ _ hd (step_of_add ho h₁)) h
    simpa using this

theorem Kept.foldlM_tables (hP : Kept tables P) {ts : List (Table × Nat)}
    (ht : ∀ t ∈ ts, tables[t.2]? = some t.1) (hd : P done d)
    (h : ts.foldlM (fun d t => t.1.relationships.foldlM (Demand.add tables t.2 t.1) d) d = .ok d') :
    P (done ++ declarations (ts.map (·.1))) d' := by
  induction ts generalizing done d
  case nil =>
    cases h
    simpa [declarations] using hd
  case cons t ts ih =>
    rw [List.foldlM_cons] at h
    have ⟨d₁, h₁, h⟩ := bind_eq_ok.mp h
    have ⟨ht₁, ht⟩ := List.forall_mem_cons.mp ht
    have := ih ht (hP.foldlM_relationships ht₁ hd h₁) h
    simpa [declarations] using this

theorem Kept.ofTables (hP : Kept tables P) (h₀ : P [] {}) (h : Demand.ofTables tables = .ok d) :
    P (declarations tables) d := by
  have ht : ∀ t ∈ tables.zipIdx, tables[t.2]? = some t.1 :=
    fun _ => List.mem_zipIdx_iff_getElem?.mp
  simpa using hP.foldlM_tables ht h₀ h

end Demand
end Relational
