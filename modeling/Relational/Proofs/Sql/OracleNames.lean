import Relational.Proofs.Plan.References
import Relational.Proofs.Plan.Synthesis
import Relational.Proofs.Sql.ConstraintNames

namespace Relational

open Sql Text

-- Names without quotes are the same in any letter case, others only if they are equal.
def SameToOracle (a b : String) : Prop :=
  a = b ∨ Dialect.oracle.quote a = a ∧ Dialect.oracle.quote b = b ∧ lowercase a = lowercase b

instance (a b : String) : Decidable (SameToOracle a b) :=
  inferInstanceAs (Decidable (_ ∨ _))

namespace Schema

-- No two names of tables, nor two places in one, differ in the case of a letter there.
def OneCase (s : Schema) : Prop :=
  ∀ t ∈ s.tables, ∀ u ∈ s.tables, ∀ b ∈ t.name.toList, ∀ c ∈ u.name.toList,
    b.toLower = c.toLower → b = c

-- Only the characters that occur are tried.
instance (s : Schema) : Decidable s.OneCase :=
  @List.decidableBAll _ _ (fun _ => @List.decidableBAll _ _ (fun _ =>
    @List.decidableBAll _ _ (fun _ => @List.decidableBAll _ _ (fun _ => inferInstance) _) _) _) _

def Spells (s : Schema) (c : Char) : Prop :=
  (∃ t ∈ s.tables, c ∈ t.name.toList) ∨ c = '_' ∨ c.isDigit

end Schema

section

variable {a b base name : String} {c e : Char}

theorem toNat_lt_of_isWordChar (h : isWordChar c) : c.toNat < 0x80 := by
  simp only [isWordChar, isWordStart, Numeral.isDigit, Bool.or_eq_true, Bool.and_eq_true,
    decide_eq_true_eq, beq_iff_eq] at h
  rcases h with ((⟨_, h⟩ | ⟨_, h⟩) | rfl) | ⟨_, h⟩
  · exact Nat.lt_of_le_of_lt (show c.toNat ≤ 'z'.toNat from h) (by decide)
  · exact Nat.lt_of_le_of_lt (show c.toNat ≤ 'Z'.toNat from h) (by decide)
  · decide
  · exact Nat.lt_of_le_of_lt (show c.toNat ≤ '9'.toNat from h) (by decide)

theorem isAscii_of_bare (h : Dialect.oracle.quote a = a) : ∀ c ∈ a.toList, c.toNat < 0x80 := by
  have ⟨_, ha⟩ := all_isWordChar_of_isWord (isWord_of_quote_eq h)
  exact fun c hc => toNat_lt_of_isWordChar (List.all_eq_true.mp ha c hc)

theorem toList_lowercase (h : ∀ c ∈ a.toList, c.toNat < 0x80) :
    (lowercase a).toList = a.toList.map Char.toLower := by
  rw [lowercase, String.toList_ofList, lowerAfter_ascii [] h]

theorem SameToOracle.map_toLower (h : SameToOracle a b) :
    a.toList.map Char.toLower = b.toList.map Char.toLower := by
  rcases h with rfl | ⟨ha, hb, h⟩
  · rfl
  · rw [← toList_lowercase (isAscii_of_bare ha), ← toList_lowercase (isAscii_of_bare hb), h]

theorem SameToOracle.lowercase_eq (h : SameToOracle (base ++ a) (base ++ b)) :
    lowercase a = lowercase b := by
  have hm := h.map_toLower
  simp only [String.toList_append, List.map_append, List.append_cancel_left_eq] at hm
  rcases h with h | ⟨ha, hb, _⟩
  · rw [(String.append_right_inj _).mp h]
  · have ascii {name : String} (h : Dialect.oracle.quote (base ++ name) = base ++ name) :
        ∀ c ∈ name.toList, c.toNat < 0x80 :=
      fun c hc => isAscii_of_bare h c (by simp [hc])
    apply String.toList_injective
    rw [toList_lowercase (ascii ha), toList_lowercase (ascii hb), hm]

theorem eq_of_toLower_eq (hc : c = '_' ∨ c.isDigit) (h : e.toLower = c) : e = c := by
  have hn : c.toNat ≤ 95 := by
    rcases hc with rfl | hd
    · decide
    · simp only [Char.isDigit, Bool.and_eq_true, decide_eq_true_eq] at hd
      have : c.toNat ≤ 57 := hd.2
      omega
  have hv := congrArg Char.toNat h
  rw [toNat_toLower] at hv
  apply Char.toNat_inj.mp
  split at hv
  case isTrue => omega
  case isFalse => exact hv

theorem toLower_eq_self (hc : c = '_' ∨ c.isDigit) : c.toLower = c := by
  rcases hc with rfl | hd
  · rfl
  · exact toLower_digit hd

end

namespace Schema

variable {s : Schema} {base name : String} {t : Table} {b c : Char}

theorem OneCase.eq (h : s.OneCase) (hb : s.Spells b) (hc : s.Spells c)
    (hl : b.toLower = c.toLower) : b = c := by
  cases hc
  case inr hc => exact eq_of_toLower_eq hc (hl.trans (toLower_eq_self hc))
  case inl hct =>
    cases hb
    case inr hb => exact (eq_of_toLower_eq hb (hl.symm.trans (toLower_eq_self hb))).symm
    case inl hbt =>
      have ⟨t, ht, hbt⟩ := hbt
      have ⟨u, hu, hct⟩ := hct
      exact h t ht u hu b hbt c hct hl

theorem OneCase.toList_eq (h : s.OneCase) {bs cs : List Char} (hb : ∀ b ∈ bs, s.Spells b)
    (hc : ∀ c ∈ cs, s.Spells c) (hl : bs.map Char.toLower = cs.map Char.toLower) : bs = cs := by
  induction bs generalizing cs
  case nil => exact (List.map_eq_nil_iff.mp hl.symm).symm
  case cons b bs hi =>
    cases cs
    case nil => cases hl
    case cons c cs =>
      have ⟨hb, hbs⟩ := List.forall_mem_cons.mp hb
      have ⟨hc, hcs⟩ := List.forall_mem_cons.mp hc
      have ⟨hl, hls⟩ := List.cons.inj hl
      rw [h.eq hb hc hl, hi hbs hcs hls]

theorem spells_candidate (hb : ∀ c ∈ base.toList, s.Spells c) (hn : Candidate base name) :
    ∀ c ∈ name.toList, s.Spells c := by
  cases hn
  case unnumbered => exact hb
  case numbered n =>
    intro c hc
    rw [toList_numbered, List.mem_append, List.mem_cons] at hc
    rcases hc with hc | hc | hc
    · exact hb c hc
    · exact .inr (.inl hc)
    · exact .inr (.inr (isDigit_of_mem_repr c hc))

end Schema

theorem SameToOracle.symm {a b : String} : SameToOracle a b → SameToOracle b a
  | .inl h           => .inl h.symm
  | .inr ⟨ha, hb, h⟩ => .inr ⟨hb, ha, h.symm⟩

theorem not_sameToOracle_of_forReference {name : String} (hf : ForReference name) (table : String) :
    ¬SameToOracle ("pk_" ++ table) name := by
  intro hs
  have ⟨rest, hr⟩ := hf
  have := hs.map_toLower
  simp [← hr] at this

namespace Plan.Meets

variable {s : Schema} {d : Demand} {p : Plan} {t : Table} {k : ForeignKey}

theorem nodup_lowerNames (h : p.Meets s d) (hn : (lowerNames s.tables).Nodup) :
    (lowerNames (s.tables ++ p.synthesized)).Nodup := by
  have ⟨hj, hd⟩ := h.accounts.synthesized.nodup_lowerNames
  rw [lowerNames, List.map_append, h.synthesized]
  exact hn.append hj hd

theorem spells_table (h : p.Meets s d) (ht : t ∈ s.tables ++ d.synthesized) :
    ∀ c ∈ t.name.toList, s.Spells c := by
  cases List.mem_append.mp ht
  case inl ht => exact fun c hc => .inl ⟨t, ht, hc⟩
  case inr ht =>
    have hs := h.accounts.synthesized
    have ⟨i, hi, ht⟩ := List.mem_iff_getElem.mp ht
    have he := List.getElem?_eq_getElem (hs.length_eq ▸ hi)
    have ⟨left, right, hl, hr, hj⟩ := hs.getElem? he
    rw [List.getElem?_eq_getElem hi, ht, Option.some.injEq] at hj
    refine Schema.spells_candidate ?_ (hj ▸ leastFree_joinTable_name.candidate)
    intro c hc
    simp only [String.toList_append, List.mem_append] at hc
    rcases hc with (hc | hc) | hc
    · exact .inl ⟨left.table, hl.mem, hc⟩
    · exact .inr (.inl (List.mem_singleton.mp hc))
    · exact .inl ⟨right.table, hr.mem, hc⟩

theorem spells_key (h : p.Meets s d) (hk : k ∈ p.keys) :
    ∀ c ∈ (k.table ++ "_" ++ k.referencedTable).toList, s.Spells c := by
  have ⟨x, hx, hk⟩ := List.mem_map.mp (h.keys_perm.mem_iff.mp hk)
  have hf := h.accounts.fits x hx
  have ⟨t, ht, hto, _⟩ := hf.owner
  have ⟨u, hu, hut, _⟩ := hf.target
  subst hk
  intro c hc
  simp only [String.toList_append, List.mem_append] at hc
  rcases hc with (hc | hc) | hc
  · exact h.spells_table (List.mem_of_getElem? ht) c (hto ▸ hc)
  · exact .inr (.inl (List.mem_singleton.mp hc))
  · exact h.spells_table (List.mem_of_getElem? hu) c (hut ▸ hc)

theorem eq_of_sameToOracle (h : p.Meets s d) (ho : s.OneCase) {l : ForeignKey} {a b : String}
    (hk : k ∈ p.keys) (ha : Candidate k.constraintBase a) (hl : l ∈ p.keys)
    (hb : Candidate l.constraintBase b) (hs : SameToOracle a b) : a = b := by
  have after {k : ForeignKey} {name : String} (h : Candidate k.constraintBase name) :
      ∃ rest, name = "fk_" ++ rest ∧ Candidate (k.table ++ "_" ++ k.referencedTable) rest := by
    refine Candidate.exists_append ?_
    rwa [← String.append_assoc, ← String.append_assoc]
  obtain ⟨a, rfl, ha'⟩ := after ha
  obtain ⟨b, rfl, hb'⟩ := after hb
  have hm := hs.map_toLower
  simp only [String.toList_append, List.map_append, List.append_cancel_left_eq] at hm
  have ha := Schema.spells_candidate (h.spells_key hk) ha'
  have hb := Schema.spells_candidate (h.spells_key hl) hb'
  rw [String.toList_injective (ho.toList_eq ha hb hm)]

theorem mem_referenceNames (h : p.Meets s d) (hn : (lowerNames s.tables).Nodup) {script : Script}
    (hs : p.script .oracle = .ok script) {a b : String}
    (ha : a ∈ (script.statements .oracle).flatMap (·.names))
    (hb : b ∈ (script.statements .oracle).flatMap (·.names)) (hne : a ≠ b)
    (hab : SameToOracle a b) :
    a ∈ referenceNames (script.statements .oracle) ∧
      ∃ k ∈ p.keys, Candidate k.constraintBase a := by
  have hl : (lowerNames (p.creations.map (·.table))).Nodup :=
    (h.tables_perm.map _).nodup_iff.mpr (h.nodup_lowerNames hn)
  have hc : (p.creations.map (·.table.name)).Nodup := by
    rw [lowerNames, List.map_map] at hl
    refine List.Nodup.of_map lowercase ?_
    rwa [List.map_map]
  cases Plan.mem_names hs hc ha
  case inr ha => exact ha
  -- The name of a primary key is the same to Oracle neither as one of a reference nor as another.
  case inl ha =>
    obtain ⟨c, hcm, rfl⟩ := ha
    cases Plan.mem_names hs hc hb
    case inr hb =>
      obtain ⟨_, k, _, hk⟩ := hb
      exact absurd hab (not_sameToOracle_of_forReference (forReference_of_candidate hk) _)
    case inl hb =>
      obtain ⟨c', hcm', rfl⟩ := hb
      have := List.inj_on_of_nodup_map hl (List.mem_map_of_mem hcm) (List.mem_map_of_mem hcm')
        hab.lowercase_eq
      exact absurd (by rw [this]) hne

end Plan.Meets

-- The names in a script for Oracle are all different, and two of them are the same to Oracle only
-- if both belong to references and some letter in names of tables is written in both cases.
theorem Schema.oracle_names {s : Schema} {text : String} (hn : (lowerNames s.tables).Nodup)
    (h : s.generate .oracle = .ok text) :
    ∃ statements, readStatements .oracle text = some statements ∧
      (∀ st ∈ statements, ∀ name ∈ st.constraints, name.isSome) ∧
      (statements.flatMap (·.names)).Nodup ∧
      (∀ a ∈ statements.flatMap (·.names), ∀ b ∈ statements.flatMap (·.names),
        a ≠ b → SameToOracle a b → a ∈ referenceNames statements ∧ b ∈ referenceNames statements) ∧
      (s.OneCase → (statements.flatMap (·.names)).Pairwise (¬SameToOracle · ·)) := by
  have ⟨p, hp, h⟩ := bind_eq_ok.mp h
  have ⟨script, hs, h⟩ := bind_eq_ok.mp h
  cases h
  have ⟨demand, hm⟩ := s.exists_meets (mapError_eq_ok.mp hp)
  have hso := Plan.scriptOf hs
  refine ⟨script.statements .oracle, script.readStatements_text .oracle (hso.proper nofun),
    fun st hst name hname => hso.named st hst name hname, Plan.nodup_names hs, ?same, ?differ⟩
  case same =>
    intro a ha b hb hne hab
    exact ⟨(hm.mem_referenceNames hn hs ha hb hne hab).1,
      (hm.mem_referenceNames hn hs hb ha hne.symm hab.symm).1⟩
  case differ =>
    intro ho
    refine (Plan.nodup_names hs).pairwise_of_forall_ne fun a ha b hb hne hab => hne ?_
    have ⟨_, k, hk, hka⟩ := hm.mem_referenceNames hn hs ha hb hne hab
    have ⟨_, l, hl, hlb⟩ := hm.mem_referenceNames hn hs hb ha hne.symm hab.symm
    exact hm.eq_of_sameToOracle ho hk hka hl hlb hab

namespace Marriages

def schema : Schema where
  tables := [
    { name := "person", columns := [{ name := "id", type := "INT", primaryKey := true }] },
    { name := "marriage"
      columns := [{ name := "husband", type := "INT" }, { name := "wife", type := "INT" }]
      relationships := [
        ⟨.oneToMany, "person", "husband", "id", none⟩,
        ⟨.oneToMany, "person", "wife", "id", none⟩] }]

theorem exists_text : ∃ text, schema.generate .oracle = .ok text :=
  ⟨_, rfl⟩

end Marriages

theorem oracle_names_marriages :
    (lowerNames Marriages.schema.tables).Nodup ∧ Marriages.schema.OneCase ∧
      ∃ text statements, Marriages.schema.generate .oracle = .ok text ∧
        readStatements .oracle text = some statements ∧
        (statements.flatMap (·.names)).Pairwise (¬SameToOracle · ·) := by
  have hn : (lowerNames Marriages.schema.tables).Nodup := by decide
  have ho : Marriages.schema.OneCase := by decide
  have ⟨text, h⟩ := Marriages.exists_text
  have ⟨statements, hr, _, _, _, hp⟩ := Schema.oracle_names hn h
  exact ⟨hn, ho, text, statements, h, hr, hp ho⟩

namespace Crossed

def table (name : String) (references : Option String) : Table where
  name := name
  columns := [{ name := "id", type := "INT" }]
  relationships := references.toList.map fun other => ⟨.oneToMany, other, "id", "id", none⟩

def schema : Schema where
  tables :=
    [table "a" (some "b_c"), table "b_c" none, table "A_B" (some "C"), table "C" none]

theorem exists_script :
    ∃ p script, schema.plan = .ok p ∧ p.script .oracle = .ok script ∧
      schema.generate .oracle = .ok (script.text .oracle) ∧
      (script.statements .oracle).flatMap (·.names) = ["fk_a_b_c", "fk_A_B_C"] :=
  ⟨_, _, rfl, rfl, rfl, rfl⟩

end Crossed

theorem oracle_names_crossed :
    (lowerNames Crossed.schema.tables).Nodup ∧
      ∃ text statements, Crossed.schema.generate .oracle = .ok text ∧
        readStatements .oracle text = some statements ∧
        statements.flatMap (·.names) = ["fk_a_b_c", "fk_A_B_C"] ∧
        ¬(statements.flatMap (·.names)).Pairwise (¬SameToOracle · ·) := by
  have ⟨p, script, _, hs, hg, hnames⟩ := Crossed.exists_script
  have hr := script.readStatements_text .oracle ((Plan.scriptOf hs).proper nofun)
  refine ⟨by decide, _, _, hg, hr, hnames, ?_⟩
  rw [hnames]
  decide

end Relational
