import Relational.Proofs.Sql.Spelling

namespace Relational.Sql

variable (d : Dialect)

def constraintTokens : Option String → List Token
  | some name => [.word "CONSTRAINT", nameToken d name]
  | none => []

def namesTokens (names : List String) : List Token :=
  .sign '(' :: ([.sign ','].intercalate (names.map fun n => [nameToken d n]) ++ [.sign ')'])

namespace Item

def text : Item → String
  | column c => c.text d
  | primaryKey k => k.text d
  | reference r => r.text d

def tokens : Item → List Token
  | column c =>
    nameToken d c.name :: (Sql.tokens d c.type ++ if c.identity then identityTokens d else [])
  | primaryKey k =>
    constraintTokens d k.constraint ++ .word "PRIMARY" :: .word "KEY" :: namesTokens d k.columns
  | reference r =>
    constraintTokens d r.constraint ++
      [.word "FOREIGN", .word "KEY", .sign '(', nameToken d r.column, .sign ')', .word "REFERENCES",
        nameToken d r.table, .sign '(', nameToken d r.referencedColumn, .sign ')']

def Proper : Item → Prop
  | column c => Spelled c.type
  | primaryKey k => k.columns ≠ []
  | reference _ => True

end Item

section

variable {d : Dialect}

theorem name?_nameToken (name : String) : (nameToken d name).name? = some name := by
  rw [nameToken]
  split
  case isTrue h => simp [Token.name?, isWord_of_quote_eq h]
  case isFalse => rfl

theorem Complete.name {a b : List Char} {ts us : List Token} (ha : Complete d a ts) (name : String)
    (hb : Complete d b us) (hs : Apart d b) :
    Complete d (a ++ (d.quote name).toList ++ b) (ts ++ nameToken d name :: us) := by
  simpa using (ha.append_lexes (lexes_quote name)).append_complete hb hs

theorem complete_constraintText (name : Option String) :
    Complete d (constraintText d name).toList (constraintTokens d name) := by
  cases name
  case none => exact fun _ => rfl
  case some name =>
    have hc : Complete d "CONSTRAINT ".toList [.word "CONSTRAINT"] := by
      cases d <;> exact fun _ => rfl
    simp only [constraintText, String.toList_append]
    exact hc.name name complete_blank (apart_of_mem (by decide))

theorem lexes_identityClause : Lexes d d.identityClause.toList (identityTokens d) := by
  have hw {w : String} := lexes_word (d := d) (w := w)
  have hc : Complete d "GENERATED BY DEFAULT AS ".toList
      [.word "GENERATED", .word "BY", .word "DEFAULT", .word "AS"] := by
    cases d <;> exact fun _ => rfl
  have hi := hc.append_lexes (hw (w := "IDENTITY") (by decide) (by decide))
  cases d
  case mysql => exact hw (by decide) (by decide)
  all_goals exact hi

theorem complete_names (names : List String) :
    Complete d (", ".intercalate (names.map d.quote) ++ ")").toList
      ([.sign ','].intercalate (names.map fun n => [nameToken d n]) ++ [.sign ')']) := by
  have hc : Complete d ", ".toList [.sign ','] := by cases d <;> exact fun _ => rfl
  have hs : Complete d ")".toList [.sign ')'] := complete_sign (by decide)
  have h := Lexes.intercalate hc (apart_of_mem (by decide)) fun n (_ : n ∈ names) => lexes_quote n
  rw [String.toList_append, String.toList_intercalate, List.map_map]
  exact h.append_complete hs (apart_of_mem (by decide))

theorem lexes_column {c : ColumnDefinition} (hp : Spelled c.type) :
    Lexes d (c.text d).toList ((Item.column c).tokens d) := by
  obtain ⟨s, hp, hs⟩ := hp
  have ht : Sql.tokens d c.type = s.tokens := hs ▸ tokens_eq (s.lexes_text hp)
  have hn := (lexes_quote (d := d) c.name).append_complete complete_blank (apart_of_mem (by decide))
  have h := hn.append_lexes (hs ▸ s.lexes_text hp)
  simp only [ColumnDefinition.text, Item.tokens, String.toList_append, ht]
  cases c.identity
  case false => simpa using h
  case true =>
    have hi := complete_blank.append_lexes (lexes_identityClause (d := d))
    simpa using h.append hi (apart_of_mem (by decide))

theorem complete_primaryKey (k : PrimaryKey) :
    Complete d (k.text d).toList ((Item.primaryKey k).tokens d) := by
  have hk : Complete d "PRIMARY KEY (".toList [.word "PRIMARY", .word "KEY", .sign '('] := by
    cases d <;> exact fun _ => rfl
  have h := (complete_constraintText k.constraint).append (hk.append (complete_names k.columns))
  simpa only [PrimaryKey.text, Item.tokens, namesTokens, String.toList_append, List.append_assoc,
    List.cons_append, List.nil_append] using h

theorem complete_reference (r : Reference) :
    Complete d (r.text d).toList ((Item.reference r).tokens d) := by
  have hf : Complete d "FOREIGN KEY (".toList [.word "FOREIGN", .word "KEY", .sign '('] := by
    cases d <;> exact fun _ => rfl
  have hr : Complete d ") REFERENCES ".toList [.sign ')', .word "REFERENCES"] := by
    cases d <;> exact fun _ => rfl
  have ho : Complete d "(".toList [.sign '('] := complete_sign (by decide)
  have hc : Complete d ")".toList [.sign ')'] := complete_sign (by decide)
  have h := (complete_constraintText r.constraint).append hf
  have h := h.name r.column hr (apart_of_mem (by decide))
  have h := h.name r.table ho (apart_of_mem (by decide))
  have h := h.name r.referencedColumn hc (apart_of_mem (by decide))
  simpa only [Reference.text, Item.tokens, String.toList_append, List.append_assoc,
    List.cons_append, List.nil_append] using h

theorem lexes_item {i : Item} (hp : i.Proper) : Lexes d (i.text d).toList (i.tokens d) := by
  cases i
  case column => exact lexes_column hp
  case primaryKey k => exact (complete_primaryKey k).lexes
  case reference r => exact (complete_reference r).lexes

end

def TableDefinition.items (t : TableDefinition) : List Item :=
  t.columns.map .column ++ t.primaryKey.toList.map .primaryKey ++ t.references.map .reference

theorem TableDefinition.lines_eq (t : TableDefinition) : t.lines d = t.items.map (·.text d) := by
  simp only [lines, items, List.map_append, List.map_map]
  rfl

namespace Statement

def text : Statement → String
  | create t => t.text d
  | add table r => additionText d table r
  | commit => "COMMIT;\n"

def tokens : Statement → List Token
  | create t =>
    .word "CREATE" :: .word "TABLE" :: nameToken d t.name :: .sign '(' ::
      ([.sign ','].intercalate (t.items.map (·.tokens d)) ++ [.sign ')'])
  | add table r =>
    .word "ALTER" :: .word "TABLE" :: nameToken d table :: .word "ADD" ::
      (Item.reference r).tokens d
  | commit => [.word "COMMIT"]

def Proper : Statement → Prop
  | create t => t.columns ≠ [] ∧ ∀ i ∈ t.items, i.Proper
  | _ => True

end Statement

section

variable {d : Dialect}

theorem complete_items {items : List Item} (hp : ∀ i ∈ items, i.Proper) :
    Complete d (",\n".intercalate ((items.map (·.text d)).map ("    " ++ ·)) ++ "\n);\n\n").toList
      ([.sign ','].intercalate (items.map (·.tokens d)) ++ [.sign ')', .sign ';']) := by
  have hb : Complete d "    ".toList [] := fun _ => rfl
  have hc : Complete d ",\n".toList [.sign ','] := by cases d <;> exact fun _ => rfl
  have he : Complete d "\n);\n\n".toList [.sign ')', .sign ';'] := by
    cases d <;> exact fun _ => rfl
  have h := Lexes.intercalate hc (apart_of_mem (by decide)) fun i hi =>
    hb.append_lexes (lexes_item (hp i hi))
  have h := h.append_complete he (apart_of_mem (by decide))
  simpa only [String.toList_append, String.toList_intercalate, List.map_map, Function.comp_def,
    List.append_assoc, List.nil_append] using h

theorem complete_statement {st : Statement} (hp : st.Proper) :
    Complete d (st.text d).toList (st.tokens d ++ [.sign ';']) := by
  cases st
  case create t =>
    have hs : Complete d "CREATE TABLE ".toList [.word "CREATE", .word "TABLE"] := by
      cases d <;> exact fun _ => rfl
    have ho : Complete d " (\n".toList [.sign '('] := by cases d <;> exact fun _ => rfl
    have h := (hs.name t.name ho (apart_of_mem (by decide))).append (complete_items hp.2)
    rw [Statement.text, Statement.tokens]
    unfold TableDefinition.text
    rw [TableDefinition.lines_eq]
    simp only [String.toList_append, List.append_assoc, List.cons_append, List.nil_append] at h ⊢
    exact h
  case add table r =>
    have hs : Complete d "ALTER TABLE ".toList [.word "ALTER", .word "TABLE"] := by
      cases d <;> exact fun _ => rfl
    have ha : Complete d " ADD ".toList [.word "ADD"] := by cases d <;> exact fun _ => rfl
    have he : Complete d ";\n\n".toList [.sign ';'] := by cases d <;> exact fun _ => rfl
    have h := hs.name table ha (apart_of_mem (by decide))
    have h := (h.append (complete_reference r)).append he
    rw [Statement.text, Statement.tokens]
    unfold additionText
    simp only [String.toList_append, List.append_assoc, List.cons_append, List.nil_append] at h ⊢
    exact h
  case commit => cases d <;> exact fun _ => rfl

theorem kept_nameToken (name : String) : Kept 0 [nameToken d name] := by
  refine .singleton fun c h => ?_
  rw [nameToken] at h
  split at h <;> cases h

theorem kept_namesTokens (names : List String) : Kept 0 (namesTokens d names) :=
  .parenthesized (.intercalate fun name _ => (kept_nameToken name).mono (Nat.zero_le _))

theorem kept_constraintTokens (name : Option String) : Kept 0 (constraintTokens d name) := by
  cases name
  case none => exact .nil
  case some name =>
    have hw : Kept 0 [.word "CONSTRAINT"] := .singleton nofun
    exact hw.append (kept_nameToken name)

theorem kept_item {i : Item} (hp : i.Proper) : Kept 0 (i.tokens d) := by
  cases i
  case column c =>
    obtain ⟨s, hp, hs⟩ := hp
    have hi : Kept 0 (if c.identity then identityTokens d else []) := by
      cases c.identity
      case false => exact .nil
      case true => exact .of_forall (by cases d <;> simp [identityTokens])
    rw [Item.tokens, ← hs, tokens_eq (s.lexes_text hp)]
    exact (kept_nameToken c.name).append (s.kept_tokens.append hi)
  case primaryKey k =>
    have hw : Kept 0 [.word "PRIMARY", .word "KEY"] := .of_forall (by simp)
    exact (kept_constraintTokens k.constraint).append (hw.append (kept_namesTokens k.columns))
  case reference r =>
    have hn (name : String) : Kept 0 (.sign '(' :: ([nameToken d name] ++ [.sign ')'])) :=
      .parenthesized ((kept_nameToken name).mono (Nat.zero_le _))
    have hf : Kept 0 [.word "FOREIGN", .word "KEY"] := .of_forall (by simp)
    have hr : Kept 0 [.word "REFERENCES"] := .singleton nofun
    have h := (hr.append (kept_nameToken (d := d) r.table)).append (hn r.referencedColumn)
    exact (kept_constraintTokens r.constraint).append (hf.append ((hn r.column).append h))

theorem readNames_namesTokens {names : List String} (hn : names ≠ []) :
    readNames (namesTokens d names) = some names := by
  rw [readNames, namesTokens, inParentheses?_append, Option.bind_eq_bind, Option.bind_some,
    split_intercalate hn fun name _ => kept_nameToken name]
  exact mapM_map fun name _ => name?_nameToken name

theorem readKeyOf_eq_none {constraint : Option String} {t : Token} {ts : List Token}
    (h : .word "KEY" ∉ ts) : readKeyOf constraint (t :: ts) = none := by
  unfold readKeyOf
  split
  case h_1 he =>
    cases he
    simp at h
  case h_2 he =>
    cases he
    simp at h
  case h_3 => rfl

theorem readNamedKey_eq_none {t : Token} {ts : List Token} (h : .word "KEY" ∉ ts) :
    readNamedKey (t :: ts) = none := by
  unfold readNamedKey
  split
  case h_1 name ts he =>
    cases he
    cases ts
    case nil => cases name.name? <;> rfl
    case cons t ts =>
      have hk (c : Option String) : readKeyOf c (t :: ts) = none :=
        readKeyOf_eq_none fun hm => h (by simp [hm])
      cases name.name?
      case none => rfl
      case some name => exact hk name
  case h_2 => rfl

theorem readKey_append {constraint : Option String} {t : Token} {ts : List Token} {i : Item}
    (ht : t ≠ .word "CONSTRAINT") (h : readKeyOf constraint (t :: ts) = some i) :
    readKey (constraintTokens d constraint ++ t :: ts) = some i := by
  cases constraint
  case none =>
    have hn : readNamedKey (t :: ts) = none := by
      unfold readNamedKey
      split
      case h_1 he => exact absurd (List.cons.inj he).1 ht
      case h_2 => rfl
    simp [readKey, constraintTokens, hn, h]
  case some name => simp [readKey, constraintTokens, readNamedKey, name?_nameToken, h]

theorem readKey_primaryKey {k : PrimaryKey} (hk : k.columns ≠ []) :
    readKey ((Item.primaryKey k).tokens d) = some (.primaryKey k) :=
  readKey_append (by decide) (by simp [readKeyOf, readNames_namesTokens hk])

theorem readKey_reference (r : Reference) :
    readKey ((Item.reference r).tokens d) = some (.reference r) :=
  readKey_append (by decide) (by simp [readKeyOf, name?_nameToken])

theorem readKey_column {c : ColumnDefinition} (hp : Spelled c.type) :
    readKey ((Item.column c).tokens d) = none := by
  obtain ⟨s, hp, hs⟩ := hp
  -- The word that marks keys is in no type.
  have hk : .word "KEY" ∉ Sql.tokens d c.type ++ if c.identity then identityTokens d else [] := by
    have hi : .word "KEY" ∉ identityTokens d := by cases d <;> decide
    rw [← hs, tokens_eq (s.lexes_text hp), List.mem_append]
    rintro (h | h)
    case inl => exact s.not_mem_tokens hp "KEY" (by simp) h
    case inr => cases hc : c.identity <;> simp [hc, hi] at h
  rw [readKey, Item.tokens, readNamedKey_eq_none hk, readKeyOf_eq_none hk]
  rfl

theorem readColumn_tokens {c : ColumnDefinition} (hp : Spelled c.type) :
    readColumn d ((Item.column c).tokens d) = some c := by
  obtain ⟨name, type, identity⟩ := c
  obtain ⟨s, hp, rfl⟩ := hp
  have hi : ∃ w ∈ ["KEY", "IDENTITY", "AUTO_INCREMENT"], .word w ∈ identityTokens d := by
    cases d <;> decide
  simp only [Item.tokens, readColumn, tokens_eq (s.lexes_text hp), name?_nameToken]
  cases identity
  case false =>
    have ⟨w, hw, hm⟩ := hi
    have hn : ¬identityTokens d <:+ s.tokens := fun h => s.not_mem_tokens hp w hw (h.subset hm)
    simp [hn, s.readType_tokens]
  case true => simp [s.readType_tokens]

theorem readItem_tokens {i : Item} (hp : i.Proper) : readItem d (i.tokens d) = some i := by
  cases i
  case column c => rw [readItem, readKey_column hp, readColumn_tokens hp]; rfl
  case primaryKey k => rw [readItem, readKey_primaryKey hp]; rfl
  case reference r => rw [readItem, readKey_reference]; rfl

theorem tableOfItems_items (t : TableDefinition) : tableOfItems t.name t.items = some t := by
  have hn {α β : Type} (as : List α) : as.filterMap (fun _ => (none : Option β)) = [] :=
    List.filterMap_eq_nil_iff.mpr fun _ _ => rfl
  have hc : t.items.filterMap (·.column?) = t.columns := by
    simp [TableDefinition.items, List.filterMap_map, Item.column?, hn]
  have hk : t.items.filterMap (·.primaryKey?) = t.primaryKey.toList := by
    simp [TableDefinition.items, List.filterMap_map, Item.primaryKey?, hn]
  have hr : t.items.filterMap (·.reference?) = t.references := by
    simp [TableDefinition.items, List.filterMap_map, Item.reference?, hn]
  rw [tableOfItems, hc, hk, hr]
  obtain ⟨name, columns, primaryKey, references⟩ := t
  cases primaryKey <;> rfl

theorem readStatement_tokens {st : Statement} (hp : st.Proper) :
    readStatement d (st.tokens d) = some st := by
  cases st
  case create t =>
    have hn : t.items ≠ [] := by simp [TableDefinition.items, hp.1]
    have hk : ∀ i ∈ t.items, Kept 0 (i.tokens d) := fun i hi => kept_item (hp.2 i hi)
    have hm : (t.items.map (·.tokens d)).mapM (readItem d) = some t.items :=
      mapM_map fun i hi => readItem_tokens (hp.2 i hi)
    simp [Statement.tokens, readStatement, name?_nameToken, inParentheses?_append,
      split_intercalate hn hk, hm, tableOfItems_items]
  case add table r => simp [Statement.tokens, readStatement, name?_nameToken, readKey_reference]
  case commit => rfl

theorem kept_statement {st : Statement} (hp : st.Proper) : Kept 0 (st.tokens d) := by
  cases st
  case create t =>
    have hw : Kept 0 [.word "CREATE", .word "TABLE"] := .of_forall (by simp)
    refine hw.append ((kept_nameToken t.name).append (.parenthesized ?_))
    exact .intercalate fun i hi => (kept_item (hp.2 i hi)).mono (Nat.zero_le _)
  case add table r =>
    have hw : Kept 0 [.word "ALTER", .word "TABLE"] := .of_forall (by simp)
    have ha : Kept 0 [.word "ADD"] := .singleton nofun
    have hr : (Item.reference r).Proper := trivial
    exact hw.append ((kept_nameToken table).append (ha.append (kept_item hr)))
  case commit => exact .singleton nofun

end

variable (d : Dialect)

def Script.statements (s : Script) : List Statement :=
  s.tables.map .create ++ (s.additions.map fun (table, r) => .add table r) ++
    if d.footer?.isSome then [.commit] else []

theorem Script.toList_text (s : Script) :
    (s.text d).toList = (s.statements d).flatMap fun st => (st.text d).toList := by
  have hf : (d.footer?.getD "").toList =
      (if d.footer?.isSome then [Statement.commit] else []).flatMap
        fun st => (st.text d).toList := by
    cases d <;> rfl
  have hj (texts : List String) : (String.join texts).toList = texts.flatMap (·.toList) := by
    simp
  simp only [Script.text, Script.statements, String.toList_append, hj, hf, List.flatMap_append]
  simp only [List.flatMap_map]
  rfl

theorem Script.readStatements_text {s : Script} (hp : ∀ st ∈ s.statements d, st.Proper) :
    readStatements d (s.text d) = some (s.statements d) := by
  have ht : tokens d (s.text d) =
      (s.statements d).flatMap fun st => st.tokens d ++ [.sign ';'] := by
    refine tokens_eq ?_
    rw [s.toList_text d]
    exact (Complete.flatMap fun st hst => complete_statement (hp st hst)).lexes
  have hk := split_flatMap fun st hst => kept_statement (d := d) (hp st hst)
  have hm := mapM_map fun st hst => readStatement_tokens (d := d) (hp st hst)
  simp [readStatements, ht, hk, hm]

example :
    readStatements .postgres
        "CREATE TABLE \"a;\" (\n\"b\"\"\" INT,\nPRIMARY KEY (\"b\"\"\"));" =
      some [.create ⟨"a;", [⟨"b\"", "INT", false⟩], some ⟨none, ["b\""]⟩, []⟩] := by
  rfl

end Relational.Sql
