import Relational.Proofs.Description.Xml

namespace Relational

namespace Xml

inductive Elements where
  | none
  | cons (o : Opening) (inside rest : Elements)

-- The elements of written content, without the texts and comments between them. An element with
-- nothing inside is the same whether it is written with one tag or with two.
def Content.elements : Content → Elements
  | done => .none
  | text _ rest | comment _ rest => rest.elements
  | empty o rest => .cons o .none rest.elements
  | element o inside rest => .cons o inside.elements rest.elements

def Elements.events : Elements → List Event
  | none => []
  | cons o inside rest => .start o.tag :: (inside.events ++ .close o.tag.name :: rest.events)

-- The name of an element without its prefix, which ends at the first colon, in lower case.
def Tag.localName (tag : Tag) : String :=
  let name := tag.name.toList
  Text.lowercase (String.ofList (if ':' ∈ name then name.drop (name.idxOf ':' + 1) else name))

end Xml

namespace Description

open Xml (Content Elements Event Opening Tag)

inductive Role where
  | table
  | column
  | relationship
  | group
  | unknown
  deriving DecidableEq

def Role.of (tag : Tag) : Role :=
  match tag.localName with
  | "table" => table
  | "column" => column
  | "relationship" => relationship
  | "tables" | "columns" | "relationships" => group
  | _ => unknown

-- An open table with what the elements inside it add.
def collect (t : TableRecord) : Elements → Except XmlError TableRecord
  | .none => .ok t
  | .cons o inside rest =>
    match Role.of o.tag with
    | .table => .error (.nestedTable t.name)
    | .column => do
      let c ← columnOf t.name o.tag
      let t ← collect { t with columns := t.columns ++ [c] } inside
      collect t rest
    | .relationship => do
      let r ← relationshipOf t.name o.tag
      let t ← collect { t with relationships := t.relationships ++ [r] } inside
      collect t rest
    | .group => do
      let t ← collect t inside
      collect t rest
    | .unknown => collect t rest

-- The tables that elements describe which stand in no table.
def tablesIn : Elements → Except XmlError (List TableRecord)
  | .none => .ok []
  | .cons o inside rest =>
    match Role.of o.tag with
    | .table => do
      let t ← tableOf o.tag
      let t ← collect t inside
      return t :: (← tablesIn rest)
    | .column => .error (.outsideTable "column")
    | .relationship => .error (.outsideTable "relationship")
    | .group => do
      let tables ← tablesIn inside
      return tables ++ (← tablesIn rest)
    | .unknown => tablesIn rest

def tablesOfDocument : Elements → Except XmlError (List TableRecord)
  | .none => .error .noRoot
  | .cons _ inside .none => tablesIn inside
  | .cons _ inside (.cons o _ _) => do
    let _ ← tablesIn inside
    .error (.afterRoot o.tag.localName)

theorem localChars_of_not_mem {name : List Char} (h : ':' ∉ name) : localChars name = name := by
  have hd : name.dropWhile (· != ':') = [] := by
    refine List.dropWhile_eq_nil_iff.mpr fun c hc => ?_
    simpa using ne_of_mem_of_not_mem hc h
  rw [localChars, hd]

theorem localChars_append {front name : List Char} (h : ':' ∉ front) :
    localChars (front ++ ':' :: name) = name := by
  have hf : ∀ c ∈ front, (c != ':') = true := fun c hc => by
    simpa using ne_of_mem_of_not_mem hc h
  have hd : (front ++ ':' :: name).dropWhile (· != ':') = ':' :: name := by
    rw [List.dropWhile_append_of_pos hf]
    rfl
  rw [localChars, hd]

theorem elementName_name (tag : Tag) : elementName tag.name = tag.localName := by
  rw [elementName, Tag.localName]
  by_cases h : ':' ∈ tag.name.toList
  case pos =>
    obtain ⟨front, rest, he, hf⟩ := List.eq_append_cons_of_mem h
    have hi : (front ++ ':' :: rest).idxOf ':' = front.length := by
      simp [List.idxOf_append_of_notMem hf]
    have hd : (front ++ ':' :: rest).drop (front.length + 1) = rest := by simp
    simp only [he, localChars_append hf, hi, hd, List.mem_append, List.mem_cons, true_or, or_true,
      if_true]
  case neg => simp only [localChars_of_not_mem h, if_neg h]

example : elementName "db:COLUMN" = "column" := by decide

namespace Progress

variable {p : Progress} {tag : Tag} {tables : List TableRecord} {current : Option TableRecord}
variable {depth : Nat}

def Sound (p : Progress) : Prop :=
  p.rooted = false → p.current = none

def below (depth : Nat) (tables : List TableRecord) (current : Option TableRecord) : Progress :=
  { rooted := true, depth := depth + 1, current, tables }

def skip (p : Progress) (s : Skipped) : Progress :=
  { p with skipped := some s }

theorem stands (p : Progress) :
    (∃ s, p.skipped = some s) ∨ (p.skipped = none ∧ p.rooted = false) ∨
      (p.skipped = none ∧ p.rooted = true ∧ p.depth = 0) ∨
      ∃ depth, p = below depth p.tables p.current := by
  obtain ⟨rooted, depth, skipped, current, tables⟩ := p
  cases skipped
  case some s => exact .inl ⟨s, rfl⟩
  case none =>
    cases rooted
    case false => exact .inr (.inl ⟨rfl, rfl⟩)
    case true =>
      cases depth
      case zero => exact .inr (.inr (.inl ⟨rfl, rfl, rfl⟩))
      case succ depth => exact .inr (.inr (.inr ⟨depth, rfl⟩))

theorem enter_below (hasContent : Bool) :
    (below depth tables current).enter tag hasContent =
      match Role.of tag, current with
      | .table, some t => .error (.nestedTable t.name)
      | .table, none =>
        (fun t =>
          if hasContent then below (depth + 1) tables (some t)
          else below depth (tables ++ [t]) none) <$> tableOf tag
      | .column, none => .error (.outsideTable "column")
      | .column, some t =>
        (fun c => below (depth + hasContent.toNat) tables
          (some { t with columns := t.columns ++ [c] })) <$> columnOf t.name tag
      | .relationship, none => .error (.outsideTable "relationship")
      | .relationship, some t =>
        (fun r => below (depth + hasContent.toNat) tables
          (some { t with relationships := t.relationships ++ [r] })) <$> relationshipOf t.name tag
      | .group, current => .ok (below (depth + hasContent.toNat) tables current)
      | .unknown, current =>
        .ok (
          if hasContent then (below depth tables current).skip ⟨elementName tag.name, tag.name, 0⟩
          else below depth tables current) := by
  unfold enter Role.of
  simp only [elementName_name]
  generalize tag.localName = element
  simp only [below, Bool.not_true, Bool.false_eq_true, if_false, Nat.add_one_ne_zero]
  split
  case h_1 =>
    cases current
    case none => cases tableOf tag <;> cases hasContent <;> rfl
    case some => rfl
  case h_2 =>
    cases current
    case none => rfl
    case some t =>
      change columnOf t.name tag >>= _ = _
      simp only []
      cases columnOf t.name tag <;> cases hasContent <;> rfl
  case h_3 =>
    cases current
    case none => rfl
    case some t =>
      change relationshipOf t.name tag >>= _ = _
      simp only []
      cases relationshipOf t.name tag <;> cases hasContent <;> rfl
  case h_4 | h_5 | h_6 => cases hasContent <;> rfl
  case h_7 =>
    simp only []
    cases hasContent <;> rfl

theorem Role.of_eq_table : Role.of tag = .table ↔ elementName tag.name = "table" := by
  rw [elementName_name]
  unfold Role.of
  split <;> simp_all

theorem leave_below :
    (below (depth + 1) tables current).leave tag.name =
      if Role.of tag = .table then below depth (tables ++ current.toList) none
      else below depth tables current := by
  simp only [Role.of_eq_table]
  cases current
  all_goals
    simp only [leave, below]
    split <;> simp

theorem foldlM_element (p : Progress) (o : Opening) (inside rest : Elements) :
    (Elements.cons o inside rest).events.foldlM step p = (do
      let q ← p.enter o.tag true
      let q ← inside.events.foldlM step q
      rest.events.foldlM step (q.leave o.tag.name)) := by
  simp only [Elements.events, List.foldlM_cons, List.foldlM_append]
  rfl

theorem leave_skip {element name name' : String} :
    ((below depth tables current).skip ⟨element, name, 0⟩).leave name' =
      below depth tables current :=
  rfl

theorem foldlM_skip (p : Progress) (s : Skipped) (e : Elements) :
    e.events.foldlM step (p.skip s) = .ok (p.skip s) := by
  induction e generalizing s
  case none => rfl
  case cons o inside rest hi hr =>
    have henter : (p.skip s).enter o.tag true = .ok (p.skip { s with depth := s.depth + 1 }) := rfl
    have hleave : (p.skip { s with depth := s.depth + 1 }).leave o.tag.name = p.skip s := by
      simp [leave, skip]
    rw [foldlM_element, henter, ok_bind, hi, ok_bind, hleave, hr]

theorem foldlM_inTable (t : TableRecord) (e : Elements) :
    e.events.foldlM step (below depth tables (some t)) =
      (fun t => below depth tables (some t)) <$> collect t e := by
  induction e generalizing depth t
  case none => rfl
  case cons o inside rest hi hr =>
    rw [foldlM_element, enter_below true]
    unfold collect
    cases h : Role.of o.tag
    case table => rfl
    case column | relationship | group =>
      simp only [ok_bind, bind_map_left, map_bind, Bool.toNat_true, hi, leave_below, h,
        reduceCtorEq, if_false, hr]
    case unknown => simp only [if_true, ok_bind, foldlM_skip, leave_skip, hr]

theorem foldlM_outside (e : Elements) :
    e.events.foldlM step (below depth tables none) =
      (fun more => below depth (tables ++ more) none) <$> tablesIn e := by
  induction e generalizing depth tables
  case none =>
    change _ = Except.ok (below depth (tables ++ []) none)
    rw [List.append_nil]
    rfl
  case cons o inside rest hi hr =>
    rw [foldlM_element, enter_below true]
    unfold tablesIn
    cases h : Role.of o.tag
    case table =>
      simp only [if_true, bind_map_left, map_bind, bind_pure_comp, Functor.map_map, foldlM_inTable,
        leave_below, h, hr, Option.toList_some, List.append_assoc, List.singleton_append]
    case column => rfl
    case relationship => rfl
    case group =>
      simp only [ok_bind, bind_map_left, map_bind, bind_pure_comp, Functor.map_map, Bool.toNat_true,
        hi, leave_below, h, reduceCtorEq, if_false, hr, List.append_assoc]
    case unknown => simp only [if_true, ok_bind, foldlM_skip, leave_skip, hr]

theorem enter_empty (hp : p.Sound) :
    p.enter tag false = (fun q => q.leave tag.name) <$> p.enter tag true := by
  -- In a skipped element, in front of the root element, behind it, or in it.
  rcases p.stands with ⟨s, hs⟩ | ⟨hs, hr⟩ | ⟨hs, hr, hd⟩ | ⟨depth, hb⟩
  case inl =>
    obtain ⟨rooted, depth, skipped, current, tables⟩ := p
    simp only at hs
    subst hs
    rfl
  case inr.inl => simp [enter, leave, nest, hs, hr, hp hr]
  case inr.inr.inl => simp [enter, hs, hr, hd]
  case inr.inr.inr =>
    rw [hb, enter_below, enter_below]
    cases h : Role.of tag
    case table =>
      cases p.current
      case some => rfl
      case none => simp [Functor.map_map, leave_below, h]
    case column | relationship =>
      cases p.current
      case none => rfl
      case some => simp [Functor.map_map, leave_below, h]
    case group => simp [leave_below, h]
    case unknown => exact congrArg Except.ok leave_skip.symm

theorem exists_of_enter_below {q : Progress} {hasContent : Bool}
    (h : (below depth tables current).enter tag hasContent = .ok q) :
    (∃ tables' current', q = below (depth + hasContent.toNat) tables' current') ∨
      hasContent = true ∧
        q = (below depth tables current).skip ⟨elementName tag.name, tag.name, 0⟩ := by
  rw [enter_below] at h
  cases hr : Role.of tag <;> cases hc : current
  all_goals simp only [hr, hc, reduceCtorEq, map_eq_ok, Except.ok.injEq] at h
  case table.none =>
    obtain ⟨t, -, rfl⟩ := h
    cases hasContent
    case false => exact .inl ⟨_, _, rfl⟩
    case true => exact .inl ⟨_, _, rfl⟩
  case column.some | relationship.some =>
    obtain ⟨_, -, rfl⟩ := h
    exact .inl ⟨_, _, rfl⟩
  case group.none | group.some =>
    subst h
    exact .inl ⟨_, _, rfl⟩
  case unknown.none | unknown.some =>
    subst h
    cases hasContent
    case false => exact .inl ⟨_, _, rfl⟩
    case true => exact .inr ⟨rfl, rfl⟩

theorem sound_of_enter {q : Progress} {hasContent : Bool} (hp : p.Sound)
    (h : p.enter tag hasContent = .ok q) : q.Sound := by
  have rooted {p' : Progress} (hr : p'.rooted = true) : p'.Sound :=
    fun h => absurd (hr.symm.trans h) (by decide)
  rcases p.stands with ⟨s, hs⟩ | ⟨hs, hr⟩ | ⟨hs, hr, hd⟩ | ⟨depth, hb⟩
  case inl =>
    simp only [enter, hs, Except.ok.injEq] at h
    subst h
    cases hasContent <;> exact hp
  case inr.inl =>
    simp only [enter, hs, hr, Bool.not_false, if_true, Except.ok.injEq] at h
    subst h
    cases hasContent <;> exact rooted rfl
  case inr.inr.inl => simp [enter, hs, hr, hd] at h
  case inr.inr.inr =>
    rw [hb] at h
    refine rooted ?_
    rcases exists_of_enter_below h with ⟨_, _, rfl⟩ | ⟨_, rfl⟩ <;> rfl

theorem rooted_leave (p : Progress) (name : String) : (p.leave name).rooted = p.rooted := by
  simp only [Progress.leave]
  split
  case h_1 => rfl
  case h_2 =>
    split
    case h_1 => split <;> rfl
    case h_2 => rfl

theorem Sound.leave (hp : p.Sound) (name : String) : (p.leave name).Sound := by
  intro h
  have hc := hp (p.rooted_leave name ▸ h)
  simp only [Progress.leave, hc]
  split <;> rfl

theorem sound_of_step {q : Progress} {e : Event} (hp : p.Sound) (h : p.step e = .ok q) :
    q.Sound := by
  cases e
  case start | empty =>
    rw [step] at h
    exact sound_of_enter hp h
  case close name =>
    cases h
    exact hp.leave name
  case fault => cases h

theorem sound_of_foldlM {events : List Event} {q : Progress} (hp : p.Sound)
    (h : events.foldlM step p = .ok q) : q.Sound := by
  induction events generalizing p
  case nil =>
    cases h
    exact hp
  case cons e events hi =>
    rw [List.foldlM_cons] at h
    have ⟨p', hs, hf⟩ := bind_eq_ok.mp h
    exact hi (sound_of_step hp hs) hf

theorem foldlM_elements (content : Content) (hp : p.Sound) :
    content.events.foldlM step p = content.elements.events.foldlM step p := by
  -- With one tag or with two an element is the same as long as `Sound` holds: only with a table open
  -- in front of the root element would it differ.
  induction content generalizing p
  case done => rfl
  case text t rest hi | comment c rest hi => exact hi hp
  case empty o rest hi =>
    rw [Content.events, Content.elements, foldlM_element, List.foldlM_cons, step, enter_empty hp]
    simp only [bind_map_left, Elements.events, List.foldlM_nil, pure_bind]
    exact bind_congr_ok fun q hq => hi ((sound_of_enter hp hq).leave _)
  case element o inside rest hi hr =>
    rw [Content.elements, foldlM_element, Content.events, List.foldlM_cons]
    simp only [List.foldlM_append, List.foldlM_cons]
    refine bind_congr_ok fun q hq => ?_
    have hq := sound_of_step hp hq
    rw [hi hq]
    exact bind_congr_ok fun q' hq' => hr ((sound_of_foldlM hq hq').leave _)

end Progress

-- Reading what was written for a document gives the tables that its elements describe, or the first
-- error that is met in them.
theorem tablesOfXmlText_chars (content : Content) :
    tablesOfXmlText content.chars = tablesOfDocument content.elements := by
  have hp : Progress.Sound {} := fun _ => rfl
  rw [tablesOfXmlText, Content.events_chars, Progress.read_eq_foldlM,
    Progress.foldlM_elements content hp]
  cases content.elements
  case none => rfl
  case cons root inside rest =>
    have henter : Progress.enter {} root.tag true = .ok (Progress.below 0 [] none) := rfl
    rw [Progress.foldlM_element, henter, ok_bind, Progress.foldlM_outside]
    cases rest
    case none =>
      rw [tablesOfDocument]
      cases tablesIn inside <;> rfl
    case cons o inside' rest' =>
      rw [tablesOfDocument, ← elementName_name]
      cases tablesIn inside
      case error => rfl
      case ok tables => rfl

end Description
end Relational
