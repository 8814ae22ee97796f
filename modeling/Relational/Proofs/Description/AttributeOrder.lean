import Mathlib.Data.List.Forall2
import Mathlib.Data.Option.Basic
import Relational.Proofs.Description.Parsed
import Relational.Proofs.Description.Truncation

namespace Relational

namespace Xml

-- Text that does not break off inside of markup.
inductive Whole : List Char → Prop
  | done : Whole []
  | char {c : Char} {cs : List Char} (hc : c ≠ '<') (h : Whole cs) : Whole (c :: cs)
  | markup {markup content rest : List Char}
    (hc : (Kind.of markup).cut markup = some (content, rest)) (h : Whole rest) :
    Whole ('<' :: markup)

theorem Whole.dropWhile {p : Char → Bool} (hp : p '<' = false) {cs : List Char} (h : Whole cs) :
    Whole (cs.dropWhile p) := by
  induction h
  case done => exact .done
  case char c cs hc h hi =>
    cases hb : p c
    case false => simpa [hb] using .char hc h
    case true => simpa [hb] using hi
  case markup hc h _ => simpa [hp] using .markup hc h

end Xml

namespace Description

open Xml (Tag Event Kind Whole WrittenTag WrittenAttribute Attribute attribute? attributes?
  eventsFrom)

namespace Attributes

variable {a b : Attributes}

def Alike (a b : Attributes) : Prop :=
  ∀ key, a.lookup key = b.lookup key

theorem Alike.get? (h : a.Alike b) (keys : List String) : a.get? keys = b.get? keys := by
  simp only [Attributes.get?, h _]

theorem Alike.required (h : a.Alike b) (element : String) (table : Option String)
    (keys : List String) : a.required element table keys = b.required element table keys := by
  simp only [Attributes.required, h.get?]

theorem Alike.flag (h : a.Alike b) (element : String) (keys : List String) :
    a.flag element keys = b.flag element keys := by
  simp only [Attributes.flag, h.get?]

theorem toOption_read (element : String) (tag : Tag) :
    (read element tag).toOption =
      tag.readAttributes.toOption.map fun as =>
        (as.map fun a => (attributeKey a.name, a.value)).reverse := by
  rw [read]
  cases tag.readAttributes <;> rfl

end Attributes

structure SameValues (tag tag' : Tag) : Prop where
  name : tag'.name = tag.name
  values : ∀ element, Option.Rel Attributes.Alike
    (Attributes.read element tag).toOption (Attributes.read element tag').toOption

namespace SameValues

variable {tag tag' : Tag} (h : SameValues tag tag')
include h

theorem toOption_bind {α : Type} (element : String) {f : Attributes → Except XmlError α}
    (hf : ∀ a b, a.Alike b → f a = f b) :
    (Attributes.read element tag >>= f).toOption =
      (Attributes.read element tag' >>= f).toOption := by
  rw [Relational.toOption_bind, Relational.toOption_bind]
  have hv := h.values element
  generalize (Attributes.read element tag).toOption = x at hv ⊢
  generalize (Attributes.read element tag').toOption = y at hv ⊢
  cases hv
  case some hab => rw [Option.bind_some, Option.bind_some, hf _ _ hab]
  case none => rfl

theorem toOption_tableOf : (tableOf tag).toOption = (tableOf tag').toOption :=
  h.toOption_bind "table" fun a b hab => by simp only [hab.required, hab.flag]

theorem toOption_columnOf (table : String) :
    (columnOf table tag).toOption = (columnOf table tag').toOption :=
  h.toOption_bind "column" fun a b hab => by simp only [hab.required, hab.flag]

theorem toOption_relationshipOf (table : String) :
    (relationshipOf table tag).toOption = (relationshipOf table tag').toOption :=
  h.toOption_bind "relationship" fun a b hab => by simp only [hab.required, hab.flag, hab.get?]

end SameValues

namespace Progress

variable {tag tag' : Tag}

theorem toOption_enter (h : SameValues tag tag') (p : Progress) (hasContent : Bool) :
    (p.enter tag hasContent).toOption = (p.enter tag' hasContent).toOption := by
  rcases p.stands with ⟨s, hs⟩ | ⟨hs, hr⟩ | ⟨hs, hr, hd⟩ | ⟨depth, hb⟩
  case inl => simp only [enter, hs]
  case inr.inl => simp [enter, hs, hr]
  case inr.inr.inl => simp [enter, hs, hr, hd, h.name]
  case inr.inr.inr =>
    have hrole : Role.of tag' = Role.of tag := by simp only [Role.of, Xml.Tag.localName, h.name]
    rw [hb, enter_below, enter_below, hrole, h.name]
    cases Role.of tag <;> cases p.current
    case table.none => simp only [toOption_map, h.toOption_tableOf]
    case column.some t => simp only [toOption_map, h.toOption_columnOf]
    case relationship.some t => simp only [toOption_map, h.toOption_relationshipOf]
    all_goals rfl

theorem toOption_read_append (p : Progress) (events more : List Event) :
    (p.read (events ++ more)).toOption =
      (events.foldlM step p).toOption.bind fun q => (q.read more).toOption := by
  simp only [read_eq_foldlM, List.foldlM_append, bind_assoc]
  exact toOption_bind _ _

theorem toOption_read_cons (p : Progress) (e : Event) (more : List Event) :
    (p.read (e :: more)).toOption = (p.step e).toOption.bind fun q => (q.read more).toOption := by
  simp only [read_eq_foldlM, List.foldlM_cons, bind_assoc]
  exact toOption_bind _ _

-- Where markup stands is only told in errors.
theorem toOption_read_position (cs : List Char) (p : Progress) (opened : List String)
    (i j : Nat) :
    (p.read (eventsFrom i opened cs)).toOption = (p.read (eventsFrom j opened cs)).toOption := by
  induction Xml.scanned cs generalizing p opened i j
  case done => rw [Xml.eventsFrom_nil, Xml.eventsFrom_nil]
  case char hc _ hi =>
    rw [Xml.eventsFrom_char i opened hc, Xml.eventsFrom_char j opened hc]
    exact hi ..
  case broken hc =>
    have ⟨_, _, hi⟩ := Xml.eventsFrom_broken i opened hc
    have ⟨_, _, hj⟩ := Xml.eventsFrom_broken j opened hc
    rw [hi, hj]
    rfl
  case markup markup content rest hc _ hi =>
    cases hs : (Kind.of markup).events? content opened
    case none =>
      have ⟨_, _, hi⟩ := Xml.eventsFrom_fault rfl hc hs i
      have ⟨_, _, hj⟩ := Xml.eventsFrom_fault rfl hc hs j
      rw [hi, hj]
      rfl
    case some passed =>
      obtain ⟨events, inner⟩ := passed
      rw [Xml.eventsFrom_markup rfl hc hs, Xml.eventsFrom_markup rfl hc hs, toOption_read_append,
        toOption_read_append]
      exact congrArg _ (funext fun q => hi ..)

theorem toOption_read_front {front cs ds : List Char} (hf : Whole front)
    (h : ∀ (p : Progress) (i : Nat) (opened : List String),
      (p.read (eventsFrom i opened cs)).toOption = (p.read (eventsFrom i opened ds)).toOption)
    (p : Progress) (i : Nat) (opened : List String) :
    (p.read (eventsFrom i opened (front ++ cs))).toOption =
      (p.read (eventsFrom i opened (front ++ ds))).toOption := by
  induction hf generalizing p i opened
  case done => exact h ..
  case char hc _ hi =>
    rw [List.cons_append, List.cons_append, Xml.eventsFrom_char i opened hc,
      Xml.eventsFrom_char i opened hc]
    exact hi ..
  case markup markup content rest hc _ hi =>
    have hk (more : List Char) := Kind.of_append hc more
    have hc' (more : List Char) := Kind.cut_append hc more
    rw [List.cons_append, List.cons_append]
    cases hs : (Kind.of markup).events? content opened
    case none =>
      have ⟨_, _, hi⟩ := Xml.eventsFrom_fault (hk cs) (hc' cs) hs i
      have ⟨_, _, hj⟩ := Xml.eventsFrom_fault (hk ds) (hc' ds) hs i
      rw [hi, hj]
      rfl
    case some passed =>
      obtain ⟨events, inner⟩ := passed
      rw [Xml.eventsFrom_markup (hk cs) (hc' cs) hs, Xml.eventsFrom_markup (hk ds) (hc' ds) hs,
        toOption_read_append, toOption_read_append]
      exact congrArg _ (funext fun q => hi ..)

theorem toOption_read_tag {o o' : WrittenTag} (h : SameValues o.tag o'.tag)
    (he : o'.isEmpty = o.isEmpty) (rest : List Char) (p : Progress) (i : Nat)
    (opened : List String) :
    (p.read (eventsFrom i opened ('<' :: (o.chars ++ '>' :: rest)))).toOption =
      (p.read (eventsFrom i opened ('<' :: (o'.chars ++ '>' :: rest)))).toOption := by
  have hstep (o : WrittenTag) : p.step o.event = p.enter o.tag !o.isEmpty := by
    rw [WrittenTag.event]
    cases o.isEmpty <;> rfl
  obtain ⟨j, hj⟩ := Xml.eventsFrom_tag i opened rest o
  obtain ⟨j', hj'⟩ := Xml.eventsFrom_tag i opened rest o'
  have ho : o'.openAfter opened = o.openAfter opened := by
    rw [WrittenTag.openAfter, WrittenTag.openAfter, he, h.name]
  rw [hj, hj', toOption_read_cons, toOption_read_cons, hstep, hstep, he, toOption_enter h, ho]
  exact congrArg _ (funext fun q => toOption_read_position ..)

end Progress

section

variable {said said' : List (List Char × List Char)} {as : List Attribute}

def last? (said : List (List Char × List Char)) (key : String) : Option (List Char × List Char) :=
  said.reverse.find? fun s => attributeKey (String.ofList s.1) == key

theorem isSome_attributes? : (attributes? said).isSome ↔
    (said.map (·.1)).Nodup ∧ ∀ s ∈ said, (attribute? s).isSome := by
  unfold attributes?
  split_ifs with hn
  case pos => simp [isSome_mapM, hn]
  case neg => simp [hn]

theorem lookup_of_forall₂ (h : List.Forall₂ (fun s a => attribute? s = some a) said as)
    (key : String) :
    (as.map fun a => (attributeKey a.name, a.value)).lookup key =
      (said.find? fun s => attributeKey (String.ofList s.1) == key).bind fun s =>
        (attribute? s).map (·.value) := by
  induction h
  case nil => rfl
  case cons s a said as hs _ hi =>
    have hn : a.name = String.ofList s.1 := by
      have ⟨_, _, he⟩ := Option.map_eq_some_iff.mp hs
      rw [← he]
    rw [List.map_cons, List.lookup_cons, List.find?_cons, hn, BEq.comm]
    cases attributeKey (String.ofList s.1) == key
    case false => exact hi
    case true => simp [hs]

theorem lookup_attributes? (h : attributes? said = some as) (key : String) :
    ((as.map fun a => (attributeKey a.name, a.value)).reverse).lookup key =
      (last? said key).bind fun s => (attribute? s).map (·.value) := by
  unfold attributes? at h
  split_ifs at h
  rw [← List.map_reverse, last?]
  exact lookup_of_forall₂ (List.forall₂_reverse_iff.mpr (mapM_eq_some.mp h)) key

theorem rel_attributes? (hp : said'.Perm said)
    (hl : (said.map (·.1)).Nodup → ∀ key, last? said' key = last? said key) :
    Option.Rel
      (fun as as' : List Attribute => Attributes.Alike
        (as.map fun a => (attributeKey a.name, a.value)).reverse
        (as'.map fun a => (attributeKey a.name, a.value)).reverse)
      (attributes? said) (attributes? said') := by
  have hs : (attributes? said').isSome ↔ (attributes? said).isSome := by
    simp only [isSome_attributes?, (hp.map _).nodup_iff, hp.mem_iff]
  cases h : attributes? said
  case none =>
    rw [h] at hs
    cases h' : attributes? said'
    case none => exact .none
    case some => simp [h'] at hs
  case some as =>
    have hn := (isSome_attributes?.mp (by simp [h] : (attributes? said).isSome)).1
    rw [h] at hs
    have ⟨as', h'⟩ := Option.isSome_iff_exists.mp (hs.mpr rfl)
    rw [h']
    refine .some fun key => ?_
    rw [lookup_attributes? h, lookup_attributes? h', hl hn]

end

-- The same tag with its attributes in another order, in which the same attributes count. Spaces and
-- quotes may differ too.
structure Rearranged (o o' : WrittenTag) : Prop where
  name : o'.name = o.name
  isEmpty : o'.isEmpty = o.isEmpty
  said : (o'.attributes.map (·.said)).Perm (o.attributes.map (·.said))
  last : (o.attributes.map (·.name.chars)).Nodup → ∀ key,
    last? (o'.attributes.map (·.said)) key = last? (o.attributes.map (·.said)) key

theorem Rearranged.sameValues {o o' : WrittenTag} (h : Rearranged o o') :
    SameValues o.tag o'.tag := by
  refine ⟨by rw [WrittenTag.tag, WrittenTag.tag, h.name], fun element => ?_⟩
  have hn : (o.attributes.map (·.said)).map (·.1) = o.attributes.map (·.name.chars) := by
    rw [List.map_map]
    rfl
  have hr := rel_attributes? h.said (hn ▸ h.last)
  rw [Attributes.toOption_read, Attributes.toOption_read, o.toOption_readAttributes,
    o'.toOption_readAttributes]
  generalize attributes? (o.attributes.map (·.said)) = x at hr ⊢
  generalize attributes? (o'.attributes.map (·.said)) = y at hr ⊢
  cases hr
  case some h => exact .some h
  case none => exact .none

theorem find?_eq_of_perm {α : Type} {p : α → Bool} {as bs : List α} (h : as.Perm bs)
    (hp : ∀ a ∈ as, ∀ b ∈ as, p a → p b → a = b) : as.find? p = bs.find? p := by
  cases ha : as.find? p
  case none =>
    rw [List.find?_eq_none] at ha
    exact (List.find?_eq_none.mpr fun b hb => ha b (h.mem_iff.mpr hb)).symm
  case some a =>
    have hm := List.mem_of_find?_eq_some ha
    have ⟨b, hb⟩ := Option.isSome_iff_exists.mp
      (List.find?_isSome.mpr ⟨a, h.mem_iff.mp hm, List.find?_some ha⟩)
    rw [hb, hp a hm b (h.mem_iff.mpr (List.mem_of_find?_eq_some hb)) (List.find?_some ha)
      (List.find?_some hb)]

theorem Rearranged.of_perm {o o' : WrittenTag} (hname : o'.name = o.name)
    (hempty : o'.isEmpty = o.isEmpty)
    (hsaid : (o'.attributes.map (·.said)).Perm (o.attributes.map (·.said)))
    (hkeys : ∀ a ∈ o.attributes, ∀ b ∈ o.attributes,
      attributeKey (String.ofList a.name.chars) = attributeKey (String.ofList b.name.chars) →
        a.name.chars = b.name.chars) :
    Rearranged o o' := by
  refine ⟨hname, hempty, hsaid, fun hn key => (find?_eq_of_perm ?perm ?unique).symm⟩
  case perm => exact (List.reverse_perm _).trans (hsaid.symm.trans (List.reverse_perm _).symm)
  case unique =>
    simp only [List.mem_reverse, List.mem_map, beq_iff_eq]
    rintro _ ⟨a, ha, rfl⟩ _ ⟨b, hb, rfl⟩ hka hkb
    rw [List.inj_on_of_nodup_map hn ha hb (hkeys a ha b hb (hka.trans hkb.symm))]

end Description

open Description

def Xml.WrittenTag.text (o : Xml.WrittenTag) : String :=
  String.ofList ('<' :: (o.chars ++ ['>']))

theorem toOption_readXml_rearranged {front : String} (hf : Xml.Whole front.toList)
    {o o' : Xml.WrittenTag} (h : Rearranged o o') (back : String) :
    (readXml (front ++ o.text ++ back).toUTF8).toOption =
      (readXml (front ++ o'.text ++ back).toUTF8).toOption := by
  have hchars (o : Xml.WrittenTag) :
      (front ++ o.text ++ back).toList.dropWhile (· == byteOrderMark) =
        front.toList.dropWhile (· == byteOrderMark) ++ '<' :: (o.chars ++ '>' :: back.toList) := by
    simp only [Xml.WrittenTag.text, String.toList_append, String.toList_ofList, List.append_assoc,
      List.cons_append, List.nil_append, dropWhile_mark]
  simp only [readXml, fromUTF8?_toUTF8, hchars, tablesOfXmlText, Xml.events]
  exact Progress.toOption_read_front (hf.dropWhile (by decide))
    (Progress.toOption_read_tag h.sameValues h.isEmpty back.toList) {} 0 []

-- Documents that differ only in the order of the attributes of one tag describe the same schema, or
-- are both no descriptions, unless another attribute counts of those that have one key.
theorem Schema.read_rearranged {front : String} (hf : Xml.Whole front.toList)
    {o o' : Xml.WrittenTag} (h : Rearranged o o') (back : String) :
    (Schema.read .xml (front ++ o.text ++ back).toUTF8).toOption =
      (Schema.read .xml (front ++ o'.text ++ back).toUTF8).toOption := by
  have hr (bytes : ByteArray) : (Schema.read .xml bytes).toOption =
      (readXml bytes).toOption.bind fun records => (Schema.ofRecords records).toOption := by
    rw [Schema.read, toOption_bind, Description.records]
    cases readXml bytes
    case error => rfl
    case ok records =>
      cases hs : Schema.ofRecords records <;> simp [Except.toOption, Except.mapError, hs]
  rw [hr, hr, toOption_readXml_rearranged hf h back]

namespace Spellings

open Xml

def front : String := "<database><table table-name=\"t\" join-table=\"false\">"

def back : String := "</table></database>"

theorem whole_front : Whole front.toList :=
  .markup rfl (.markup rfl .done)

def tableRecord : TableRecord where
  name := "t"

def record : ColumnRecord where
  name := "id"
  type := "INT"
  primaryKey := true

def column (settings : List Setting) : Opening where
  name := record.opening.name
  settings := settings

def root : Opening := ⟨.of "database", []⟩

def document (o : Opening) : Content :=
  .element root (.element tableRecord.opening (.empty o .done) .done) .done

def schemaWith (primaryKey : Bool) : Schema where
  tables := [{ name := "t", columns := [{ name := "id", type := "INT", primaryKey }] }]

theorem chars_document (o : Opening) :
    (front ++ (o.written true).text ++ back).toList = (document o).chars := by
  have ht : tableRecord.opening.chars = "table table-name=\"t\" join-table=\"false\"".toList := by
    decide
  have hr : root.chars = "database".toList := by decide
  have hn : root.name.chars = "database".toList ∧
      tableRecord.opening.name.chars = "table".toList := by
    decide
  simp [WrittenTag.text, o.chars_written_true, document, Content.chars, front, back, ht, hr, hn]

theorem read_document {settings : List Setting} {primaryKey : Bool}
    (h : columnOf "t" (column settings).tag = .ok { name := "id", type := "INT", primaryKey }) :
    Schema.read .xml (front ++ ((column settings).written true).text ++ back).toUTF8 =
      .ok (schemaWith primaryKey) := by
  have htable : (Progress.inRoot []).enter tableRecord.opening.tag true =
      .ok (.inTable [] { name := "t" }) := by
    have ht : tableOf tableRecord.opening.tag = .ok { name := "t" } :=
      toOption_eq_some.mp ((tableOf_opening tableRecord).trans (by decide))
    rw [Progress.enter_table, ht]
    rfl
  have hcolumn : (Progress.inTable [] { name := "t" }).enter (column settings).tag false =
      .ok (.inTable [] { name := "t", columns := [⟨"id", "INT", primaryKey, false⟩] }) := by
    have hn : (column settings).tag.name = "column" := String.ofList_toList
    have hr : Role.of (column settings).tag = .column := by
      rw [Role.of, ← elementName_name, hn, Progress.elementName_eq.2.1]
      rfl
    refine (Progress.enter_below false).trans ?_
    rw [hr]
    dsimp only
    rw [h]
    rfl
  have hx : tablesOfXmlText (document (column settings)).chars =
      .ok [{ name := "t", columns := [⟨"id", "INT", primaryKey, false⟩] }] := by
    have hroot : Progress.enter {} root.tag true = .ok (.inRoot []) := rfl
    rw [tablesOfXmlText, Content.events_chars]
    simp only [document, Content.events, List.cons_append, List.nil_append, Progress.read,
      hroot, htable, hcolumn]
    rfl
  have hd : (document (column settings)).chars.dropWhile (· == byteOrderMark) =
      (document (column settings)).chars := by
    rw [document, Content.chars]
    rfl
  have hr : readXml (front ++ ((column settings).written true).text ++ back).toUTF8 =
      .ok [{ name := "t", columns := [⟨"id", "INT", primaryKey, false⟩] }] := by
    rw [readXml, fromUTF8?_toUTF8]
    simp only [chars_document, hd, hx]
  have hs : Schema.ofRecords
      [{ name := "t", columns := [⟨"id", "INT", primaryKey, false⟩] }] =
      .ok (schemaWith primaryKey) := by
    cases primaryKey <;> decide
  exact Schema.read_eq_ok.mpr ⟨_, by rw [Description.records, hr]; rfl, hs⟩

def unkeyed : Setting := ⟨.of "primaryKey", "false"⟩

def unkeyedLast : WrittenTag := (column (record.opening.settings ++ [unkeyed])).written true

def unkeyedFirst : WrittenTag := (column (unkeyed :: record.opening.settings)).written true

theorem read_unkeyed_ne :
    (unkeyedFirst.attributes.map (·.said)).Perm (unkeyedLast.attributes.map (·.said)) ∧
    (unkeyedLast.attributes.map (·.name.chars)).Nodup ∧
    unkeyedLast.text = "<column name=\"id\" type=\"INT\" primary-key=\"true\" " ++
      "auto-increment=\"false\" primaryKey=\"false\"/>" ∧
    unkeyedFirst.text = "<column primaryKey=\"false\" name=\"id\" type=\"INT\" " ++
      "primary-key=\"true\" auto-increment=\"false\"/>" ∧
    Schema.read .xml (front ++ unkeyedLast.text ++ back).toUTF8 = .ok (schemaWith false) ∧
    Schema.read .xml (front ++ unkeyedFirst.text ++ back).toUTF8 = .ok (schemaWith true) := by
  refine ⟨by decide, by decide, by decide, by decide, read_document ?last, read_document ?first⟩
  all_goals
    rw [columnOf, read_tag _ _ (by decide)]
    rfl

def turned : WrittenTag := (column record.opening.settings.reverse).written true

theorem read_rearranged_turned :
    Rearranged (record.opening.written true) turned ∧
    Schema.read .xml (front ++ turned.text ++ back).toUTF8 = .ok (schemaWith true) := by
  have hr : Rearranged (record.opening.written true) turned :=
    .of_perm rfl rfl (by decide) (by decide)
  have hc : columnOf "t" (column record.opening.settings).tag =
      .ok { name := "id", type := "INT", primaryKey := true } := by
    rw [columnOf, read_tag _ _ (by decide)]
    rfl
  refine ⟨hr, toOption_eq_some.mp ?_⟩
  rw [← Schema.read_rearranged whole_front hr back]
  exact toOption_eq_some.mpr (read_document hc)

end Spellings

end Relational
