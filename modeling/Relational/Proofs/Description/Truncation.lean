import Relational.Proofs.Description.CrossFormat
import Relational.Proofs.Description.Walk
import Relational.Proofs.Xml.Root

namespace Relational

namespace Description

open Xml (Event Tag Kind Scanned eventsFrom afterRoot?)

namespace Progress

variable {p q : Progress} {tag : Tag} {hasContent : Bool} {opened inner : List String}

def nesting (p : Progress) : Nat :=
  p.depth + p.skipped.elim 0 (·.depth + 1)

theorem nesting_of_enter (h : p.enter tag hasContent = .ok q) :
    q.nesting = p.nesting + hasContent.toNat := by
  rcases p.stands with ⟨s, hs⟩ | ⟨hs, hr⟩ | ⟨hs, hr, hd⟩ | ⟨depth, hb⟩
  case inl =>
    simp only [enter, hs, Except.ok.injEq] at h
    subst h
    cases hasContent
    case false => rfl
    case true => simp [nesting, hs, Nat.add_assoc]
  case inr.inl =>
    simp only [enter, hs, hr, Bool.not_false, if_true, Except.ok.injEq] at h
    subst h
    cases hasContent <;> simp [nesting, nest, hs]
  case inr.inr.inl => simp [enter, hs, hr, hd] at h
  case inr.inr.inr =>
    rw [hb] at h ⊢
    rcases exists_of_enter_below h with ⟨_, _, rfl⟩ | ⟨rfl, rfl⟩
    case inl => simp only [nesting, below, Option.elim]; omega
    case inr => rfl

theorem rooted_of_enter (hp : p.rooted = false → p.nesting = 0)
    (h : p.enter tag hasContent = .ok q) : q.rooted = true := by
  rcases p.stands with ⟨s, hs⟩ | ⟨hs, hr⟩ | ⟨hs, hr, hd⟩ | ⟨depth, hb⟩
  case inl =>
    simp only [enter, hs, Except.ok.injEq] at h
    have hr : p.rooted = true := by
      by_contra hr
      have := hp (Bool.eq_false_iff.mpr hr)
      simp [nesting, hs] at this
    subst h
    cases hasContent <;> exact hr
  case inr.inl =>
    simp only [enter, hs, hr, Bool.not_false, if_true, Except.ok.injEq] at h
    subst h
    cases hasContent <;> rfl
  case inr.inr.inl => simp [enter, hs, hr, hd] at h
  case inr.inr.inr =>
    rw [hb] at h
    rcases exists_of_enter_below h with ⟨_, _, rfl⟩ | ⟨_, rfl⟩ <;> rfl

theorem nesting_leave (p : Progress) (name : String) : (p.leave name).nesting = p.nesting - 1 := by
  unfold leave nesting
  split
  case h_1 s hs =>
    split
    case isTrue hd => simp [hs, hd]
    case isFalse hd =>
      simp only [hs, Option.elim]
      omega
  case h_2 hs =>
    dsimp only
    split
    case h_1 => split <;> simp [hs]
    case h_2 => simp [hs]

theorem ended_of_finish {tables : List TableRecord} (h : p.finish = .ok tables) :
    p.rooted = true ∧ p.nesting = 0 := by
  unfold finish at h
  split at h
  case h_1 => cases h
  case h_2 hs =>
    split at h
    case isTrue => cases h
    case isFalse hr =>
      split at h
      case h_1 => cases h
      case h_2 =>
        split at h
        case isTrue => cases h
        case isFalse hd => exact ⟨by simpa using hr, by simp [nesting, hs]; omega⟩

theorem enter_ended (hr : p.rooted = true) (hn : p.nesting = 0) :
    p.enter tag hasContent = .error (.afterRoot (elementName tag.name)) := by
  have ⟨hd, hs⟩ := Nat.add_eq_zero_iff.mp hn
  cases h : p.skipped
  case some => simp [h] at hs
  case none => simp [enter, h, hr, hd]

theorem foldlM_singleton (p : Progress) (e : Event) : [e].foldlM step p = p.step e := by
  rw [List.foldlM_cons]
  exact bind_pure _

theorem not_mem_of_foldlM {events : List Event} (h : events.foldlM step p = .ok q)
    (position : Nat) (fault : Xml.Fault) : .fault position fault ∉ events := by
  induction events generalizing p
  case nil => exact List.not_mem_nil
  case cons e events hi =>
    rw [List.foldlM_cons] at h
    have ⟨p', hs, h⟩ := bind_eq_ok.mp h
    rw [List.mem_cons, not_or]
    refine ⟨?_, hi h⟩
    rintro rfl
    cases hs

-- Where reading stands as long as the root element has not ended: in front of it, or in it.
structure Within (p : Progress) (opened : List String) : Prop where
  nesting : p.nesting = opened.length
  rooted  : p.rooted = true ↔ opened ≠ []

theorem Within.step {kind : Kind} {content : List Char} {events : List Event}
    (hw : p.Within opened) (hs : kind.events? content opened = some (events, inner))
    (h : events.foldlM step p = .ok q) (hr : kind.isElement = true → inner ≠ []) :
    q.Within inner := by
  -- In front of the root element nothing is open.
  have hp : p.rooted = false → p.nesting = 0 := by
    intro hf
    rw [hw.nesting, List.length_eq_zero_iff]
    by_contra hn
    simp [hw.rooted.mpr hn] at hf
  cases kind
  case tag =>
    simp only [Kind.events?, Option.some.injEq] at hs
    split at hs
    all_goals
      cases hs
      rw [foldlM_singleton, Progress.step] at h
      refine ⟨?_, by simp [rooted_of_enter hp h, hr rfl]⟩
      simp [nesting_of_enter h, hw.nesting]
  case endTag =>
    cases opened
    case nil => cases hs
    case cons name outer =>
      simp only [Kind.events?] at hs
      split_ifs at hs
      cases hs
      cases h
      refine ⟨by simp [nesting_leave, hw.nesting], ?_⟩
      simp [rooted_leave, hw.rooted, hr rfl]
  all_goals
    simp only [Kind.events?] at hs
    split_ifs at hs
    cases hs
    cases h
    exact hw

theorem Within.exists_afterRoot? {position : Nat} {cs : List Char} {tables : List TableRecord}
    (hw : p.Within opened) (h : p.read (eventsFrom position opened cs) = .ok tables) :
    ∃ rest, afterRoot? opened.length cs = some rest := by
  induction Xml.scanned cs generalizing p position opened
  case done =>
    -- An end of the text in front of the root element, or in it, would have been an error.
    rw [Xml.eventsFrom_nil] at h
    have ⟨hr, hn⟩ := ended_of_finish h
    rw [hw.nesting, List.length_eq_zero_iff] at hn
    exact absurd hn (hw.rooted.mp hr)
  case char hc _ hi =>
    rw [Xml.eventsFrom_char position opened hc] at h
    rw [Xml.afterRoot?_char hc]
    exact hi hw h
  case broken hc =>
    have ⟨_, _, he⟩ := Xml.eventsFrom_broken position opened hc
    rw [he] at h
    cases h
  case markup markup content rest hc _ hi =>
    cases hs : (Kind.of markup).events? content opened
    case none =>
      have ⟨_, _, he⟩ := Xml.eventsFrom_fault rfl hc hs position
      rw [he] at h
      cases h
    case some passed =>
      obtain ⟨events, inner⟩ := passed
      rw [Xml.eventsFrom_markup rfl hc hs, read_eq_foldlM, List.foldlM_append, bind_assoc] at h
      have ⟨q, hq, h⟩ := bind_eq_ok.mp h
      rw [← read_eq_foldlM] at h
      rw [Xml.afterRoot?_markup rfl hc, ← Kind.length_of_events? hs]
      split
      case isTrue => exact ⟨rest, rfl⟩
      case isFalse hn => exact hi (hw.step hs hq (by simpa using hn)) h

end Progress

theorem exists_afterRoot? {cs : List Char} {tables : List TableRecord}
    (h : tablesOfXmlText cs = .ok tables) : ∃ rest, afterRoot? 0 cs = some rest :=
  Progress.Within.exists_afterRoot? ⟨rfl, by simp⟩ h

theorem tablesOfXmlText_append {cs markup : List Char} {tables : List TableRecord}
    (h : tablesOfXmlText cs = .ok tables) (hk : Kind.of markup = .tag) :
    ∃ e, tablesOfXmlText (cs ++ '<' :: markup) = .error e := by
  rw [tablesOfXmlText, Progress.read_eq_foldlM] at h
  obtain ⟨p, hp, hf⟩ := bind_eq_ok.mp h
  obtain ⟨next, inner, he⟩ := Xml.eventsFrom_append (Progress.not_mem_of_foldlM hp) ('<' :: markup)
  obtain ⟨hr, hn⟩ := Progress.ended_of_finish hf
  rw [tablesOfXmlText, Xml.events, he, Progress.read_eq_foldlM, List.foldlM_append, bind_assoc]
  rw [Xml.events] at hp
  rw [hp, ok_bind, ← Progress.read_eq_foldlM]
  cases hc : Kind.tag.cut markup
  case none =>
    obtain ⟨_, _, hb⟩ := Xml.eventsFrom_broken next inner (hk ▸ hc)
    exact ⟨_, by rw [hb, Progress.read]⟩
  case some parts =>
    obtain ⟨content, rest⟩ := parts
    obtain ⟨⟨events, opened⟩, hs⟩ : ∃ passed, Kind.tag.events? content inner = some passed :=
      ⟨_, rfl⟩
    rw [Xml.eventsFrom_markup hk hc hs]
    simp only [Kind.events?, Option.some.injEq] at hs
    split at hs
    all_goals
      cases hs
      simp only [List.cons_append, Progress.read, Progress.enter_ended hr hn]
      exact ⟨_, rfl⟩

theorem eq_toUTF8_of_fromUTF8? {bytes : ByteArray} {s : String}
    (h : String.fromUTF8? bytes = some s) : bytes = s.toUTF8 := by
  rw [String.fromUTF8?] at h
  split_ifs at h
  cases h
  rfl

theorem exists_append_of_toUTF8 {s front : String} {rest : ByteArray}
    (h : front.toUTF8 ++ rest = s.toUTF8) : ∃ back, s = front ++ back := by
  obtain ⟨cs, rfl⟩ := s.exists_eq_ofList
  obtain ⟨ds, rfl⟩ := front.exists_eq_ofList
  simp only [String.toUTF8_eq_toByteArray, String.toByteArray_ofList] at h
  have ⟨more, he⟩ := List.isPrefix_of_utf8Encode_append_eq_utf8Encode rest h
  exact ⟨String.ofList more, by rw [← he, String.ofList_append]⟩

theorem dropWhile_mark (cs markup : List Char) :
    (cs ++ '<' :: markup).dropWhile (· == byteOrderMark) =
      cs.dropWhile (· == byteOrderMark) ++ '<' :: markup := by
  rw [List.dropWhile_append]
  split
  case isTrue he =>
    rw [List.isEmpty_iff.mp he]
    rfl
  case isFalse => rfl

theorem exists_text_of_readXml {bytes : ByteArray} {tables : List TableRecord}
    (h : readXml bytes = .ok tables) : ∃ text : String, bytes = text.toUTF8 ∧
      tablesOfXmlText (text.toList.dropWhile (· == byteOrderMark)) = .ok tables := by
  rw [readXml] at h
  split at h
  case h_1 => cases h
  case h_2 text ht => exact ⟨text, eq_toUTF8_of_fromUTF8? ht, h⟩

end Description

open Description

theorem Schema.exists_text {bytes : ByteArray} {s : Schema} (h : Schema.read .xml bytes = .ok s) :
    ∃ (text : String) (tables : List TableRecord), bytes = text.toUTF8 ∧
      tablesOfXmlText (text.toList.dropWhile (· == byteOrderMark)) = .ok tables := by
  have ⟨tables, ht, _⟩ := bind_eq_ok.mp h
  have ⟨text, hb, ht⟩ := exists_text_of_readXml (mapError_eq_ok.mp ht)
  exact ⟨text, tables, hb, ht⟩

theorem Schema.exists_afterRoot? {bytes : ByteArray} {s : Schema}
    (h : Schema.read .xml bytes = .ok s) :
    ∃ front back : String, bytes = (front ++ ">" ++ back).toUTF8 ∧
      Xml.afterRoot? 0 (front ++ ">" ++ back).toList = some back.toList := by
  have ⟨text, _, hb, ht⟩ := exists_text h
  have ⟨back, ha⟩ := Description.exists_afterRoot? ht
  rw [Xml.afterRoot?_dropWhile (by decide)] at ha
  have ⟨front, hf⟩ := Xml.exists_of_afterRoot? ha
  have he : text = String.ofList front ++ ">" ++ String.ofList back := by
    apply String.toList_injective
    simp [hf]
  exact ⟨String.ofList front, String.ofList back, he ▸ hb, by rw [← he, String.toList_ofList, ha]⟩

-- Only a document as a whole is read: it is an error if the last byte of its root element is
-- missing, or more in front of that, and if another element follows.
theorem Schema.read_xml_whole {bytes : ByteArray} {s : Schema}
    (h : Schema.read .xml bytes = .ok s) :
    ∃ front back : String, bytes = (front ++ ">" ++ back).toUTF8 ∧
      Xml.afterRoot? 0 (front ++ ">" ++ back).toList = some back.toList ∧
      (∀ part missing, part ++ missing = bytes → part.size ≤ front.utf8ByteSize →
        ∃ e, Schema.read .xml part = .error e) ∧
      ∀ tag : String, Xml.BeginsTag tag.toList → ∀ more,
        ∃ e, Schema.read .xml (bytes ++ tag.toUTF8 ++ more) = .error e := by
  have ⟨front, back, hb, ha⟩ := exists_afterRoot? h
  refine ⟨front, back, hb, ha, fun part missing hp hs => ?part, fun tag ht more => ?longer⟩
  case part =>
    cases hr : Schema.read .xml part
    case error e => exact ⟨e, rfl⟩
    case ok s' =>
      have ⟨front', back', hb', ha'⟩ := exists_afterRoot? hr
      have ⟨more, hm⟩ := exists_append_of_toUTF8 (hb' ▸ hp.trans hb)
      -- The root element ends in the part, so it ends there in the whole document too.
      have he := Xml.afterRoot?_append ha' more.toList
      rw [← String.toList_append, ← hm, ha, ← String.toList_append, Option.some.injEq,
        String.toList_inj] at he
      have hsize := congrArg String.utf8ByteSize hm
      rw [hb', String.toUTF8_eq_toByteArray, String.size_toByteArray] at hs
      simp only [he, String.utf8ByteSize_append] at hsize hs
      have : ">".utf8ByteSize = 1 := rfl
      omega
  case longer =>
    cases hr : Schema.read .xml (bytes ++ tag.toUTF8 ++ more)
    case error e => exact ⟨e, rfl⟩
    case ok s' =>
      have ⟨text, _, hb, hd⟩ := exists_text h
      have ⟨text', _, hb', hd'⟩ := exists_text hr
      have hp : (text ++ tag).toUTF8 ++ more = text'.toUTF8 := by
        rw [← hb', hb]
        rfl
      have ⟨more, hm⟩ := exists_append_of_toUTF8 hp
      have ⟨markup, he, hk⟩ := ht.exists_markup more.toList
      rw [hm, String.toList_append, String.toList_append, List.append_assoc, he,
        dropWhile_mark] at hd'
      have ⟨e, he⟩ := tablesOfXmlText_append hd hk
      cases he.symm.trans hd'

def cutDocument : String :=
  "<schema><table table-name=\"tag\" join-table=\"false\"><column name=\"id\" type=\"INT\" " ++
  "primary-key=\"false\" auto-increment=\"false\"/></table>"

def wholeDocument : String := cutDocument ++ "</schema>"

def tagRecord : TableRecord where
  name := "tag"
  columns := [{ name := "id", type := "INT" }]

theorem chars_tagRecord : (xmlOf [tagRecord]).chars = wholeDocument.toList := by
  decide +kernel

theorem exists_read_wholeDocument : ∃ s, Schema.read .xml wholeDocument.toUTF8 = .ok s := by
  have hb : xmlBytes [tagRecord] = wholeDocument.toUTF8 := by
    rw [xmlBytes, chars_tagRecord, String.ofList_toList]
  rw [← hb, Schema.read_xml_xmlBytes [tagRecord] (by decide)]
  exact ⟨_, rfl⟩

theorem read_xml_whole_cut :
    (∃ s, Schema.read .xml wholeDocument.toUTF8 = .ok s) ∧
    (∃ e, Schema.read .xml cutDocument.toUTF8 = .error e) ∧
    ∃ e, Schema.read .xml (wholeDocument.toUTF8 ++ "<table name=\"u\"/>".toUTF8) = .error e := by
  obtain ⟨s, hs⟩ := exists_read_wholeDocument
  obtain ⟨front, back, hb, ha, hp, hl⟩ := Schema.read_xml_whole hs
  have hd : wholeDocument = front ++ ">" ++ back := String.toByteArray_inj.mp hb
  have hr : back = "" := by
    have he := Xml.Content.afterRoot?_chars (xmlOf [tagRecord])
    rw [chars_tagRecord, hd, ha] at he
    exact String.toList_injective (Option.some.inj he)
  refine ⟨⟨s, hs⟩, hp cutDocument.toUTF8 "</schema>".toUTF8 rfl ?part, ?longer⟩
  case part =>
    have hs := congrArg String.utf8ByteSize hd
    simp only [hr, wholeDocument, String.utf8ByteSize_append] at hs
    have : "</schema>".utf8ByteSize = 9 ∧ ">".utf8ByteSize = 1 ∧ "".utf8ByteSize = 0 := by decide
    rw [String.toUTF8_eq_toByteArray, String.size_toByteArray]
    omega
  case longer =>
    obtain ⟨e, he⟩ := hl "<table name=\"u\"/>" ⟨'t', _, rfl, by decide⟩ ByteArray.empty
    exact ⟨e, by simpa using he⟩

end Relational
