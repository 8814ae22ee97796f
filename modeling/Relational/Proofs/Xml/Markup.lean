import Relational.Proofs.Xml.Attribute
import Relational.Xml.Event

namespace Relational.Xml

open Text

-- A tag as it may stand in front of an element or in the place of an empty one.
structure WrittenTag where
  name : Name
  attributes : List WrittenAttribute
  after : List Char
  isEmpty : Bool
  spaces : ∀ c ∈ after, isSpace c

namespace WrittenTag

def tag (o : WrittenTag) : Tag :=
  ⟨String.ofList o.name.chars, o.attributes.flatMap (·.chars) ++ o.after⟩

def inner (o : WrittenTag) : List Char :=
  o.name.chars ++ o.tag.attributes

def chars (o : WrittenTag) : List Char :=
  o.inner ++ if o.isEmpty then ['/'] else []

def event (o : WrittenTag) : Event :=
  if o.isEmpty then .empty o.tag else .start o.tag

def openAfter (o : WrittenTag) (opened : List String) : List String :=
  if o.isEmpty then opened else o.tag.name :: opened

end WrittenTag

structure Opening where
  name : Name
  settings : List Setting

namespace Opening

def attributes (o : Opening) : List Char :=
  o.settings.flatMap (·.chars)

def chars (o : Opening) : List Char :=
  o.name.chars ++ o.attributes

def tag (o : Opening) : Tag := ⟨String.ofList o.name.chars, o.attributes⟩

def written (o : Opening) (isEmpty : Bool) : WrittenTag where
  name := o.name
  attributes := o.settings.map (·.written)
  after := []
  isEmpty := isEmpty
  spaces := nofun

theorem tag_written (o : Opening) (isEmpty : Bool) : (o.written isEmpty).tag = o.tag := by
  simp [WrittenTag.tag, written, tag, attributes, List.flatMap_map, Setting.chars_written]

theorem inner_written (o : Opening) (isEmpty : Bool) : (o.written isEmpty).inner = o.chars := by
  rw [WrittenTag.inner, tag_written]
  rfl

end Opening

theorem byteLength_append (cs ds : List Char) :
    byteLength (cs ++ ds) = byteLength cs + byteLength ds := by
  induction cs
  case nil => simp [byteLength]
  case cons c cs hi => rw [List.cons_append, byteLength, byteLength, hi, Nat.add_assoc]

theorem eventsFrom_text {cs : List Char} (h : '<' ∉ cs) (position : Nat) (opened : List String)
    (rest : List Char) :
    eventsFrom position opened (cs ++ rest) =
      eventsFrom (position + byteLength cs) opened rest := by
  have hn : ∀ c ∈ cs, (c != '<') = true := by
    intro c hc
    simp only [bne_iff_ne, ne_eq]
    rintro rfl
    exact h hc
  have hd : (cs ++ rest).dropWhile (· != '<') = rest.dropWhile (· != '<') :=
    List.dropWhile_append_of_pos hn
  have ht : (cs ++ rest).takeWhile (· != '<') = cs ++ rest.takeWhile (· != '<') :=
    List.takeWhile_append_of_pos hn
  rw [eventsFrom, eventsFrom]
  split
  case h_1 hm =>
    rw [hd] at hm
    split
    case h_1 => rfl
    case h_2 hs => simp [hm] at hs
  case h_2 hm =>
    rw [hd] at hm
    split
    case h_1 hs => simp [hm] at hs
    case h_2 hs =>
      obtain ⟨rfl, rfl⟩ := List.cons.inj (hm.symm.trans hs)
      simp only [ht, byteLength_append, Nat.add_assoc]

def Kind.events? (kind : Kind) (content : List Char) (opened : List String) :
    Option (List Event × List String) :=
  match kind with
  | tag =>
    some (
      if content.getLast? = some '/' then ([.empty (readTag content.dropLast)], opened)
      else ([.start (readTag content)], (readTag content).name :: opened))
  | endTag =>
    match opened with
    | [] => none
    | expected :: outer =>
      if closeName content = expected then some ([.close expected], outer) else none
  | kind => if (kind.misfit? content).isNone then some ([], opened) else none

theorem Kind.events?_eq_none {kind : Kind} {content : List Char} {misfit : Misfit}
    (h : kind.misfit? content = some misfit) (opened : List String) :
    kind.events? content opened = none := by
  cases kind
  case tag | endTag => cases h
  all_goals simp [events?, h]

section

variable {markup content rest : List Char} {kind : Kind}

theorem eventsFrom_cut (hk : Kind.of markup = kind)
    (hc : kind.cut markup = some (content, rest)) (position : Nat) (opened : List String) :
    ∃ p f, eventsFrom position opened ('<' :: markup) =
      (kind.events? content opened).elim [.fault p f] fun (events, inner) =>
        events ++ eventsFrom (position + byteLength content + 2) inner rest := by
  subst hk
  have hd : ('<' :: markup).dropWhile (· != '<') = '<' :: markup := by simp
  have ht : ('<' :: markup).takeWhile (· != '<') = [] := by simp
  rw [eventsFrom]
  split
  case h_1 hn => simp at hn
  case h_2 hs =>
    obtain ⟨rfl, rfl⟩ := List.cons.inj (hd.symm.trans hs)
    dsimp only
    split
    case h_1 hn => simp [hc] at hn
    case h_2 hs =>
      obtain ⟨rfl, rfl⟩ := Prod.mk.inj (Option.some.inj (hc.symm.trans hs))
      simp only [ht, byteLength, Nat.add_zero]
      split
      case h_1 hm =>
        rw [Kind.events?_eq_none hm]
        exact ⟨_, _, rfl⟩
      case h_2 hk _ =>
        refine ⟨0, .openTag, ?_⟩
        rw [hk]
        simp only [Kind.events?, Option.elim]
        split <;> rfl
      case h_3 hk _ =>
        rw [hk]
        exact ⟨_, _, rfl⟩
      case h_4 hk _ =>
        rw [hk]
        simp only [Kind.events?]
        split
        case isTrue hn =>
          subst hn
          exact ⟨0, .openTag, rfl⟩
        case isFalse => exact ⟨_, _, rfl⟩
      case h_5 opened _ _ _ _ hm ht hn he =>
        refine ⟨0, .openTag, ?_⟩
        cases hk : Kind.of markup
        case tag => exact (ht (hk ▸ hc) hk (proof_irrel_heq ..)).elim
        case endTag =>
          cases opened
          case nil => exact (hn (hk ▸ hc) hk rfl (proof_irrel_heq ..)).elim
          case cons => exact (he _ _ (hk ▸ hc) hk rfl (proof_irrel_heq ..)).elim
        all_goals
          rw [hk] at hm
          simp [Kind.events?, hm]

theorem eventsFrom_markup {events : List Event} {opened inner : List String}
    (hk : Kind.of markup = kind) (hc : kind.cut markup = some (content, rest))
    (h : kind.events? content opened = some (events, inner)) (position : Nat) :
    eventsFrom position opened ('<' :: markup) =
      events ++ eventsFrom (position + byteLength content + 2) inner rest := by
  have ⟨_, _, he⟩ := eventsFrom_cut hk hc position opened
  rw [he, h]
  rfl

theorem eventsFrom_fault {opened : List String} (hk : Kind.of markup = kind)
    (hc : kind.cut markup = some (content, rest)) (h : kind.events? content opened = none)
    (position : Nat) :
    ∃ p f, eventsFrom position opened ('<' :: markup) = [.fault p f] := by
  have ⟨p, f, he⟩ := eventsFrom_cut hk hc position opened
  exact ⟨p, f, by rw [he, h]; rfl⟩

end

namespace Name

variable (n : Name)

theorem chars_foldlM : n.chars.foldlM tagEnd none = some none := by
  refine foldlM_eq_some_of_forall fun c hc => ?_
  have := n.plain c hc
  simp_all [isNameChar, tagEnd]

theorem closeName_chars : closeName ('/' :: n.chars) = String.ofList n.chars := by
  have hs : ∀ c ∈ n.chars, isSpace c = false := fun c hc => n.isSpace_eq_false hc
  have hn : ¬n.chars.all isSpace := by
    have ⟨c, tail, he⟩ := List.exists_cons_of_ne_nil n.nonempty
    simp [he, hs c (by simp [he])]
  have hd : n.chars.reverse.dropWhile isSpace = n.chars.reverse := by
    refine List.dropWhile_eq_self_iff.mpr fun hl => ?_
    rw [Bool.not_eq_true]
    exact hs _ (List.mem_reverse.mp (List.getElem_mem hl))
  simp only [closeName, List.drop_one, List.tail_cons, if_neg hn, hd, List.reverse_reverse]

end Name

theorem WrittenTag.toOption_readAttributes (o : WrittenTag) :
    o.tag.readAttributes.toOption = attributes? (o.attributes.map (·.said)) := by
  rw [Tag.readAttributes, tag, toOption_attributesFrom o.attributes o.spaces, attributes?,
    List.map_map]
  exact if_congr (by simp [WrittenAttribute.said, Function.comp_def]) rfl rfl

theorem foldlM_tagEnd_spaces {cs : List Char} (h : ∀ c ∈ cs, isSpace c) :
    cs.foldlM tagEnd none = some none := by
  refine foldlM_eq_some_of_forall fun c hc => ?_
  have := h c hc
  simp only [isSpace, Bool.or_eq_true, beq_iff_eq] at this
  rcases this with ((rfl | rfl) | rfl) | rfl <;> rfl

theorem WrittenAttribute.chars_foldlM (a : WrittenAttribute) :
    a.chars.foldlM tagEnd none = some none := by
  have hvalue : a.value.foldlM tagEnd (some a.quote) = some (some a.quote) := by
    refine foldlM_eq_some_of_forall fun c hc => ?_
    have : c ≠ a.quote := fun h => a.closed (h ▸ hc)
    simp [tagEnd, this]
  have hopen : tagEnd none a.quote = some (some a.quote) := by
    rcases a.isQuote with h | h <;> rw [h] <;> rfl
  have hclose : tagEnd (some a.quote) a.quote = some none := by simp [tagEnd]
  have hequals : tagEnd none '=' = some none := by decide
  have hs := a.spaces
  simp only [List.mem_append, or_imp, forall_and] at hs
  simp [chars, foldlM_tagEnd_spaces hs.1.1, foldlM_tagEnd_spaces hs.1.2,
    foldlM_tagEnd_spaces hs.2, a.name.chars_foldlM, hvalue, hopen, hclose, hequals]

theorem WrittenAttribute.getLast?_chars (a : WrittenAttribute) :
    a.chars.getLast? = some a.quote :=
  List.getLast?_eq_some_iff.mpr ⟨a.before ++ (a.name.chars ++ (a.beforeEquals ++
    '=' :: (a.afterEquals ++ a.quote :: a.value))), by simp [chars]⟩

namespace WrittenTag

variable (o : WrittenTag)

theorem inner_foldlM : o.inner.foldlM tagEnd none = some none := by
  have ha : (o.attributes.flatMap (·.chars)).foldlM tagEnd none = some none := by
    induction o.attributes
    case nil => rfl
    case cons a as hi =>
      rw [List.flatMap_cons, List.foldlM_append, a.chars_foldlM]
      exact hi
  simp [inner, tag, o.name.chars_foldlM, ha, foldlM_tagEnd_spaces o.spaces]

theorem kind_of (rest : List Char) : Kind.of (o.inner ++ rest) = .tag := by
  have ⟨c, tail, hn⟩ := List.exists_cons_of_ne_nil o.name.nonempty
  have hc := o.name.plain c (by simp [hn])
  rw [inner, hn, List.append_assoc, List.cons_append]
  unfold Kind.of
  split <;> simp_all [isNameChar]

theorem readTag_inner : readTag o.inner = o.tag := by
  have hs : ∀ c ∈ o.name.chars, (!isSpace c) = true := fun c hc => by
    simp [o.name.isSpace_eq_false hc]
  have ha : ∀ c ∈ o.tag.attributes.head?, (!isSpace c) = false := by
    rw [tag]
    cases o.attributes
    case nil =>
      intro c hc
      simp [o.spaces c (List.mem_of_head? hc)]
    case cons a as =>
      have ⟨c, before, hb⟩ := List.exists_cons_of_ne_nil a.separate
      have hc := a.spaces c (by simp [hb])
      simpa [WrittenAttribute.chars, hb] using hc
  rw [readTag, inner, takeWhile_append_eq hs ha, dropWhile_append_eq hs ha]
  rfl

-- Otherwise the tag would be taken for that of an element without content.
theorem getLast?_inner_ne : o.inner.getLast? ≠ some '/' := by
  intro h
  rw [inner, tag, List.getLast?_append, List.getLast?_append, Option.or_eq_some_iff,
    Option.or_eq_some_iff] at h
  rcases h with (h | ⟨_, h⟩) | ⟨_, h⟩
  case inl.inl => cases o.spaces _ (List.mem_of_getLast? h)
  case inl.inr =>
    cases o.attributes.eq_nil_or_concat
    case inl he => simp [he] at h
    case inr he =>
      obtain ⟨as, a, he⟩ := he
      have hq : a.quote = '/' := by simpa [he, a.getLast?_chars] using h
      have := a.isQuote
      simp [hq] at this
  case inr =>
    have := o.name.plain '/' (List.mem_of_getLast? h)
    simp [isNameChar] at this

theorem cut_chars (rest : List Char) :
    Kind.tag.cut (o.chars ++ '>' :: rest) = some (o.chars, rest) := by
  have hr : o.chars.foldlM tagEnd none = some none := by
    rw [chars, List.foldlM_append, o.inner_foldlM]
    cases o.isEmpty <;> rfl
  exact cut_append hr rfl

end WrittenTag

namespace Opening

variable (o : Opening)

theorem kind_of (rest : List Char) : Kind.of (o.chars ++ rest) = .tag := by
  rw [← o.inner_written false]
  exact WrittenTag.kind_of _ rest

theorem getLast?_chars_ne : o.chars.getLast? ≠ some '/' := by
  rw [← o.inner_written false]
  exact WrittenTag.getLast?_inner_ne _

theorem chars_written_false : (o.written false).chars = o.chars := by
  rw [WrittenTag.chars, inner_written]
  exact List.append_nil _

theorem chars_written_true : (o.written true).chars = o.chars ++ ['/'] := by
  rw [WrittenTag.chars, inner_written]
  rfl

theorem cut_chars (rest : List Char) :
    Kind.tag.cut (o.chars ++ '>' :: rest) = some (o.chars, rest) := by
  rw [← chars_written_false]
  exact WrittenTag.cut_chars _ rest

theorem cut_empty (rest : List Char) :
    Kind.tag.cut (o.chars ++ '/' :: '>' :: rest) = some (o.chars ++ ['/'], rest) := by
  rw [List.append_cons, ← chars_written_true]
  exact WrittenTag.cut_chars _ rest

end Opening

theorem Name.cut_chars (n : Name) (rest : List Char) :
    Kind.endTag.cut ('/' :: (n.chars ++ '>' :: rest)) = some ('/' :: n.chars, rest) := by
  have hr : ('/' :: n.chars).foldlM tagEnd none = some none := n.chars_foldlM
  exact cut_append hr rfl

section

variable (position : Nat) (opened : List String) (rest : List Char)

theorem eventsFrom_endTag (n : Name) :
    ∃ next, eventsFrom position (String.ofList n.chars :: opened)
      ('<' :: '/' :: (n.chars ++ '>' :: rest)) =
      .close (String.ofList n.chars) :: eventsFrom next opened rest := by
  have he : Kind.endTag.events? ('/' :: n.chars) (String.ofList n.chars :: opened) =
      some ([.close (String.ofList n.chars)], opened) := by
    simp [Kind.events?, n.closeName_chars]
  exact ⟨_, eventsFrom_markup (by rfl) (n.cut_chars rest) he position⟩

theorem eventsFrom_tag (o : WrittenTag) :
    ∃ next, eventsFrom position opened ('<' :: (o.chars ++ '>' :: rest)) =
      o.event :: eventsFrom next (o.openAfter opened) rest := by
  have he : Kind.tag.events? o.chars opened = some ([o.event], o.openAfter opened) := by
    rw [Kind.events?, WrittenTag.chars, WrittenTag.event, WrittenTag.openAfter]
    cases o.isEmpty
    case false => simp [o.getLast?_inner_ne, o.readTag_inner]
    case true => simp [o.readTag_inner]
  have hk : Kind.of (o.chars ++ '>' :: rest) = .tag := by
    rw [WrittenTag.chars, List.append_assoc]
    exact o.kind_of _
  exact ⟨_, eventsFrom_markup hk (o.cut_chars rest) he position⟩

theorem eventsFrom_start (o : Opening) :
    ∃ next, eventsFrom position opened ('<' :: (o.chars ++ '>' :: rest)) =
      .start o.tag :: eventsFrom next (o.tag.name :: opened) rest := by
  have h := eventsFrom_tag position opened rest (o.written false)
  rwa [o.chars_written_false, WrittenTag.event, WrittenTag.openAfter, o.tag_written] at h

theorem eventsFrom_empty (o : Opening) :
    ∃ next, eventsFrom position opened ('<' :: (o.chars ++ '/' :: '>' :: rest)) =
      .empty o.tag :: eventsFrom next opened rest := by
  have h := eventsFrom_tag position opened rest (o.written true)
  rwa [o.chars_written_true, List.append_assoc, WrittenTag.event, WrittenTag.openAfter,
    o.tag_written] at h

end

structure CharData where
  chars : List Char
  plain : '<' ∉ chars

structure Comment where
  chars : List Char
  plain : ¬['-', '-'] <:+: chars ++ ['-']

theorem foldlM_endAfter {complete : List Char → Bool} {cs : List Char} (before : List Char)
    (h : ∀ front back, cs = front ++ '>' :: back → complete (front.reverse ++ before) = false) :
    cs.foldlM (endAfter complete) before = some (cs.reverse ++ before) := by
  induction cs generalizing before
  case nil => rfl
  case cons c cs hi =>
    have hc : endAfter complete before c = some (c :: before) := by
      by_cases he : c = '>'
      case pos =>
        subst he
        simpa [endAfter] using h [] cs rfl
      case neg => simp [endAfter, he]
    rw [List.foldlM_cons, hc]
    simp only [bind, Option.bind]
    rw [hi (c :: before) fun front back he => by simpa using h (c :: front) back (by simp [he])]
    simp

theorem Comment.endsComment_eq_false (c : Comment) {front back : List Char}
    (h : c.chars ++ ['-', '-'] = front ++ '>' :: back) :
    endsComment (front.reverse ++ ['-', '-', '!']) = false := by
  have ⟨more, hf⟩ : ∃ more, c.chars = front ++ more := by
    cases List.append_eq_append_iff.mp h
    case inl h =>
      have ⟨before, _, hm⟩ := h
      have : '>' ∈ ['-', '-'] := by simp [hm]
      simp at this
    case inr h =>
      have ⟨more, hf, _⟩ := h
      exact ⟨more, hf⟩
  unfold endsComment
  split
  case h_2 => rfl
  case h_1 before hb =>
    by_contra hl
    -- Then the two dashes in front of the sign stand in the comment already.
    refine c.plain ?_
    match hr : front.reverse with
    | [] =>
      rw [hr] at hb
      cases hb
      simp at hl
    | [_] =>
      rw [hr] at hb
      cases hb
      simp at hl
    | x :: y :: tail =>
      simp only [hr, List.cons_append, List.cons.injEq] at hb
      obtain ⟨rfl, rfl, _⟩ := hb
      have he : front = tail.reverse ++ ['-', '-'] := by
        rw [← List.reverse_reverse front, hr]
        simp
      exact ⟨tail.reverse, more ++ ['-'], by simp [hf, he]⟩

theorem Comment.foldlM (c : Comment) :
    ('!' :: '-' :: '-' :: (c.chars ++ ['-', '-'])).foldlM (endAfter endsComment) [] =
      some ('-' :: '-' :: (c.chars.reverse ++ ['-', '-', '!'])) := by
  have h := @foldlM_endAfter endsComment (c.chars ++ ['-', '-']) ['-', '-', '!']
    fun _ _ => c.endsComment_eq_false
  exact Eq.trans rfl (h.trans (by simp))

theorem Comment.cut_chars (c : Comment) (rest : List Char) :
    Kind.comment.cut ('!' :: '-' :: '-' :: (c.chars ++ '-' :: '-' :: '>' :: rest)) =
      some ('!' :: '-' :: '-' :: (c.chars ++ ['-', '-']), rest) := by
  have hs :
      endAfter endsComment ('-' :: '-' :: (c.chars.reverse ++ ['-', '-', '!'])) '>' = none := by
    simp [endAfter, endsComment]
  rw [← cut_append c.foldlM hs, Kind.cut]
  simp

theorem eventsFrom_comment (position : Nat) (opened : List String) (c : Comment)
    (rest : List Char) :
    ∃ next, eventsFrom position opened
      ('<' :: '!' :: '-' :: '-' :: (c.chars ++ '-' :: '-' :: '>' :: rest)) =
      eventsFrom next opened rest :=
  ⟨_, eventsFrom_markup (by rfl) (c.cut_chars rest) (by rfl) position⟩

end Relational.Xml
