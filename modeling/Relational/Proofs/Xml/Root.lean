import Relational.Proofs.Xml.Content

namespace Relational.Xml

open Text

section

variable {σ : Type} {next : σ → Char → Option σ} {s : σ} {cs front rest : List Char}

theorem exists_of_cut (h : cut next s cs = some (front, rest)) :
    ∃ s' c, front.foldlM next s = some s' ∧ next s' c = none ∧ cs = front ++ c :: rest := by
  induction cs generalizing s front
  case nil => cases h
  case cons c cs hi =>
    rw [cut] at h
    cases hn : next s c
    case none =>
      simp only [hn, Option.some.injEq, Prod.mk.injEq] at h
      obtain ⟨rfl, rfl⟩ := h
      exact ⟨s, c, rfl, hn, rfl⟩
    case some s' =>
      simp only [hn] at h
      obtain ⟨front', hf⟩ := eq_some_of_push h
      rw [hf] at h
      simp only [push, Option.some.injEq, Prod.mk.injEq, and_true] at h
      subst h
      obtain ⟨s'', d, hr, hd, he⟩ := hi hf
      refine ⟨s'', d, ?_, hd, by rw [he, List.cons_append]⟩
      rw [List.foldlM_cons, hn]
      exact hr

theorem cut_append_right (h : cut next s cs = some (front, rest)) (more : List Char) :
    cut next s (cs ++ more) = some (front, rest ++ more) := by
  have ⟨_, _, hr, hc, he⟩ := exists_of_cut h
  rw [he, List.append_assoc]
  exact cut_append hr hc

end

theorem eq_of_tagEnd_eq_none {quote : Option Char} {c : Char} (h : tagEnd quote c = none) :
    c = '>' := by
  unfold tagEnd at h
  split at h <;> split_ifs at h
  simp_all

namespace Kind

variable {markup content rest : List Char}

def isElement : Kind → Bool
  | endTag | tag => true
  | _ => false

theorem of_append (h : (Kind.of markup).cut markup = some (content, rest)) (more : List Char) :
    Kind.of (markup ++ more) = Kind.of markup := by
  match markup with
  | [] => cases h
  | [c] =>
    by_cases hc : c = '!'
    case pos =>
      subst hc
      cases h
    case neg =>
      unfold Kind.of
      split <;> simp_all
  | c :: d :: markup =>
    unfold Kind.of
    rw [List.cons_append, List.cons_append]
    split <;> simp_all

theorem cut_append {kind : Kind} (h : kind.cut markup = some (content, rest)) (more : List Char) :
    kind.cut (markup ++ more) = some (content, rest ++ more) := by
  cases kind
  case unknown => cases h
  all_goals exact cut_append_right h more

theorem exists_of_cut {kind : Kind} (h : kind.cut markup = some (content, rest)) :
    ∃ c, markup = content ++ c :: rest ∧ (kind.isElement → c = '>') := by
  cases kind
  case unknown => cases h
  case endTag | tag =>
    have ⟨_, c, _, hn, he⟩ := Xml.exists_of_cut h
    exact ⟨c, he, fun _ => eq_of_tagEnd_eq_none hn⟩
  all_goals
    have ⟨_, c, _, _, he⟩ := Xml.exists_of_cut h
    exact ⟨c, he, nofun⟩

def openAfter (kind : Kind) (content : List Char) (depth : Nat) : Nat :=
  match kind with
  | tag => if content.getLast? = some '/' then depth else depth + 1
  | endTag => depth - 1
  | _ => depth

theorem length_of_events? {kind : Kind} {opened inner : List String} {events : List Event}
    (h : kind.events? content opened = some (events, inner)) :
    inner.length = kind.openAfter content opened.length := by
  cases kind
  case tag =>
    simp only [events?] at h
    split_ifs at h with hl
    all_goals
      cases h
      simp [openAfter, hl]
  case endTag =>
    cases opened
    case nil => cases h
    case cons =>
      simp only [events?] at h
      split_ifs at h
      cases h
      rfl
  all_goals
    simp only [events?] at h
    split_ifs at h
    cases h
    rfl

end Kind

inductive Scanned : List Char → Prop
  | done : Scanned []
  | char {c : Char} {cs : List Char} (hc : c ≠ '<') (h : Scanned cs) : Scanned (c :: cs)
  | broken {markup : List Char} (hc : (Kind.of markup).cut markup = none) :
    Scanned ('<' :: markup)
  | markup {markup content rest : List Char}
    (hc : (Kind.of markup).cut markup = some (content, rest)) (h : Scanned rest) :
    Scanned ('<' :: markup)

theorem scanned (cs : List Char) : Scanned cs :=
  match cs with
  | [] => .done
  | c :: cs =>
    if he : c = '<' then
      match hc : (Kind.of cs).cut cs with
      | none => he ▸ .broken hc
      | some (_, rest) => he ▸ .markup hc (scanned rest)
    else .char he (scanned cs)
termination_by cs.length
decreasing_by
  · have := Kind.length_cut_lt hc
    simp only [List.length_cons]
    omega
  · simp

section

variable (position : Nat) (opened : List String)

theorem eventsFrom_nil : eventsFrom position opened [] = [] := by
  rw [eventsFrom]
  rfl

theorem eventsFrom_char {c : Char} (hc : c ≠ '<') (cs : List Char) :
    eventsFrom position opened (c :: cs) = eventsFrom (position + c.utf8Size) opened cs :=
  @eventsFrom_text [c] (by simpa using hc.symm) position opened cs

theorem eventsFrom_broken {markup : List Char} (hc : (Kind.of markup).cut markup = none) :
    ∃ p f, eventsFrom position opened ('<' :: markup) = [.fault p f] := by
  have hd : ('<' :: markup).dropWhile (· != '<') = '<' :: markup := by simp
  rw [eventsFrom]
  split
  case h_1 hn => simp at hn
  case h_2 hs =>
    obtain ⟨rfl, rfl⟩ := List.cons.inj (hd.symm.trans hs)
    dsimp only
    split
    case h_1 => exact ⟨_, _, rfl⟩
    case h_2 hs => simp [hc] at hs

end

theorem eventsFrom_append {position : Nat} {opened : List String} {cs : List Char}
    (h : ∀ p f, Event.fault p f ∉ eventsFrom position opened cs) (more : List Char) :
    ∃ next inner, eventsFrom position opened (cs ++ more) =
      eventsFrom position opened cs ++ eventsFrom next inner more := by
  induction scanned cs generalizing position opened
  case done => exact ⟨position, opened, by rw [eventsFrom_nil]; rfl⟩
  case char c cs hc _ hi =>
    rw [eventsFrom_char position opened hc] at h ⊢
    rw [List.cons_append, eventsFrom_char position opened hc]
    exact hi h
  case broken hc =>
    have ⟨p, f, he⟩ := eventsFrom_broken position opened hc
    exact absurd (by simp [he]) (h p f)
  case markup markup content rest hc _ hi =>
    cases hs : (Kind.of markup).events? content opened
    case none =>
      have ⟨p, f, he⟩ := eventsFrom_fault rfl hc hs position
      exact absurd (by simp [he]) (h p f)
    case some passed =>
      obtain ⟨events, inner⟩ := passed
      rw [eventsFrom_markup rfl hc hs] at h
      have ⟨next, inner', he⟩ := hi fun p f hm => h p f (List.mem_append_right _ hm)
      refine ⟨next, inner', ?_⟩
      rw [eventsFrom_markup rfl hc hs, List.append_assoc, ← he]
      -- What follows markup that ends has no influence on it.
      exact eventsFrom_markup (Kind.of_append hc more) (Kind.cut_append hc more) hs position

-- What follows the root element, where so many elements are open at the beginning: the root element
-- ends with the first tag that leaves none of them open.
def afterRoot? (depth : Nat) : List Char → Option (List Char)
  | [] => none
  | '<' :: markup =>
    match _hc : (Kind.of markup).cut markup with
    | none => none
    | some (content, rest) =>
      let inner := (Kind.of markup).openAfter content depth
      if (Kind.of markup).isElement && inner == 0 then some rest else afterRoot? inner rest
  | _ :: cs => afterRoot? depth cs
termination_by cs => cs.length
decreasing_by
  · have := Kind.length_cut_lt _hc
    simp only [List.length_cons]
    omega
  · simp

section

variable {cs markup content rest : List Char} {depth : Nat}

theorem afterRoot?_char {c : Char} (hc : c ≠ '<') :
    afterRoot? depth (c :: cs) = afterRoot? depth cs := by
  rw [afterRoot?]
  exact hc

theorem afterRoot?_markup {kind : Kind} (hk : Kind.of markup = kind)
    (hc : kind.cut markup = some (content, rest)) :
    afterRoot? depth ('<' :: markup) =
      if kind.isElement && kind.openAfter content depth == 0 then some rest
      else afterRoot? (kind.openAfter content depth) rest := by
  subst hk
  rw [afterRoot?]
  split
  case h_1 hn => simp [hc] at hn
  case h_2 hs =>
    obtain ⟨rfl, rfl⟩ := Prod.mk.inj (Option.some.inj (hc.symm.trans hs))
    rfl

theorem afterRoot?_dropWhile {p : Char → Bool} (hp : p '<' = false) (cs : List Char) :
    afterRoot? depth (cs.dropWhile p) = afterRoot? depth cs := by
  induction cs
  case nil => rfl
  case cons c cs hi =>
    cases hc : p c
    case false => simp [hc]
    case true =>
      have hn : c ≠ '<' := by
        rintro rfl
        simp [hp] at hc
      rw [List.dropWhile_cons_of_pos hc, hi, afterRoot?_char hn]

theorem afterRoot?_append (h : afterRoot? depth cs = some rest) (more : List Char) :
    afterRoot? depth (cs ++ more) = some (rest ++ more) := by
  fun_induction afterRoot? depth cs
  case case1 => cases h
  case case2 => cases h
  case case3 hc _ he =>
    cases h
    rw [List.cons_append, afterRoot?_markup (Kind.of_append hc more) (Kind.cut_append hc more),
      if_pos he]
  case case4 hc _ he hi =>
    rw [List.cons_append, afterRoot?_markup (Kind.of_append hc more) (Kind.cut_append hc more),
      if_neg he]
    exact hi h
  case case5 hc hi =>
    rw [List.cons_append, afterRoot?_char hc]
    exact hi h

theorem exists_of_afterRoot? (h : afterRoot? depth cs = some rest) :
    ∃ front, cs = front ++ '>' :: rest := by
  fun_induction afterRoot? depth cs
  case case1 => cases h
  case case2 => cases h
  case case3 content _ hc _ he =>
    cases h
    have ⟨c, hm, hk⟩ := Kind.exists_of_cut hc
    have ⟨ht, _⟩ := Bool.and_eq_true_iff.mp he
    exact ⟨'<' :: content, by rw [hm, hk ht, List.cons_append]⟩
  case case4 content _ hc _ _ hi =>
    have ⟨c, hm, _⟩ := Kind.exists_of_cut hc
    have ⟨front, hf⟩ := hi h
    exact ⟨'<' :: content ++ c :: front, by simp [hm, hf]⟩
  case case5 c _ _ hi =>
    have ⟨front, hf⟩ := hi h
    exact ⟨c :: front, by rw [hf, List.cons_append]⟩

end

theorem afterRoot?_text {cs : List Char} (h : '<' ∉ cs) (depth : Nat) (rest : List Char) :
    afterRoot? depth (cs ++ rest) = afterRoot? depth rest := by
  induction cs
  case nil => rfl
  case cons c cs hi =>
    rw [List.mem_cons, not_or] at h
    rw [List.cons_append, afterRoot?_char (Ne.symm h.1), hi h.2]

theorem afterRoot?_comment (c : Comment) (depth : Nat) (rest : List Char) :
    afterRoot? depth ('<' :: '!' :: '-' :: '-' :: (c.chars ++ '-' :: '-' :: '>' :: rest)) =
      afterRoot? depth rest :=
  afterRoot?_markup (by rfl) (c.cut_chars rest)

theorem afterRoot?_start (o : Opening) (depth : Nat) (rest : List Char) :
    afterRoot? depth ('<' :: (o.chars ++ '>' :: rest)) = afterRoot? (depth + 1) rest := by
  rw [afterRoot?_markup (o.kind_of _) (o.cut_chars rest)]
  simp [Kind.openAfter, o.getLast?_chars_ne]

theorem afterRoot?_empty (o : Opening) (depth : Nat) (rest : List Char) :
    afterRoot? depth ('<' :: (o.chars ++ '/' :: '>' :: rest)) =
      if depth = 0 then some rest else afterRoot? depth rest := by
  rw [afterRoot?_markup (o.kind_of _) (o.cut_empty rest)]
  simp [Kind.openAfter, Kind.isElement]

theorem afterRoot?_endTag (n : Name) (depth : Nat) (rest : List Char) :
    afterRoot? (depth + 1) ('<' :: '/' :: (n.chars ++ '>' :: rest)) =
      if depth = 0 then some rest else afterRoot? depth rest := by
  rw [afterRoot?_markup (by rfl) (n.cut_chars rest)]
  simp [Kind.openAfter, Kind.isElement]

namespace Content

theorem afterRoot?_append (content : Content) (depth : Nat) (more : List Char) :
    afterRoot? (depth + 1) (content.chars ++ more) = afterRoot? (depth + 1) more := by
  induction content generalizing depth more
  case done => rfl
  case text t rest hi => rw [chars, List.append_assoc, afterRoot?_text t.plain, hi]
  case comment c rest hi =>
    simp only [chars, List.cons_append, List.append_assoc]
    rw [afterRoot?_comment, hi]
  case empty o rest hi =>
    simp only [chars, List.cons_append, List.append_assoc]
    rw [afterRoot?_empty, if_neg (Nat.succ_ne_zero depth), hi]
  case element o inside rest hi hr =>
    simp only [chars, List.cons_append, List.append_assoc]
    rw [afterRoot?_start, hi, afterRoot?_endTag, if_neg (Nat.succ_ne_zero depth), hr]

def afterFirst? : Content → Option Content
  | done => none
  | text _ rest | comment _ rest => rest.afterFirst?
  | empty _ rest | element _ _ rest => some rest

theorem afterRoot?_chars (content : Content) :
    afterRoot? 0 content.chars = content.afterFirst?.map (·.chars) := by
  induction content
  case done =>
    rw [chars, afterRoot?]
    rfl
  case text t rest hi => rw [chars, afterRoot?_text t.plain, hi, afterFirst?]
  case comment c rest hi => rw [chars, afterRoot?_comment, hi, afterFirst?]
  case empty o rest => rw [chars, afterRoot?_empty, if_pos rfl, afterFirst?, Option.map_some]
  case element o inside rest =>
    rw [chars, afterRoot?_start, afterRoot?_append, afterRoot?_endTag, if_pos rfl, afterFirst?,
      Option.map_some]

end Content

-- Text that begins as a start tag or the tag of an empty element does, whatever follows it.
def BeginsTag (cs : List Char) : Prop :=
  ∃ c markup, cs = '<' :: c :: markup ∧ c ∉ ['!', '?', '/']

theorem Kind.of_eq_tag {c : Char} (h : c ∉ ['!', '?', '/']) (cs : List Char) :
    Kind.of (c :: cs) = tag := by
  unfold Kind.of
  split <;> simp_all

theorem BeginsTag.exists_markup {cs : List Char} (h : BeginsTag cs) (more : List Char) :
    ∃ markup, cs ++ more = '<' :: markup ∧ Kind.of markup = .tag := by
  have ⟨c, markup, he, hc⟩ := h
  exact ⟨c :: (markup ++ more), by simp [he], Kind.of_eq_tag hc _⟩

end Relational.Xml
