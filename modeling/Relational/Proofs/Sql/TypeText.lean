import Relational.Proofs.Text.Fields
import Relational.Proofs.Text.FreeName
import Relational.Proofs.Text.Trim
import Relational.Sql.LogicalType

namespace Relational

open Text

namespace LogicalType

structure BaseText (cs : List Char) (kind : TypeKind) : Prop where
  letter : ∃ c ∈ cs.head?, isLetter c
  chars : ∀ c ∈ cs, isBaseChar c
  keyword : String.ofList ((collapseSpaces cs).map Char.toLower) ∈ kind.keywords

inductive SizeText : List Char → Nat → Prop
  | digits {before digits after : List Char} (hb : Blanks before) (hn : digits ≠ [])
    (hd : ∀ c ∈ digits, Numeral.isDigit c) (hm : Nat.ofDigitChars 10 digits 0 ≤ Numeral.max32)
    (ha : Blanks after) : SizeText (before ++ digits ++ after) (Nat.ofDigitChars 10 digits 0)

inductive ArgumentsText : List Char → Option Nat → Option Nat → Prop
  | none : ArgumentsText [] none none
  | size {cs : List Char} {n : Nat} (h : SizeText cs n) :
    ArgumentsText ('(' :: (cs ++ [')'])) (some n) none
  | scale {cs ds : List Char} {n m : Nat} (h : SizeText cs n) (h' : SizeText ds m) :
    ArgumentsText ('(' :: (cs ++ ',' :: ds ++ [')'])) (some n) (some m)

inductive WrittenAs (t : LogicalType) : List Char → Prop
  | type {before base middle arguments after : List Char} (hb : Blanks before)
    (hbase : BaseText base t.kind) (hm : Blanks middle)
    (hargs : ArgumentsText arguments t.size t.scale) (ha : Blanks after) :
    WrittenAs t (before ++ base ++ middle ++ arguments ++ after)

-- What a type text can say: numbers of at most 32 bits, and a scale only behind a size.
structure Proper (t : LogicalType) : Prop where
  size : ∀ n ∈ t.size, n ≤ Numeral.max32
  scale : ∀ m ∈ t.scale, m ≤ Numeral.max32
  sized : t.scale.isSome → t.size.isSome

section

variable {cs ds : List Char} {n : Nat} {kind : TypeKind}

theorem toList_plainBase (cs : List Char) :
    (plainBase cs).toList = ([' '].intercalate (fields (· == ' ') cs)).map Char.toLower := by
  rw [plainBase, String.toList_intercalate, map_intercalate, List.map_map]
  congr 1
  refine List.map_congr_left fun w _ => ?_
  simp

theorem eq_space_of_isBaseChar {c : Char} (hc : isBaseChar c) (hb : isBlank c) : c = ' ' := by
  have hv : c.val.toNat = c.toNat := rfl
  simp only [isBaseChar, isLetter, Numeral.isDigit, Bool.or_eq_true, Bool.and_eq_true,
    decide_eq_true_eq, beq_iff_eq, Char.le_def, UInt32.le_iff_toNat_le, Char.reduceVal,
    UInt32.reduceToNat] at hc
  rcases hc with (((h | h) | h) | h) | h
  case inl.inr => exact h
  case inr =>
    subst h
    cases hb
  all_goals
    simp only [isBlank, Bool.or_eq_true, Bool.and_eq_true, decide_eq_true_eq, beq_iff_eq] at hb
    omega

theorem not_isBlank_of_isBaseChar {c : Char} (hc : isBaseChar c) (hs : c ≠ ' ') :
    isBlank c = false := by
  by_contra hb
  exact hs (eq_space_of_isBaseChar hc (by simpa using hb))

theorem isBlank_of_isDigit {c : Char} (h : Numeral.isDigit c) : isBlank c = false := by
  refine not_isBlank_of_isBaseChar (by simp [isBaseChar, h]) ?_
  rintro rfl
  cases h

theorem isBlank_of_isLetter {c : Char} (h : isLetter c) : isBlank c = false := by
  refine not_isBlank_of_isBaseChar (by simp [isBaseChar, h]) ?_
  rintro rfl
  cases h

theorem plainBase_append {spaces : List Char} (hs : ∀ c ∈ spaces, c = ' ')
    (hfirst : ∃ c ∈ cs.head?, isLetter c) (hlast : cs.getLast? ≠ some ' ') :
    plainBase (cs ++ spaces) = String.ofList ((collapseSpaces cs).map Char.toLower) := by
  have hd : cs.dropWhile (· == ' ') = cs := by
    have ⟨c, hc, hl⟩ := hfirst
    have ⟨tail, he⟩ := List.head?_eq_some_iff.mp hc
    have hn : ¬(c == ' ') := by
      rw [beq_iff_eq]
      rintro rfl
      cases hl
    rw [he]
    exact List.dropWhile_cons_of_neg hn
  apply String.toList_injective
  rw [toList_plainBase, fields_append (by simpa using hs), intercalate_fields hlast, hd,
    String.toList_ofList]

theorem TypeKind.ofKeyword?_eq_some {base : String} :
    TypeKind.ofKeyword? base = some kind ↔ base ∈ kind.keywords := by
  constructor
  case mp =>
    intro h
    simpa using List.find?_some h
  case mpr =>
    have hd : ∀ w ∈ kind.keywords, TypeKind.ofKeyword? w = some kind := by
      cases kind
      all_goals decide +kernel
    exact hd base

theorem BaseText.getLast?_ne (h : BaseText cs kind) : cs.getLast? ≠ some ' ' := by
  have hd : ∀ w ∈ kind.keywords, w.toList.getLast? ≠ some ' ' := by
    cases kind
    all_goals decide +kernel
  intro hl
  refine hd _ h.keyword ?_
  rw [String.toList_ofList, List.getLast?_map, getLast?_collapseSpaces, hl]
  rfl

theorem read?_eq_some : Numeral.read? cs = some n ↔
    cs ≠ [] ∧ (∀ c ∈ cs, Numeral.isDigit c) ∧ Nat.ofDigitChars 10 cs 0 = n := by
  have ho : Numeral.ofDigits cs = Nat.ofDigitChars 10 cs 0 := Nat.ofDigitChars_eq_foldl.symm
  simp [Numeral.read?, ho, and_assoc]

theorem readSize?_eq_some : readSize? cs = some n ↔ SizeText cs n := by
  rw [readSize?, Option.filter_eq_some_iff, read?_eq_some, decide_eq_true_eq]
  constructor
  case mp =>
    have ⟨before, after, hb, ha, he⟩ := exists_eq_append_trimChars cs
    generalize trimChars cs = digits at he
    rintro ⟨⟨hn, hd, rfl⟩, hm⟩
    exact he ▸ .digits hb hn hd hm ha
  case mpr =>
    rintro ⟨hb, hn, hd, hm, ha⟩
    rw [trimChars_append hb ha]
    case hfirst => exact fun c hc => isBlank_of_isDigit (hd c (List.mem_of_head? hc))
    case hlast => exact fun c hc => isBlank_of_isDigit (hd c (List.mem_of_getLast? hc))
    exact ⟨⟨hn, hd, rfl⟩, hm⟩

theorem SizeText.ne_comma (h : SizeText cs n) : ∀ c ∈ cs, (c != ',') = true := by
  obtain ⟨hb, _, hd, _, ha⟩ := h
  intro c hc
  rw [bne_iff_ne]
  rintro rfl
  simp only [List.mem_append] at hc
  rcases hc with (hc | hc) | hc
  · cases hb _ hc
  · cases hd _ hc
  · cases ha _ hc

theorem argumentsText_of_readArguments? {size scale : Option Nat}
    (h : readArguments? cs = some (size, scale)) : ArgumentsText (trimChars cs) size scale := by
  unfold readArguments? at h
  split at h
  case h_1 he =>
    cases h
    rw [he]
    exact .none
  case h_2 inner he =>
    split at h
    case h_1 hl =>
      obtain ⟨arguments, rfl⟩ := List.getLast?_eq_some_iff.mp hl
      rw [List.dropLast_concat] at h
      have hs := List.takeWhile_append_dropWhile (p := (· != ',')) (l := arguments)
      rw [he, ← hs]
      split at h
      case h_1 hn =>
        have ⟨n, hn', he⟩ := Option.map_eq_some_iff.mp h
        cases he
        rw [hn, List.append_nil]
        exact .size (readSize?_eq_some.mp hn')
      case h_2 d second hn =>
        have hd : d = ',' := by
          have := List.head?_dropWhile_not (· != ',') arguments
          simpa [hn] using this
        have ⟨n, hn', h⟩ := Option.bind_eq_some_iff.mp h
        have ⟨m, hm, h⟩ := Option.bind_eq_some_iff.mp h
        cases h
        rw [hn, hd]
        exact .scale (readSize?_eq_some.mp hn') (readSize?_eq_some.mp hm)
    case h_2 => cases h
  case h_3 => cases h

theorem readArguments?_of_argumentsText {size scale : Option Nat}
    (h : ArgumentsText (trimChars cs) size scale) : readArguments? cs = some (size, scale) := by
  unfold readArguments?
  generalize trimChars cs = ts at h
  cases h
  case none => rfl
  case size cs n h =>
    have ht : cs.takeWhile (· != ',') = cs := List.takeWhile_eq_self_iff.mpr h.ne_comma
    have hd : cs.dropWhile (· != ',') = [] := List.dropWhile_eq_nil_iff.mpr h.ne_comma
    simp [ht, hd, readSize?_eq_some.mpr h]
  case scale cs ds n m hn hm =>
    have ht : (cs ++ ',' :: ds).takeWhile (· != ',') = cs := by
      rw [List.takeWhile_append_of_pos hn.ne_comma]
      simp
    have hd : (cs ++ ',' :: ds).dropWhile (· != ',') = ',' :: ds := by
      rw [List.dropWhile_append_of_pos hn.ne_comma]
      simp
    have hl : (cs ++ ',' :: ds ++ [')']).getLast? = some ')' := List.getLast?_concat
    have hi : (cs ++ ',' :: ds ++ [')']).dropLast = cs ++ ',' :: ds := List.dropLast_concat
    simp only [hl, hi, ht, hd, readSize?_eq_some.mpr hn, readSize?_eq_some.mpr hm]
    rfl

theorem readArguments?_eq_some {size scale : Option Nat} :
    readArguments? cs = some (size, scale) ↔ ArgumentsText (trimChars cs) size scale :=
  ⟨argumentsText_of_readArguments?, readArguments?_of_argumentsText⟩

theorem ArgumentsText.ends {size scale : Option Nat} (h : ArgumentsText cs size scale) :
    cs = [] ∨ ∃ inner, cs = '(' :: (inner ++ [')']) := by
  cases h
  case none => exact .inl rfl
  case size cs _ _ => exact .inr ⟨cs, rfl⟩
  case scale cs ds _ _ _ _ => exact .inr ⟨cs ++ ',' :: ds, rfl⟩

theorem span_append_stop {p : Char → Bool} {d : Char} (hd : p d = false) (cs ds : List Char) :
    (cs ++ d :: ds).takeWhile p = cs.takeWhile p ∧
      (cs ++ d :: ds).dropWhile p = cs.dropWhile p ++ d :: ds := by
  induction cs
  case nil => simp [hd]
  case cons c cs hi => cases hc : p c <;> simp [hc, hi]

theorem span_arguments {middle arguments after : List Char} (hm : Blanks middle) (ha : Blanks after)
    {size scale : Option Nat} (h : ArgumentsText arguments size scale) :
    (∀ c ∈ (middle ++ arguments ++ after).takeWhile isBaseChar, c = ' ') ∧
      trimChars ((middle ++ arguments ++ after).dropWhile isBaseChar) = arguments := by
  have hspace {cs : List Char} (hb : Blanks cs) : ∀ c ∈ cs.takeWhile isBaseChar, c = ' ' :=
    fun c hc => eq_space_of_isBaseChar (List.mem_takeWhile_imp hc)
      (hb c ((List.takeWhile_prefix _).subset hc))
  have hblank {cs : List Char} (hb : Blanks cs) : Blanks (cs.dropWhile isBaseChar) :=
    fun c hc => hb c ((List.dropWhile_suffix _).subset hc)
  -- Arguments begin with a bracket, which ends the base name.
  rcases h.ends with rfl | ⟨inner, rfl⟩
  case inl =>
    have hb : Blanks (middle ++ after) := fun c hc => (List.mem_append.mp hc).elim (hm c) (ha c)
    rw [List.append_nil]
    refine ⟨hspace hb, ?_⟩
    exact trimChars_eq_nil (hblank hb)
  case inr =>
    have hp : isBaseChar '(' = false := by decide
    have ⟨ht, hd⟩ := span_append_stop hp middle (inner ++ [')'] ++ after)
    rw [List.append_assoc, List.cons_append, ht, hd]
    refine ⟨hspace hm, ?_⟩
    rw [← List.cons_append, ← List.append_assoc]
    refine trimChars_append (hblank hm) ha ?_ ?_
    case refine_1 =>
      rintro _ ⟨⟩
      decide
    case refine_2 =>
      intro c hc
      rw [← List.cons_append, List.getLast?_concat] at hc
      cases hc
      decide

theorem parse_eq_some {type : String} {t : LogicalType} :
    parse type = some t ↔
      (∃ c ∈ (type.toList.dropWhile isBlank).head?, isLetter c) ∧
      plainBase ((type.toList.dropWhile isBlank).takeWhile isBaseChar) ∈ t.kind.keywords ∧
      ArgumentsText (trimChars ((type.toList.dropWhile isBlank).dropWhile isBaseChar))
        t.size t.scale := by
  rw [parse, ← TypeKind.ofKeyword?_eq_some, ← readArguments?_eq_some]
  generalize type.toList.dropWhile isBlank = cs
  obtain ⟨kind, size, scale⟩ := t
  have hh : (cs.head?.map isLetter).getD false = true ↔ ∃ c ∈ cs.head?, isLetter c := by
    cases cs <;> simp
  dsimp only
  rw [← hh]
  split
  case isFalse hl => simp [hl]
  case isTrue hl =>
    simp only [hl, Option.bind_eq_bind, Option.bind_eq_some_iff, Prod.exists, Option.some.injEq,
      LogicalType.mk.injEq, true_and]
    grind

theorem exists_base {front : List Char} (h : ∃ c ∈ front.head?, isLetter c) :
    ∃ base spaces, front = base ++ spaces ∧ (∀ c ∈ spaces, c = ' ') ∧
      (∃ c ∈ base.head?, isLetter c) ∧ base.getLast? ≠ some ' ' := by
  have hsplit : front.rdropWhile (· == ' ') ++ front.rtakeWhile (· == ' ') = front :=
    List.rdropWhile_append_rtakeWhile
  have hspaces : ∀ c ∈ front.rtakeWhile (· == ' '), c = ' ' :=
    fun c hc => by simpa using List.mem_rtakeWhile_imp hc
  have ⟨c, hc, hl⟩ := h
  refine ⟨_, _, hsplit.symm, hspaces, ?letter, ?last⟩
  case letter =>
    cases hb : front.rdropWhile (· == ' ')
    case nil =>
      rw [hb, List.nil_append] at hsplit
      rw [hsplit] at hspaces
      rw [hspaces c (List.mem_of_head? hc)] at hl
      cases hl
    case cons d base =>
      rw [hb] at hsplit
      rw [← hsplit] at hc
      exact ⟨c, hc, hl⟩
  case last =>
    intro hlast
    have hne : front.rdropWhile (· == ' ') ≠ [] := fun hn => by simp [hn] at hlast
    rw [List.getLast?_eq_some_getLast hne, Option.some_inj] at hlast
    exact List.rdropWhile_last_not (· == ' ') front hne (by simp [hlast])

theorem writtenAs_of_parse {type : String} {t : LogicalType} (h : parse type = some t) :
    t.WrittenAs type.toList := by
  have ⟨⟨c, hc, hl⟩, hk, hr⟩ := parse_eq_some.mp h
  have hcs := List.takeWhile_append_dropWhile (p := isBlank) (l := type.toList)
  generalize type.toList.dropWhile isBlank = cs at hc hk hr hcs
  have hfront := List.takeWhile_append_dropWhile (p := isBaseChar) (l := cs)
  have hchars : ∀ c ∈ cs.takeWhile isBaseChar, isBaseChar c := fun c hc => List.mem_takeWhile_imp hc
  have hletter : ∃ c ∈ (cs.takeWhile isBaseChar).head?, isLetter c := by
    have ⟨tail, he⟩ := List.head?_eq_some_iff.mp hc
    have hb : isBaseChar c := by simp [isBaseChar, hl]
    exact ⟨c, by simp [he, hb], hl⟩
  have ⟨base, spaces, he, hs, hf, hlast⟩ := exists_base hletter
  have ⟨before, after, hb, ha, hrest⟩ := exists_eq_append_trimChars (cs.dropWhile isBaseChar)
  rw [he] at hfront hk hchars
  rw [plainBase_append hs hf hlast] at hk
  have hbase : BaseText base t.kind := ⟨hf, fun c hc => hchars c (List.mem_append_left _ hc), hk⟩
  have hm : Blanks (spaces ++ before) := by
    intro c hc
    cases List.mem_append.mp hc
    case inl hc => rw [hs c hc]; rfl
    case inr hc => exact hb c hc
  have hbefore : Blanks (type.toList.takeWhile isBlank) := fun c hc => List.mem_takeWhile_imp hc
  have := WrittenAs.type hbefore hbase hm hr ha
  rw [← hcs, ← hfront]
  rw [hrest]
  simpa using this

theorem parse_of_writtenAs {type : String} {t : LogicalType} (h : t.WrittenAs type.toList) :
    parse type = some t := by
  generalize hcs : type.toList = cs at h
  cases h
  case type before base middle arguments after hb hbase hm hargs ha =>
    have ⟨c, hc, hl⟩ := hbase.letter
    have ⟨tail, he⟩ := List.head?_eq_some_iff.mp hc
    have hd : type.toList.dropWhile isBlank = base ++ (middle ++ arguments ++ after) := by
      rw [hcs, List.append_assoc, List.append_assoc, List.append_assoc, ← List.append_assoc middle]
      refine dropWhile_append_eq hb fun c' hc' => ?_
      rw [he] at hc'
      cases hc'
      exact isBlank_of_isLetter hl
    have ⟨hs, ht⟩ := span_arguments hm ha hargs
    refine parse_eq_some.mpr ?_
    rw [hd, List.takeWhile_append_of_pos hbase.chars, List.dropWhile_append_of_pos hbase.chars, ht,
      plainBase_append hs hbase.letter hbase.getLast?_ne]
    exact ⟨⟨c, by simp [he], hl⟩, hbase.keyword, hargs⟩

theorem SizeText.le (h : SizeText cs n) : n ≤ Numeral.max32 := by
  obtain ⟨_, _, _, hm, _⟩ := h
  exact hm

theorem sizeText_repr (h : n ≤ Numeral.max32) : SizeText n.repr.toList n := by
  have hv : Nat.ofDigitChars 10 n.repr.toList 0 = n := by
    rw [Nat.toList_repr, Nat.ofDigitChars_ten_toDigits]
  have hd : ∀ c ∈ n.repr.toList, Numeral.isDigit c := by
    intro c hc
    have hd := isDigit_of_mem_repr c hc
    simp only [Char.isDigit, Bool.and_eq_true, decide_eq_true_eq] at hd
    simp only [Numeral.isDigit, Bool.and_eq_true, decide_eq_true_eq]
    exact hd
  have hb : Blanks [] := List.forall_mem_nil _
  have := SizeText.digits hb (by simp [Nat.toDigits_ne_nil]) hd (by rwa [hv]) hb
  simpa [hv] using this

theorem ArgumentsText.proper {t : LogicalType} (h : ArgumentsText cs t.size t.scale) :
    t.Proper := by
  obtain ⟨kind, size, scale⟩ := t
  cases h
  case none => exact ⟨nofun, nofun, nofun⟩
  case size h => exact ⟨by rintro _ ⟨⟩; exact h.le, nofun, nofun⟩
  case scale h h' => exact ⟨by rintro _ ⟨⟩; exact h.le, by rintro _ ⟨⟩; exact h'.le, fun _ => rfl⟩

theorem WrittenAs.proper {t : LogicalType} (h : t.WrittenAs cs) : t.Proper := by
  obtain ⟨_, _, _, hargs, _⟩ := h
  exact hargs.proper

theorem Proper.exists_arguments {t : LogicalType} (h : t.Proper) :
    ∃ arguments, ArgumentsText arguments t.size t.scale ∧
      ∀ base, (t.withArguments base).toList = base.toList ++ arguments := by
  obtain ⟨kind, size, scale⟩ := t
  obtain ⟨hsize, hscale, hsized⟩ := h
  cases size
  case none =>
    cases scale
    case none => exact ⟨[], .none, fun base => (List.append_nil _).symm⟩
    case some => cases hsized rfl
  case some n =>
    have hn := sizeText_repr (hsize n rfl)
    cases scale
    case none => exact ⟨_, .size hn, fun base => by simp [withArguments, toString]⟩
    case some m =>
      have hm := sizeText_repr (hscale m rfl)
      exact ⟨_, .scale hn hm, fun base => by simp [withArguments, toString]⟩

theorem isLetter_toLower (c : Char) : isLetter c.toLower = isLetter c := by
  have hle (c d : Char) : c ≤ d ↔ c.toNat ≤ d.toNat := Iff.rfl
  rw [Bool.eq_iff_iff]
  simp only [isLetter, Bool.or_eq_true, Bool.and_eq_true, decide_eq_true_eq, hle, toNat_toLower,
    Char.reduceToNat]
  grind

theorem isBaseChar_toLower (c : Char) : isBaseChar c.toLower = isBaseChar c := by
  have hle (c d : Char) : c ≤ d ↔ c.toNat ≤ d.toNat := Iff.rfl
  rw [Bool.eq_iff_iff]
  simp only [isBaseChar, isLetter, Numeral.isDigit, Bool.or_eq_true, Bool.and_eq_true,
    decide_eq_true_eq, beq_iff_eq, hle, ← Char.toNat_inj, toNat_toLower, Char.reduceToNat]
  grind

theorem baseText_of_keyword
    (h : String.ofList ((collapseSpaces cs).map Char.toLower) ∈ kind.keywords) :
    BaseText cs kind := by
  have hw : ∀ w ∈ kind.keywords, w.toList.head?.any isLetter ∧ w.toList.all isBaseChar := by
    cases kind
    all_goals decide +kernel
  have ⟨hfirst, hchars⟩ := hw _ h
  have ⟨c, hc, hl⟩ := Option.any_eq_true .. |>.mp hfirst
  have hchars := List.all_eq_true.mp hchars
  simp only [String.toList_ofList, List.head?_map, head?_collapseSpaces] at hc hchars
  refine ⟨?letter, ?chars, h⟩
  case letter =>
    have ⟨d, hd, he⟩ := Option.map_eq_some_iff.mp hc
    exact ⟨d, hd, by rwa [← isLetter_toLower, he]⟩
  case chars =>
    intro d hd
    rw [← isBaseChar_toLower]
    exact hchars _ (List.mem_map_of_mem (mem_collapseSpaces.mpr hd))

-- A type text has one meaning, the one that the grammar gives it, and what is written out for a
-- type is read as that type again.
theorem parse_writtenAs :
    (∀ type t, parse type = some t ↔ t.WrittenAs type.toList) ∧
    (∀ type t, parse type = some t → t.Proper) ∧
    ∀ (t : LogicalType) (before base middle after : List Char), t.Proper →
      String.ofList ((collapseSpaces base).map Char.toLower) ∈ t.kind.keywords →
      Blanks before → Blanks middle → Blanks after →
      parse (t.withArguments (String.ofList (before ++ base ++ middle)) ++ String.ofList after) =
        some t := by
  refine ⟨fun type t => ⟨writtenAs_of_parse, parse_of_writtenAs⟩,
    fun type t h => (writtenAs_of_parse h).proper, ?_⟩
  intro t before base middle after ht hbase hb hm ha
  have ⟨arguments, hargs, hwritten⟩ := ht.exists_arguments
  apply parse_of_writtenAs
  rw [String.toList_append, hwritten, String.toList_ofList, String.toList_ofList]
  exact .type hb (baseText_of_keyword hbase) hm hargs ha

theorem parse_writtenAs_decimal :
    parse "\tNumeric (10,2) " = some { kind := .decimal, size := some 10, scale := some 2 } ∧
    parse "Double   PRECISION" = some { kind := .double } :=
  ⟨parse_writtenAs.2.2 { kind := .decimal, size := some 10, scale := some 2 }
      ['\t'] "Numeric".toList [' '] [' ']
      ⟨by decide, by decide, by decide⟩ (by decide) (by decide) (by decide) (by decide),
    parse_writtenAs.2.2 { kind := .double } [] "Double   PRECISION".toList [] []
      ⟨by decide, by decide, by decide⟩ (by decide) (by decide) (by decide) (by decide)⟩

end

end LogicalType

end Relational
