import Relational.Proofs.Sql.Reader
import Relational.Proofs.Text.FreeName

namespace Relational

namespace Sql

structure Spelling where
  words : List String
  sizes : List Nat := []

namespace Spelling

def sizesText (sizes : List Nat) : String :=
  if sizes = [] then "" else "(" ++ ",".intercalate (sizes.map Nat.repr) ++ ")"

def sizesTokens (sizes : List Nat) : List Token :=
  if sizes = [] then []
  else .sign '(' :: ([.sign ','].intercalate (sizes.map fun n => [.word n.repr]) ++ [.sign ')'])

variable (s : Spelling)

def text : String :=
  " ".intercalate s.words ++ sizesText s.sizes

def tokens : List Token :=
  s.words.map .word ++ sizesTokens s.sizes

def vocabulary : List String := [
    "BIGINT", "BINARY_DOUBLE", "BINARY_FLOAT", "BLOB", "BOOLEAN", "BYTEA", "CHAR", "CLOB", "DATE",
    "DATETIME", "DECIMAL", "DOUBLE", "FLOAT", "INT", "INTEGER", "JSON", "JSONB", "NUMBER",
    "NUMERIC", "PRECISION", "RAW", "REAL", "SMALLINT", "TEXT", "TIME", "TIMESTAMP", "TINYINT",
    "UUID", "VARCHAR", "VARCHAR2"]

def Plain : Prop :=
  ∀ w ∈ s.words, w ∈ vocabulary

instance : Decidable s.Plain :=
  inferInstanceAs (Decidable (∀ w ∈ s.words, w ∈ vocabulary))

variable {s : Spelling}

theorem all_isWordChar_of_mem_vocabulary :
    ∀ w ∈ vocabulary, w.toList ≠ [] ∧ w.toList.all isWordChar = true := by
  decide

theorem isWordChar_of_isDigit {c : Char} (h : c.isDigit = true) : isWordChar c = true := by
  rw [isWordChar, Bool.or_eq_true]
  exact .inr h

theorem lexes_words {d : Dialect} (hp : s.Plain) :
    Lexes d (" ".intercalate s.words).toList (s.words.map .word) := by
  have hw : ∀ w ∈ s.words, Lexes d w.toList [.word w] := fun w hm =>
    have ⟨hn, hc⟩ := all_isWordChar_of_mem_vocabulary w (hp w hm)
    lexes_word hc hn
  have hj (words : List String) :
      [].intercalate (words.map fun w => [Token.word w]) = words.map .word := by
    induction words
    case nil => rfl
    case cons w words hi =>
      cases words
      case nil => rfl
      case cons =>
        simp only [List.map_cons] at hi ⊢
        rw [List.intercalate_cons_cons, hi]
        rfl
  have h := Lexes.intercalate complete_blank (apart_of_mem (by decide)) hw
  rw [hj] at h
  rw [String.toList_intercalate]
  exact h

theorem lexes_repr {d : Dialect} (n : Nat) : Lexes d n.repr.toList [.word n.repr] := by
  refine lexes_word (List.all_eq_true.mpr fun c hc => ?_) ?_
  case refine_1 => exact isWordChar_of_isDigit (Text.isDigit_of_mem_repr c hc)
  case refine_2 =>
    rw [Nat.toList_repr]
    exact Nat.toDigits_ne_nil

theorem lexes_sizesText {d : Dialect} (sizes : List Nat) :
    Lexes d (sizesText sizes).toList (sizesTokens sizes) := by
  have hs {c : Char} (hc : c ∈ ['(', ')', ',', ';']) : Complete d [c] [.sign c] :=
    complete_sign hc
  unfold sizesText sizesTokens
  split
  case isTrue => exact fun _ _ => rfl
  case isFalse =>
    have h := Lexes.intercalate (hs (c := ',') (by decide)) (apart_of_mem (by decide))
      fun n (_ : n ∈ sizes) => lexes_repr n
    have h := ((hs (c := '(') (by decide)).append_lexes h).append_complete
      (hs (c := ')') (by decide)) (apart_of_mem (by decide))
    rw [String.toList_append, String.toList_append, String.toList_intercalate, List.map_map]
    exact h.lexes

theorem lexes_text {d : Dialect} (hp : s.Plain) : Lexes d s.text.toList s.tokens := by
  have hw := lexes_words (d := d) hp
  have hs := lexes_sizesText (d := d) s.sizes
  rw [text, String.toList_append, tokens]
  by_cases hn : s.sizes = []
  case pos => simpa [hn, sizesText, sizesTokens] using hw
  case neg =>
    refine hw.append hs ?_
    simp only [sizesText, if_neg hn, String.toList_append]
    exact apart_of_mem (by decide)

theorem readType_words {rest : List Token} {r : String} (hr : readType rest = some r)
    (hb : blankBefore rest = "") (words : List String) :
    readType (words.map .word ++ rest) = some (" ".intercalate words ++ r) := by
  induction words
  case nil => simpa using hr
  case cons w words hi =>
    cases words
    case nil => simp [readType, hr, hb]
    case cons w' words =>
      simp only [List.map_cons, List.cons_append] at hi ⊢
      rw [readType, hi, String.intercalate_cons_cons]
      simp [blankBefore, String.append_assoc]

theorem readType_sizes (sizes : List Nat) :
    readType ([.sign ','].intercalate (sizes.map fun n => [.word n.repr]) ++ [.sign ')']) =
      some (",".intercalate (sizes.map Nat.repr) ++ ")") := by
  induction sizes
  case nil => rfl
  case cons n sizes hi =>
    cases sizes
    case nil => simp [readType, blankBefore]
    case cons n' sizes =>
      simp only [List.map_cons] at hi ⊢
      rw [List.intercalate_cons_cons, String.intercalate_cons_cons, List.append_assoc,
        List.append_assoc]
      simp only [List.singleton_append]
      rw [readType, readType, hi]
      simp [blankBefore, String.append_assoc]

theorem readType_tokens : readType s.tokens = some s.text := by
  by_cases hn : s.sizes = []
  case pos =>
    have : readType (s.words.map .word ++ []) = some (" ".intercalate s.words ++ "") :=
      readType_words rfl rfl s.words
    simpa [tokens, text, hn, sizesText, sizesTokens] using this
  case neg =>
    rw [tokens, text, sizesTokens, sizesText, if_neg hn, if_neg hn]
    refine readType_words ?_ rfl s.words
    rw [readType, readType_sizes]
    simp [String.append_assoc]

theorem kept_tokens : Kept 0 s.tokens := by
  have hw : Kept 0 (s.words.map Token.word) := Kept.of_forall (by simp)
  refine hw.append ?_
  unfold sizesTokens
  split
  case isTrue => exact .nil
  case isFalse =>
    refine .parenthesized (.intercalate fun n _ => ?_)
    have hk : Kept 0 [.word n.repr] := .singleton nofun
    exact hk.mono (Nat.zero_le _)

theorem word_mem_sizes {w : String} {sizes : List Nat}
    (h : .word w ∈ [.sign ','].intercalate (sizes.map fun n => [Token.word n.repr])) :
    ∃ n : Nat, w = n.repr := by
  induction sizes
  case nil => cases h
  case cons n sizes hi =>
    cases sizes
    case nil => exact ⟨n, by simpa using h⟩
    case cons n' sizes =>
      simp only [List.map_cons] at hi h
      rw [List.intercalate_cons_cons] at h
      cases List.mem_append.mp h
      case inl hm => exact ⟨n, by simpa using hm⟩
      case inr hm => exact hi hm

theorem not_mem_tokens (hp : s.Plain) :
    ∀ w ∈ ["KEY", "IDENTITY", "AUTO_INCREMENT"], .word w ∉ s.tokens := by
  have hv : ∀ w ∈ ["KEY", "IDENTITY", "AUTO_INCREMENT"],
      w ∉ vocabulary ∧ w.toList.all Char.isDigit = false := by
    decide
  intro w hw hm
  have ⟨hv, hd⟩ := hv w hw
  cases List.mem_append.mp hm
  case inl hm =>
    have ⟨w', hw', he⟩ := List.mem_map.mp hm
    cases he
    exact hv (hp w hw')
  case inr hm =>
    unfold sizesTokens at hm
    split at hm
    case isTrue => cases hm
    case isFalse =>
      have ⟨n, hn⟩ : ∃ n : Nat, w = n.repr := word_mem_sizes (by simpa using hm)
      rw [hn, List.all_eq_true.mpr Text.isDigit_of_mem_repr] at hd
      cases hd

end Spelling

def Spelled (type : String) : Prop :=
  ∃ s : Spelling, s.Plain ∧ s.text = type

end Sql

def LogicalType.arguments (t : LogicalType) : List Nat :=
  match t.size, t.scale with
  | some size, some scale => [size, scale]
  | some size, none => [size]
  | none, _ => []

namespace Sql.Spelling

variable {t : LogicalType} {base : String}

theorem text_arguments : text ⟨[base], t.arguments⟩ = t.withArguments base := by
  obtain ⟨kind, size, scale⟩ := t
  cases size
  case none => exact String.append_empty
  case some size =>
    cases scale
    case none =>
      simp only [LogicalType.arguments, text, sizesText, LogicalType.withArguments,
        String.append_assoc]
      rfl
    case some scale =>
      have hj : ",".intercalate [size.repr, scale.repr] = size.repr ++ ("," ++ scale.repr) := by
        simp [String.append_assoc]
      simp only [LogicalType.arguments, text, sizesText, List.map_cons, List.map_nil, hj,
        LogicalType.withArguments, String.append_assoc]
      rfl

theorem text_length {standard : Nat} :
    text ⟨[base], [t.size.getD standard]⟩ = t.withLength base standard := by
  simp only [text, sizesText, LogicalType.withLength, String.append_assoc]
  rfl

end Sql.Spelling

namespace Dialect

open Sql

def typeOf? : Dialect → LogicalType → Option String
  | generic, _ => none
  | oracle, t => oracleType? t
  | postgres, t => some (postgresType t)
  | mysql, t => some (mysqlType t)

-- The kinds whose types a dialect spells with whatever arguments they have.
def WritesArguments (d : Dialect) (kind : TypeKind) : Prop :=
  kind = .decimal ∨ kind = .char ∨ kind = .varchar ∧ d = .postgres

instance (d : Dialect) (kind : TypeKind) : Decidable (d.WritesArguments kind) :=
  inferInstanceAs (Decidable (_ ∨ _ ∨ _ ∧ _))

inductive Spells (d : Dialect) (t : LogicalType) : Spelling → Prop
  | arguments {base : String} (hb : base ∈ Spelling.vocabulary) (hk : d.WritesArguments t.kind) :
    Spells d t ⟨[base], t.arguments⟩
  | length {base : String} {standard : Nat} (hb : base ∈ Spelling.vocabulary)
    (hk : ¬d.WritesArguments t.kind) (hv : t.kind = .varchar) :
    Spells d t ⟨[base], [t.size.getD standard]⟩
  | fixed {s : Spelling} (hk : ¬d.WritesArguments t.kind) (hv : t.kind ≠ .varchar) (hp : s.Plain)
    (hs : s.sizes.length ≤ 1) : Spells d t s

variable {d : Dialect} {t t' : LogicalType} {s : Spelling} {type native : String}

theorem Spells.plain : d.Spells t s → s.Plain
  | arguments hb _ | length hb _ _ => List.forall_mem_singleton.mpr hb
  | fixed _ _ hp _ => hp

section

variable {kind : TypeKind} {size scale : Option Nat} {base : String}

theorem exists_spells_arguments (hb : base ∈ Spelling.vocabulary) (hk : d.WritesArguments kind) :
    ∃ s, d.Spells ⟨kind, size, scale⟩ s ∧
      s.text = LogicalType.withArguments ⟨kind, size, scale⟩ base :=
  ⟨_, .arguments hb hk, Spelling.text_arguments⟩

theorem exists_spells_length {standard : Nat} (hb : base ∈ Spelling.vocabulary)
    (hk : ¬d.WritesArguments .varchar) :
    ∃ s, d.Spells ⟨.varchar, size, scale⟩ s ∧
      s.text = LogicalType.withLength ⟨.varchar, size, scale⟩ base standard :=
  ⟨_, .length hb hk rfl, Spelling.text_length⟩

theorem exists_spells_fixed (hp : s.Plain ∧ s.sizes.length ≤ 1)
    (hk : ¬d.WritesArguments kind ∧ kind ≠ .varchar) :
    ∃ s', d.Spells ⟨kind, size, scale⟩ s' ∧ s'.text = s.text :=
  ⟨s, .fixed hk.1 hk.2 hp.1 hp.2, rfl⟩

theorem exists_spells_word (hb : base ∈ Spelling.vocabulary)
    (hk : ¬d.WritesArguments kind ∧ kind ≠ .varchar) :
    ∃ s, d.Spells ⟨kind, size, scale⟩ s ∧ s.text = base :=
  have ht : Spelling.text ⟨[base], []⟩ = base := String.append_empty
  ht ▸ exists_spells_fixed ⟨List.forall_mem_singleton.mpr hb, Nat.zero_le 1⟩ hk

end

theorem exists_spells (h : d.typeOf? t = some native) : ∃ s, d.Spells t s ∧ s.text = native := by
  obtain ⟨kind, size, scale⟩ := t
  cases d
  case generic => cases h
  case oracle =>
    cases kind
    all_goals cases h
    case decimal | char => exact exists_spells_arguments (by decide) (by decide)
    case varchar => exact exists_spells_length (by decide) (by decide)
    case smallInt => exact exists_spells_fixed (s := ⟨["NUMBER"], [5]⟩) (by decide) (by decide)
    case bigInt => exact exists_spells_fixed (s := ⟨["NUMBER"], [19]⟩) (by decide) (by decide)
    case boolean => exact exists_spells_fixed (s := ⟨["NUMBER"], [1]⟩) (by decide) (by decide)
    case uuid => exact exists_spells_fixed (s := ⟨["RAW"], [16]⟩) (by decide) (by decide)
    all_goals exact exists_spells_word (by decide) (by decide)
  case postgres =>
    cases h
    cases kind
    case decimal | char | varchar => exact exists_spells_arguments (by decide) (by decide)
    case double =>
      exact exists_spells_fixed (s := ⟨["DOUBLE", "PRECISION"], []⟩) (by decide) (by decide)
    all_goals
      simp only [postgresType]
      exact exists_spells_word (by decide) (by decide)
  case mysql =>
    cases h
    cases kind
    case decimal | char => exact exists_spells_arguments (by decide) (by decide)
    case varchar => exact exists_spells_length (by decide) (by decide)
    case boolean => exact exists_spells_fixed (s := ⟨["TINYINT"], [1]⟩) (by decide) (by decide)
    case uuid => exact exists_spells_fixed (s := ⟨["CHAR"], [36]⟩) (by decide) (by decide)
    all_goals
      simp only [mysqlType]
      exact exists_spells_word (by decide) (by decide)

theorem nativeType?_eq (hd : d ≠ .generic) :
    d.nativeType? type = (LogicalType.parse type).bind d.typeOf? := by
  cases d
  case generic => exact absurd rfl hd
  case oracle => rfl
  case postgres => exact Option.map_eq_bind
  case mysql => exact Option.map_eq_bind

theorem spelled_nativeType? (hd : d ≠ .generic) (h : d.nativeType? type = some native) :
    Spelled native := by
  rw [nativeType?_eq hd] at h
  have ⟨t, _, ht⟩ := Option.bind_eq_some_iff.mp h
  have ⟨s, hs, he⟩ := exists_spells ht
  exact ⟨s, hs.plain, he⟩

end Dialect

end Relational
