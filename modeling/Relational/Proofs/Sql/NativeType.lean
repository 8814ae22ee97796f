import Relational.Proofs.Sql.Spelling

namespace Relational

open Sql

namespace Sql.Spelling

variable {s s' : Spelling} {sizes : List Nat}

theorem split_sizesTokens :
    ((inParentheses? (sizesTokens sizes)).map (split ',' 0)).getD [] =
      sizes.map fun n => [.word n.repr] := by
  by_cases hn : sizes = []
  case pos =>
    rw [hn]
    rfl
  case neg =>
    have hk : ∀ n ∈ sizes, Kept 0 [Token.word n.repr] := fun _ _ => .singleton nofun
    rw [sizesTokens, if_neg hn, inParentheses?_append, Option.map_some, split_intercalate hn hk]
    rfl

theorem sizesTokens_injective : Function.Injective sizesTokens := by
  intro sizes sizes' h
  have hw : Function.Injective fun n : Nat => [Token.word n.repr] := by
    intro m n he
    have he : m.repr = n.repr := by simpa using he
    exact Nat.repr_injective he
  apply hw.list_map
  rw [← split_sizesTokens, h, split_sizesTokens]

theorem dropWhile_tokens : s.tokens.dropWhile (· != .sign '(') = sizesTokens s.sizes := by
  rw [tokens, List.dropWhile_append_of_pos (by simp)]
  unfold sizesTokens
  split
  case isTrue => rfl
  case isFalse => rfl

theorem sizes_eq_of_text_eq (hp : s.Plain) (hp' : s'.Plain) (h : s.text = s'.text) :
    s.sizes = s'.sizes := by
  have ht : s.tokens = s'.tokens := by
    rw [← tokens_eq (d := .generic) (lexes_text hp), h, tokens_eq (lexes_text hp')]
  apply sizesTokens_injective
  rw [← dropWhile_tokens, ht, dropWhile_tokens]

end Sql.Spelling

theorem LogicalType.length_arguments_le (t : LogicalType) : t.arguments.length ≤ 2 := by
  unfold arguments
  split <;> simp

theorem LogicalType.arguments_eq_singleton {t : LogicalType} {n : Nat} (hn : n ∈ t.size)
    (h : t.arguments.length ≠ 2) : t.arguments = [n] := by
  obtain ⟨kind, _, scale⟩ := t
  cases hn
  cases scale
  case none => rfl
  case some => exact absurd rfl h

namespace Dialect

-- Precision and scale come with a decimal type, at most a length with a character type, and what
-- type it is makes no difference within any other kind.
inductive Fits (d : Dialect) (t : LogicalType) (s : Spelling) : Prop
  | decimal (hk : t.kind = .decimal) (hs : s.sizes = t.arguments)
  | character (hk : t.kind = .char ∨ t.kind = .varchar) (hs : s.sizes.length ≤ 1)
    (hn : ∀ n ∈ t.size, s.sizes = [n])
  | fixed (hk : t.kind ∉ [.decimal, .char, .varchar])
    (hs : ∀ type t', LogicalType.parse type = some t' → t'.kind = t.kind →
      d.nativeType? type = some s.text)

variable {d : Dialect} {t t' : LogicalType} {s : Spelling} {type native : String}

theorem typeOf?_congr (hk : ¬d.WritesArguments t.kind) (hv : t.kind ≠ .varchar)
    (h : t'.kind = t.kind) : d.typeOf? t' = d.typeOf? t := by
  obtain ⟨kind, _, _⟩ := t
  obtain ⟨_, _, _⟩ := t'
  cases h
  cases d
  case generic => rfl
  all_goals
    cases kind
    case decimal => exact absurd (.inl rfl) hk
    case char => exact absurd (.inr (.inl rfl)) hk
    case varchar => exact absurd rfl hv
    all_goals rfl

theorem Spells.length_le (h : d.Spells t s) : s.sizes.length ≤ 2 := by
  cases h
  case arguments => exact t.length_arguments_le
  case length => exact Nat.le_succ 1
  case fixed hs => exact Nat.le_succ_of_le hs

theorem Spells.length_eq_two_iff (h : d.Spells t s) :
    s.sizes.length = 2 ↔ t.arguments.length = 2 ∧ d.WritesArguments t.kind := by
  cases h
  case arguments hk => exact (and_iff_left hk).symm
  case length hk _ => exact iff_of_false (by simp) fun h => hk h.right
  case fixed hk _ _ hs => exact iff_of_false (by omega) fun h => hk h.right

theorem Spells.fits_iff (h : d.Spells t s) (hd : d ≠ .generic) (ht : d.typeOf? t = some s.text) :
    d.Fits t s ↔ ¬(s.sizes.length = 2 ∧ t.kind ≠ .decimal) := by
  constructor
  case mp =>
    rintro hf ⟨hs, hk⟩
    cases hf
    case decimal hk' _ => exact hk hk'
    case character hs' _ => omega
    case fixed hk' _ =>
      -- Both of two arguments are written only for kinds that can have them.
      have ⟨_, hw⟩ := h.length_eq_two_iff.mp hs
      rcases hw with hw | hw | ⟨hw, _⟩
      all_goals exact hk' (by simp [hw])
  case mpr =>
    intro hs
    cases h
    case arguments hb hk =>
      by_cases hdecimal : t.kind = .decimal
      case pos => exact .decimal hdecimal rfl
      case neg =>
        have hne : t.arguments.length ≠ 2 := fun h => hs ⟨h, hdecimal⟩
        have hle : t.arguments.length ≤ 1 := by
          have := t.length_arguments_le
          omega
        refine .character ?_ hle fun n hn => t.arguments_eq_singleton hn hne
        exact (hk.resolve_left hdecimal).imp_right (·.left)
    case length hb hk hv =>
      refine .character (.inr hv) (Nat.le_refl 1) fun n hn => ?_
      rw [hn]
      rfl
    case fixed hk hv hp hs =>
      refine .fixed ?_ fun type t' htype hk' => ?_
      · have ⟨hdecimal, hchar⟩ := not_or.mp hk
        simp [hdecimal, not_or.mp hchar, hv]
      · rw [nativeType?_eq hd, htype, Option.bind_some, typeOf?_congr hk hv hk', ht]

-- Outside portable SQL a native type has the arguments that its kind can have, unless it is a
-- character type which is spelled with both of two arguments.
theorem fits_nativeType?_iff (hd : d ≠ .generic) (h : d.nativeType? type = some native) :
    ∃ t s, LogicalType.parse type = some t ∧ s.Plain ∧ s.text = native ∧
      (∀ s' : Spelling, s'.Plain → s'.text = native → s'.sizes = s.sizes) ∧
      s.sizes.length ≤ 2 ∧
      (s.sizes.length = 2 ↔ t.arguments.length = 2 ∧ d.WritesArguments t.kind) ∧
      (d.Fits t s ↔ ¬(s.sizes.length = 2 ∧ t.kind ≠ .decimal)) := by
  rw [nativeType?_eq hd] at h
  obtain ⟨t, htype, ht⟩ := Option.bind_eq_some_iff.mp h
  obtain ⟨s, hs, rfl⟩ := exists_spells ht
  exact ⟨t, s, htype, hs.plain, rfl, fun s' hp he => Spelling.sizes_eq_of_text_eq hp hs.plain he,
    hs.length_le, hs.length_eq_two_iff, hs.fits_iff hd ht⟩

theorem fits_nativeType?_iff_length :
    mysql ≠ generic ∧ mysql.nativeType? "varchar(20, 5)" = some "VARCHAR(20)" ∧
    ∃ t s, LogicalType.parse "varchar(20, 5)" = some t ∧ t.arguments.length = 2 ∧
      s.text = "VARCHAR(20)" ∧ s.sizes.length ≠ 2 ∧ mysql.Fits t s := by
  have hd : mysql ≠ generic := by decide
  have h : mysql.nativeType? "varchar(20, 5)" = some "VARCHAR(20)" := by decide
  have ⟨t, s, htype, _, he, _, _, hs, hf⟩ := fits_nativeType?_iff hd h
  have ht : LogicalType.parse "varchar(20, 5)" =
      some { kind := .varchar, size := some 20, scale := some 5 } := by decide
  obtain rfl := Option.some.inj (htype.symm.trans ht)
  have hw : ¬mysql.WritesArguments .varchar := by decide
  have hne : s.sizes.length ≠ 2 := fun hl => hw (hs.mp hl).right
  exact ⟨hd, h, _, s, htype, rfl, he, hne, hf.mpr fun hn => hne hn.left⟩

theorem not_fits_char :
    ¬∀ (d : Dialect) (type native : String), d ≠ .generic → d.nativeType? type = some native →
      ∃ t s, LogicalType.parse type = some t ∧ s.Plain ∧ s.text = native ∧ d.Fits t s := by
  intro h
  have hn : oracle.nativeType? "CHAR(10,2)" = some "CHAR(10,2)" := by decide
  have ⟨t, s, htype, hp, he, hf⟩ := h _ _ _ (by decide) hn
  have ht : LogicalType.parse "CHAR(10,2)" =
      some { kind := .char, size := some 10, scale := some 2 } := by decide
  obtain rfl := Option.some.inj (htype.symm.trans ht)
  have hc : Spelling.Plain ⟨["CHAR"], [10, 2]⟩ := by decide
  have hs : s.sizes = [10, 2] := Spelling.sizes_eq_of_text_eq hp hc he
  cases hf
  case decimal hk _ => cases hk
  case character hs' _ => simp [hs] at hs'
  case fixed hk _ => simp at hk

end Dialect
end Relational
