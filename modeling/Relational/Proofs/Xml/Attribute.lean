import Relational.Proofs.Except
import Relational.Proofs.Text.Trim
import Relational.Proofs.Xml.Entity
import Relational.Xml.Attribute

namespace Relational.Xml

open Text

def isNameChar (c : Char) : Bool :=
  !isSpace c && c ∉ ['<', '>', '/', '=', '"', '\'', '!', '?', '&']

structure Name where
  chars : List Char
  nonempty : chars ≠ []
  plain : ∀ c ∈ chars, isNameChar c

structure WrittenAttribute where
  name : Name
  value : List Char
  quote : Char
  before : List Char
  beforeEquals : List Char
  afterEquals : List Char
  isQuote : quote = '"' ∨ quote = '\''
  closed : quote ∉ value
  separate : before ≠ []
  spaces : ∀ c ∈ before ++ beforeEquals ++ afterEquals, isSpace c

namespace WrittenAttribute

def chars (a : WrittenAttribute) : List Char :=
  a.before ++ (a.name.chars ++ (a.beforeEquals ++
    '=' :: (a.afterEquals ++ a.quote :: (a.value ++ [a.quote]))))

def said (a : WrittenAttribute) : List Char × List Char := (a.name.chars, a.value)

end WrittenAttribute

def attribute? (said : List Char × List Char) : Option Attribute :=
  (unescape said.2).toOption.map fun text => ⟨String.ofList said.1, String.ofList text⟩

def attributes? (said : List (List Char × List Char)) : Option (List Attribute) :=
  if (said.map (·.1)).Nodup then said.mapM attribute? else none

structure Setting where
  name : Name
  value : String

namespace Setting

def toAttribute (s : Setting) : Attribute := ⟨String.ofList s.name.chars, s.value⟩

def chars (s : Setting) : List Char :=
  ' ' :: (s.name.chars ++ '=' :: '"' :: (escape s.value.toList ++ ['"']))

def written (s : Setting) : WrittenAttribute where
  name := s.name
  value := escape s.value.toList
  quote := '"'
  before := [' ']
  beforeEquals := []
  afterEquals := []
  isQuote := .inl rfl
  closed := fun h => by
    have := not_mem_of_mem_escape h
    simp_all
  separate := by simp
  spaces := by simp [isSpace]

theorem chars_written (s : Setting) : s.written.chars = s.chars := by
  simp [WrittenAttribute.chars, written, chars]

theorem attribute?_written (s : Setting) : attribute? s.written.said = some s.toAttribute := by
  simp only [attribute?, WrittenAttribute.said, written, unescape_escape, toAttribute,
    Except.toOption, Option.map_some, String.ofList_toList]

theorem attributes?_written {settings : List Setting} (h : (settings.map (·.name.chars)).Nodup) :
    attributes? (settings.map (·.written.said)) = some (settings.map (·.toAttribute)) := by
  have hn : (settings.map (·.written.said)).map (·.1) = settings.map (·.name.chars) := by
    rw [List.map_map]
    rfl
  have hp : (fun s : Setting => attribute? s.written.said) = fun s => pure s.toAttribute :=
    funext attribute?_written
  rw [attributes?, hn, if_pos h, List.mapM_map]
  exact (congrArg (settings.mapM ·) hp).trans List.mapM_pure

end Setting

theorem Name.endsKey_eq_false {n : Name} {c : Char} (h : c ∈ n.chars) : endsKey c = false := by
  have := n.plain c h
  simp_all [isNameChar, endsKey]

theorem Name.isSpace_eq_false {n : Name} {c : Char} (h : c ∈ n.chars) : isSpace c = false := by
  have := n.plain c h
  simp_all [isNameChar]

theorem cut_append {σ : Type} {next : σ → Char → Option σ} {s s' : σ} {cs rest : List Char}
    {c : Char} (hr : cs.foldlM next s = some s') (hc : next s' c = none) :
    cut next s (cs ++ c :: rest) = some (cs, rest) := by
  induction cs generalizing s
  case nil =>
    cases hr
    simp [cut, hc]
  case cons d cs hi =>
    rw [List.foldlM_cons] at hr
    have ⟨s₁, hs, hr⟩ := Option.bind_eq_some_iff.mp hr
    simp [cut, hs, hi hr, push]

theorem foldlM_eq_some_of_forall {σ : Type} {next : σ → Char → Option σ} {s : σ} {cs : List Char}
    (h : ∀ c ∈ cs, next s c = some s) : cs.foldlM next s = some s := by
  induction cs
  case nil => rfl
  case cons c cs hi =>
    rw [List.foldlM_cons, h c (by simp)]
    exact hi fun d hd => h d (by simp [hd])

theorem isSpace_of_isQuote {c : Char} (h : c = '"' ∨ c = '\'') : isSpace c = false := by
  rcases h with rfl | rfl <;> rfl

section

variable {cs afterFirst afterEquals quoted value rest : List Char} {c quote : Char}

-- Reading one attribute, where the characters of its parts are known.
theorem attributesFrom_parts (hs : cs.dropWhile isSpace = c :: afterFirst)
    (he : (afterFirst.dropWhile (!endsKey ·)).dropWhile isSpace = '=' :: afterEquals)
    (hv : afterEquals.dropWhile isSpace = quote :: quoted) (hq : quote = '"' ∨ quote = '\'')
    (hc : cut (quoteEnd quote) () quoted = some (value, rest)) (seen : List (List Char × Nat))
    (position : Nat) :
    ∃ start next, attributesFrom seen position cs =
      match seen.lookup (c :: afterFirst.takeWhile (!endsKey ·)) with
      | some previous => .error (.repeated start previous)
      | none =>
        match unescape value with
        | .error fault => .error (.entity fault)
        | .ok text =>
          (⟨String.ofList (c :: afterFirst.takeWhile (!endsKey ·)), String.ofList text⟩ :: ·) <$>
            attributesFrom ((c :: afterFirst.takeWhile (!endsKey ·), start) :: seen) next rest := by
  rw [attributesFrom]
  split
  case h_1 hn => simp [hs] at hn
  case h_2 hs' =>
    obtain ⟨rfl, rfl⟩ := List.cons.inj (hs.symm.trans hs')
    simp only
    split
    case h_2 hn => exact absurd he (hn _)
    case h_1 he' =>
      cases he.symm.trans he'
      cases seen.lookup (c :: afterFirst.takeWhile (!endsKey ·))
      case some previous => exact ⟨_, 0, rfl⟩
      case none =>
        dsimp only
        split
        case h_1 hn => simp [hv] at hn
        case h_2 hv' =>
          obtain ⟨rfl, rfl⟩ := List.cons.inj (hv.symm.trans hv')
          rw [if_pos (by simpa using hq)]
          split
          case h_1 hn => simp [hc] at hn
          case h_2 hc' =>
            obtain ⟨rfl, rfl⟩ := Prod.mk.inj (Option.some.inj (hc.symm.trans hc'))
            cases unescape value
            case error => exact ⟨0, 0, rfl⟩
            case ok => exact ⟨_, _, rfl⟩

end

theorem WrittenAttribute.cut_quoted (a : WrittenAttribute) (rest : List Char) :
    cut (quoteEnd a.quote) () (a.value ++ a.quote :: rest) = some (a.value, rest) := by
  have hr : a.value.foldlM (quoteEnd a.quote) () = some () := by
    refine foldlM_eq_some_of_forall fun d hd => ?_
    have : d ≠ a.quote := fun h => a.closed (h ▸ hd)
    simp [quoteEnd, this]
  exact cut_append hr (by simp [quoteEnd])

theorem attributesFrom_written (a : WrittenAttribute) (seen : List (List Char × Nat))
    (position : Nat) (rest : List Char) :
    ∃ start next, attributesFrom seen position (a.chars ++ rest) =
      match seen.lookup a.name.chars with
      | some previous => .error (.repeated start previous)
      | none =>
        match unescape a.value with
        | .error fault => .error (.entity fault)
        | .ok text =>
          (⟨String.ofList a.name.chars, String.ofList text⟩ :: ·) <$>
            attributesFrom ((a.name.chars, start) :: seen) next rest := by
  have ⟨c, tail, hn⟩ := List.exists_cons_of_ne_nil a.name.nonempty
  have hspaces := a.spaces
  simp only [List.mem_append, or_imp, forall_and] at hspaces
  have ⟨⟨hb, hbe⟩, hae⟩ := hspaces
  have hc : isSpace c = false := a.name.isSpace_eq_false (by simp [hn])
  have htail : ∀ d ∈ tail, (!endsKey d) = true := fun d hd => by
    simp [a.name.endsKey_eq_false (c := d) (by simp [hn, hd])]
  have hquote := isSpace_of_isQuote a.isQuote
  have hchars : a.chars ++ rest = a.before ++ (c :: (tail ++ (a.beforeEquals ++ '=' ::
      (a.afterEquals ++ a.quote :: (a.value ++ a.quote :: rest))))) := by
    simp [WrittenAttribute.chars, hn]
  have hv : (a.afterEquals ++ a.quote :: (a.value ++ a.quote :: rest)).dropWhile isSpace =
      a.quote :: (a.value ++ a.quote :: rest) :=
    dropWhile_append_eq hae (by simpa using hquote)
  generalize a.afterEquals ++ a.quote :: (a.value ++ a.quote :: rest) = written at hchars hv
  have hs : (a.chars ++ rest).dropWhile isSpace =
      c :: (tail ++ (a.beforeEquals ++ '=' :: written)) :=
    hchars ▸ dropWhile_append_eq hb (by simpa using hc)
  -- The name goes on to the spaces before the equals sign, or to that itself.
  have hstop : ∀ d ∈ (a.beforeEquals ++ '=' :: written).head?, (!endsKey d) = false := by
    cases hg : a.beforeEquals
    case nil => simp [endsKey]
    case cons d ds => simp [endsKey, hbe d (by simp [hg])]
  have he : ((tail ++ (a.beforeEquals ++ '=' :: written)).dropWhile (!endsKey ·)).dropWhile
      isSpace = '=' :: written := by
    rw [dropWhile_append_eq htail hstop]
    exact dropWhile_append_eq hbe (by simp [isSpace])
  have hparts := attributesFrom_parts hs he hv a.isQuote (a.cut_quoted rest) seen position
  rwa [takeWhile_append_eq htail hstop, ← hn] at hparts

theorem attributesFrom_spaces {cs : List Char} (h : ∀ c ∈ cs, isSpace c)
    (seen : List (List Char × Nat)) (position : Nat) :
    attributesFrom seen position cs = .ok [] := by
  rw [attributesFrom]
  split
  case h_1 => rfl
  case h_2 hs => simp [List.dropWhile_eq_nil_iff.mpr h] at hs

theorem toOption_attributesFrom (as : List WrittenAttribute) {after : List Char}
    (ha : ∀ c ∈ after, isSpace c) (seen : List (List Char × Nat)) (position : Nat) :
    (attributesFrom seen position (as.flatMap (·.chars) ++ after)).toOption =
      if (as.map (·.name.chars)).Nodup ∧ ∀ a ∈ as, seen.lookup a.name.chars = none then
        (as.map (·.said)).mapM attribute?
      else none := by
  induction as generalizing seen position
  case nil =>
    rw [List.flatMap_nil, List.nil_append, attributesFrom_spaces ha]
    rfl
  case cons a as hi =>
    have ⟨start, next, h⟩ := attributesFrom_written a seen position
      (as.flatMap (·.chars) ++ after)
    rw [List.flatMap_cons, List.append_assoc, h]
    cases hl : seen.lookup a.name.chars
    case some previous =>
      rw [if_neg fun hn => by simpa [hl] using hn.2 a List.mem_cons_self]
      rfl
    case none =>
      have hn : ((as.map (·.name.chars)).Nodup ∧
          ∀ b ∈ as, ((a.name.chars, start) :: seen).lookup b.name.chars = none) ↔
          ((a :: as).map (·.name.chars)).Nodup ∧
            ∀ b ∈ a :: as, seen.lookup b.name.chars = none := by
        simp only [List.lookup_cons, List.map_cons, List.nodup_cons, List.mem_map,
          List.forall_mem_cons, hl]
        grind
      rw [← if_congr hn rfl rfl, List.map_cons, List.mapM_cons]
      cases hv : unescape a.value
      case error =>
        have ha : attribute? a.said = none := by
          rw [attribute?, WrittenAttribute.said, hv]
          rfl
        rw [ha]
        exact (ite_self none).symm
      case ok text =>
        have ha : attribute? a.said = some ⟨String.ofList a.name.chars, String.ofList text⟩ := by
          rw [attribute?, WrittenAttribute.said, hv]
          rfl
        dsimp only
        rw [toOption_map, hi, ha]
        split
        case isTrue => cases (as.map (·.said)).mapM attribute? <;> rfl
        case isFalse => rfl

end Relational.Xml
