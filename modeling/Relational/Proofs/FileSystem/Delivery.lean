import Relational.Proofs.FileSystem.Tree

namespace Relational

open MonadExcept (ofExcept)

def convertAndWrite {m : Type → Type} [Monad m] [Files m] (c : Settings) (path : String) :
    FileWork m (Conversion × Option String) := do
  let converter ← ofExcept (Converter.ofSettings c)
  let result ← converter.convertFile path
  let written ← converter.writeOutput result
  return (result, written)

variable {σ : Type} [Files (StateM σ)]

-- The script is where the settings say, with the directories above it, or else nowhere.
inductive Placed (script : String) : Option String → σ → σ → Prop
  | nowhere {s : σ} : Placed script none s s
  | beside {path : String} {s s' : σ} (above : (Path.parent? path).filter (· ≠ "") = none)
      (write : Gives (Files.write path script.toUTF8) s (.ok ()) s') :
      Placed script (some path) s s'
  | below {path parent : String} {s s₁ s' : σ}
      (above : (Path.parent? path).filter (· ≠ "") = some parent)
      (make : Gives (Files.makeDirectories parent) s (.ok ()) s₁)
      (write : Gives (Files.write path script.toUTF8) s₁ (.ok ()) s') :
      Placed script (some path) s s'

theorem FileTree.read_of_placed {script path : String} {t t' : FileTree}
    (h : Placed script (some path) t t') : t'.read path = .ok script.toUTF8 := by
  cases h
  case beside _ hw => exact read_write (gives_attempt.mp hw)
  case below _ _ hw => exact read_write (gives_attempt.mp hw)

variable {s s' : σ} {c : Settings} {converter : Converter} {path : String} {result : Conversion}
  {written : Option String}

theorem ends_writeOutput_ok :
    Ends (converter.writeOutput result) s (.ok written) s' ↔
      written = converter.settings.output ∧
        Placed result.script converter.settings.output s s' := by
  rw [Converter.writeOutput]
  rcases converter.settings.output with _ | path
  case none =>
    simp only [ends_pure, Except.ok.injEq]
    refine and_congr_right fun _ => ⟨fun h => h ▸ .nowhere, fun h => ?_⟩
    cases h
    rfl
  case some =>
    dsimp only
    -- Directories are made only where the path names some.
    cases ha : (Path.parent? path).filter (· ≠ "")
    case none =>
      simp only [ends_bind_ok, ends_pure, ends_accessing_ok]
      constructor
      case mp =>
        rintro ⟨_, _, hw, he, rfl⟩
        exact ⟨Except.ok.inj he, .beside ha hw⟩
      case mpr =>
        rintro ⟨rfl, h⟩
        cases h
        case beside _ hw => exact ⟨_, _, hw, rfl, rfl⟩
        case below ha' _ _ => cases ha.symm.trans ha'
    case some parent =>
      simp only [ends_bind_ok, ends_pure, ends_accessing_ok]
      constructor
      case mp =>
        rintro ⟨_, _, hm, _, _, hw, he, rfl⟩
        exact ⟨Except.ok.inj he, .below ha hm hw⟩
      case mpr =>
        rintro ⟨rfl, h⟩
        cases h
        case beside ha' _ => cases ha.symm.trans ha'
        case below ha' hm hw =>
          cases Option.some.inj (ha.symm.trans ha')
          exact ⟨_, _, hm, _, _, hw, rfl, rfl⟩

-- With these settings the file at the path becomes this, and the script is in its place.
inductive Delivered (c : Settings) (path : String) : σ → Conversion → σ → Prop
  | intro {s s₁ s' : σ} {converter : Converter} {f : Format} {result : Conversion}
      (bytes : ByteArray)
      (settings : Converter.ofSettings c = .ok converter)
      (format : converter.formatOf path = .ok f)
      (read : Gives (Files.read path) s (.ok bytes) s₁)
      (converted : converter.convertContent path f bytes = .ok result)
      (placed : Placed result.script c.output s₁ s') : Delivered c path s result s'

-- The dialect is one that there is, and so is the format if one is set.
structure Settings.Registered (c : Settings) : Prop where
  dialect : ∃ d, Dialect.ofKey c.dialect = .ok d
  format  : ∀ key ∈ c.format, ∃ f, Format.ofKey key = .ok f

theorem Settings.exists_refusal (h : ¬c.Registered) :
    ∃ text, Converter.ofSettings c = .error (.settings text) := by
  unfold Converter.ofSettings
  cases hs : c.check
  case error text => exact ⟨text, rfl⟩
  case ok d =>
    unfold Settings.check at hs
    refine absurd ?_ h
    split at hs
    case h_1 => cases hs
    case h_2 => cases hs
    case h_3 d' r hd hf =>
      refine ⟨⟨_, hd⟩, fun key hk => ?_⟩
      cases hf' : Format.ofKey key
      case error e => exact (hf e (by rw [Option.mem_def.mp hk, Option.map_some, hf'])).elim
      case ok f => exact ⟨f, rfl⟩

theorem Converter.settings_eq (h : Converter.ofSettings c = .ok converter) :
    converter.settings = c := by
  unfold Converter.ofSettings at h
  split at h
  case h_1 => cases h; rfl
  case h_2 => cases h

theorem Converter.schema_source {format : Format} {bytes : ByteArray}
    (h : converter.convertContent path format bytes = .ok result) :
    result.schema.source = some path := by
  have ⟨schema, _, h⟩ := bind_eq_ok.mp h
  have ⟨_, _, h⟩ := bind_eq_ok.mp h
  cases h
  rfl

theorem ends_convertFile_ok :
    Ends (converter.convertFile path) s (.ok result) s' ↔
      ∃ format, converter.formatOf path = .ok format ∧
        ∃ bytes, Gives (Files.read path) s (.ok bytes) s' ∧
          converter.convertContent path format bytes = .ok result := by
  rw [Converter.convertFile, ends_ofExcept_bind_ok]
  refine exists_congr fun format => and_congr_right fun _ => ?_
  simp only [ends_bind_ok, ends_accessing_ok, ends_ofExcept_ok]
  refine exists_congr fun bytes => ?_
  grind

theorem ends_convertAndWrite_ok :
    Ends (convertAndWrite c path) s (.ok (result, written)) s' ↔
      written = c.output ∧ Delivered c path s result s' := by
  simp only [convertAndWrite, ends_ofExcept_bind_ok]
  simp only [ends_bind_ok, ends_convertFile_ok, ends_writeOutput_ok, ends_pure]
  constructor
  case mp =>
    rintro ⟨converter, hs, _, s₁, ⟨format, hf, bytes, hr, hc⟩, _, _, ⟨hw, hp⟩, he, rfl⟩
    cases he
    rw [Converter.settings_eq hs] at hw hp
    exact ⟨hw, .intro bytes hs hf hr hc hp⟩
  case mpr =>
    intro ⟨hw, h⟩
    obtain ⟨_, hs, hf, hr, hc, hp⟩ := h
    have he := Converter.settings_eq hs
    exact ⟨_, hs, _, _, ⟨_, hf, _, hr, hc⟩, _, _, ⟨he ▸ hw, he ▸ hp⟩, rfl, rfl⟩

end Relational
