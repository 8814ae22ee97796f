import Relational.CommandLine.Run
import Relational.Proofs.FileSystem.Delivery
import Relational.Proofs.Schema.Storage

namespace Relational

theorem Format.ofKey_name (f : Format) : ofKey f.name = .ok f := by
  cases f <;> decide

namespace Converter

variable {converter : Converter} {path : String} {result : Conversion} {bytes : ByteArray}

theorem readSchema_eq_ok {key : String} {schema : Schema} :
    readSchema bytes key = .ok schema ↔
      ∃ format, Format.ofKey key = .ok format ∧ Schema.read format bytes = .ok schema := by
  simp only [readSchema, bind_eq_ok, mapError_eq_ok]

theorem generate_source {schema : Schema} {source : Option String} :
    converter.generate { schema with source } =
      (fun r => { r with schema := { r.schema with source } }) <$> converter.generate schema := by
  have h : Schema.generate converter.dialect { schema with source } =
      schema.generate converter.dialect := Schema.generate_congr rfl converter.dialect
  rw [generate, generate, h]
  cases schema.generate converter.dialect <;> rfl

theorem convert_then_mark (path : String) {key : String} :
    (∃ r, converter.convert bytes key = .ok r ∧
        { r with schema := { r.schema with source := some path } } = result) ↔
      ∃ format, Format.ofKey key = .ok format ∧
        converter.convertContent path format bytes = .ok result := by
  simp only [convert, convertContent, bind_eq_ok, readSchema_eq_ok, generate_source, map_eq_ok,
    Format.ofKey_name]
  grind

end Converter

namespace CommandLine

variable {σ : Type} {s s₁ s' : σ} {c : Settings} {converter : Converter} {path : String}
  {result : Conversion} {written : Option String} {bytes : ByteArray} (stdin : ByteArray)

theorem ends_converting {α : Type} {work : FileWork (StateM σ) α}
    {r : Except ConversionError α} (h : Ends work s r s') :
    Ends (converting work) s (r.mapError .conversion) s' :=
  congrArg (fun p : Except ConversionError α × σ => (p.1.mapError CommandError.conversion, p.2)) h

theorem ends_converting_ok {α : Type} {work : FileWork (StateM σ) α} {a : α} :
    Ends (converting work) s (.ok a) s' ↔ Ends work s (.ok a) s' := by
  constructor
  case mp =>
    intro hc
    have ⟨r, s₁, h⟩ := exists_ends work s
    have ⟨hr, hs⟩ := (ends_converting h).unique hc
    rwa [mapError_eq_ok.mp hr, hs] at h
  case mpr => exact ends_converting

variable [Files (StateM σ)]

theorem ends_loadInput {r : Except CommandError Input} (hp : path ≠ "-")
    (h : Gives (Files.read path) s (.ok bytes) s₁) :
    Ends (loadInput stdin path) s r s' ↔ r = .ok ⟨bytes, some path⟩ ∧ s' = s₁ := by
  rw [loadInput, if_neg hp, h.bind_iff]
  exact ends_pure

theorem ends_loadInput_error {fault : FileFault} {r : Except CommandError Input} (hp : path ≠ "-")
    (h : Gives (Files.read path) s (.error fault) s₁) :
    Ends (loadInput stdin path) s r s' ↔ r = .error (.unreadable path fault) ∧ s' = s₁ := by
  rw [loadInput, if_neg hp, h.bind_iff]
  exact ends_throw

theorem ends_loadInput_ok {input : Input} (hp : path ≠ "-") :
    Ends (loadInput stdin path) s (.ok input) s' ↔
      Gives (Files.read path) s (.ok input.bytes) s' ∧ input.path = some path := by
  have ⟨r, s₁, h⟩ := exists_gives (Files.read path : StateM σ _) s
  cases r
  case error =>
    rw [ends_loadInput_error stdin hp h]
    exact ⟨nofun, fun h' => nomatch (h.unique h'.left).left⟩
  case ok bytes =>
    rw [ends_loadInput stdin hp h]
    constructor
    case mp =>
      rintro ⟨he, rfl⟩
      cases he
      exact ⟨h, rfl⟩
    case mpr =>
      intro ⟨h', hi⟩
      have ⟨he, hs⟩ := h.unique h'
      cases he
      exact ⟨congrArg Except.ok (congrArg (Input.mk _) hi), hs.symm⟩

theorem formatKey_eq_ok (bytes : ByteArray) {format : Format} :
    (∃ key, Input.formatKey ⟨bytes, some path⟩ converter.settings.format = .ok key ∧
        Format.ofKey key = .ok format) ↔ converter.formatOf path = .ok format := by
  rw [Converter.formatOf]
  cases converter.settings.format
  case some key => simp [Input.formatKey, mapError_eq_ok]
  case none =>
    simp only [Input.formatKey, mapError_eq_ok]
    cases Format.ofPath path
    case error => simp
    case ok => simp [Format.ofKey_name]

theorem formatKey_error {given : Option String} {e : CommandError}
    (h : Input.formatKey ⟨bytes, some path⟩ given = .error e) :
    given = none ∧ (∃ fault, Format.ofPath path = .error fault) ∧
      ∃ report, e = .invalidArgument report := by
  cases given
  case some => cases h
  case none =>
    cases hp : Format.ofPath path
    case ok => simp [Input.formatKey, hp] at h
    case error fault =>
      simp only [Input.formatKey, hp] at h
      exact ⟨rfl, ⟨fault, rfl⟩, _, (Except.error.inj h).symm⟩

theorem ends_produce_ok (hp : path ≠ "-") :
    Ends (produce stdin c path) s (.ok (result, written)) s' ↔
      written = c.output ∧ Delivered c path s result s' := by
  rw [produce, ends_bind_ok]
  simp only [ends_loadInput_ok stdin hp, ends_ofExcept_bind_ok, mapError_eq_ok]
  simp only [ends_bind_ok, ends_converting_ok, ends_writeOutput_ok, ends_pure]
  constructor
  case mp =>
    rintro ⟨⟨bytes, _⟩, s₁, ⟨hr, rfl⟩, key, hk, converter, hs, r, hc, _, _, ⟨hw, hp⟩, he, rfl⟩
    cases he
    cases Converter.settings_eq hs
    have ⟨format, hf, hc⟩ := (Converter.convert_then_mark path).mp ⟨r, hc, rfl⟩
    exact ⟨hw, .intro bytes hs ((formatKey_eq_ok bytes).mp ⟨key, hk, hf⟩) hr hc hp⟩
  case mpr =>
    intro ⟨hw, h⟩
    obtain ⟨bytes, hs, hf, hr, hc, hp⟩ := h
    cases Converter.settings_eq hs
    have ⟨key, hk, hf⟩ := (formatKey_eq_ok bytes).mpr hf
    have ⟨r, hv, he⟩ := (Converter.convert_then_mark path).mpr ⟨_, hf, hc⟩
    cases he
    exact ⟨⟨bytes, some path⟩, _, ⟨hr, rfl⟩, key, hk, _, hs, r, hv, _, _, ⟨hw, hp⟩, rfl, rfl⟩

-- What a command says of settings that are refused with this text. It reads the input and looks for
-- its format before.
inductive Refused (c : Settings) (path text : String) :
    Except FileFault ByteArray → CommandError → Prop
  | unreadable {fault : FileFault} : Refused c path text (.error fault) (.unreadable path fault)
  | unknown {bytes : ByteArray} {fault : UnsupportedFormat} {report : String}
      (given : c.format = none) (extension : Format.ofPath path = .error fault) :
      Refused c path text (.ok bytes) (.invalidArgument report)
  | settings {bytes : ByteArray} : Refused c path text (.ok bytes) (.conversion (.settings text))

theorem exists_refused {text : String} {r : Except FileFault ByteArray}
    (hp : path ≠ "-") (hs : Converter.ofSettings c = .error (.settings text))
    (hr : Gives (Files.read path) s r s') :
    ∃ e, Ends (produce stdin c path) s (.error e) s' ∧ Refused c path text r e := by
  cases r
  case error fault =>
    have hl := (ends_loadInput_error stdin hp hr).mpr ⟨rfl, rfl⟩
    exact ⟨_, hl.bind_error, .unreadable⟩
  case ok bytes =>
    have hl := (ends_loadInput stdin hp hr).mpr ⟨rfl, rfl⟩
    simp only [produce, hl.bind_iff]
    cases hk : Input.formatKey ⟨bytes, some path⟩ c.format
    case error e =>
      have ⟨hn, ⟨_, hf⟩, _, he⟩ := formatKey_error hk
      cases he
      exact ⟨_, (ends_ofExcept.mpr ⟨rfl, rfl⟩).bind_error, .unknown hn hf⟩
    case ok key =>
      rw [hs]
      refine ⟨_, ?_, .settings⟩
      rw [(ends_ofExcept.mpr ⟨rfl, rfl⟩).bind_iff]
      exact (ends_ofExcept.mpr ⟨rfl, rfl⟩).bind_error

theorem ends_generate_ok {a : GenerateArguments} {o : Outcome}
    (hc : Ends a.settings s (.ok c) s₁) :
    Ends (generate stdin a) s (.ok o) s' ↔
      ∃ result written, Ends (produce stdin c a.input) s₁ (.ok (result, written)) s' ∧
        o = { output := if written.isNone then result.script else ""
              reports := if c.verbose then generateReport result written else "" } := by
  rw [generate, hc.bind_iff, ends_bind_ok]
  constructor
  case mp =>
    rintro ⟨⟨result, written⟩, _, hp, ho⟩
    obtain ⟨he, rfl⟩ := ends_pure.mp ho
    exact ⟨result, written, hp, Except.ok.inj he⟩
  case mpr =>
    rintro ⟨result, written, hp, rfl⟩
    exact ⟨_, _, hp, ends_pure.mpr ⟨rfl, rfl⟩⟩

-- With the settings that its arguments amount to, the command succeeds on a file exactly if the
-- converter does. Both then have the same result, which names the file as its source, and leave the
-- same files behind; a script that is not written is printed. Settings that name a dialect or a
-- format that there is not are refused by both, when at most the input has been read.
theorem generate_agrees {a : GenerateArguments} (hc : Ends a.settings s (.ok c) s₁)
    (hi : a.input ≠ "-") :
    ((∃ o s', Ends (generate stdin a) s (.ok o) s') ↔
      ∃ r s', Ends (convertAndWrite c a.input) s₁ (.ok r) s') ∧
    (∀ o s', Ends (generate stdin a) s (.ok o) s' →
      ∃ result bytes s₂,
        Ends (produce stdin c a.input) s₁ (.ok (result, c.output)) s' ∧
        Ends (convertAndWrite c a.input) s₁ (.ok (result, c.output)) s' ∧
        result.schema.source = some a.input ∧
        Gives (Files.read a.input) s₁ (.ok bytes) s₂ ∧ Placed result.script c.output s₂ s' ∧
        o.output = if c.output = none then result.script else "") ∧
    (¬c.Registered → ∃ text r s₂ e,
      Ends (convertAndWrite c a.input) s₁ (.error (.settings text)) s₁ ∧
      Gives (Files.read a.input) s₁ r s₂ ∧ Refused c a.input text r e ∧
      Ends (generate stdin a) s (.error e) s₂) := by
  refine ⟨⟨?_, ?_⟩, ?_, ?_⟩
  · intro ⟨o, s', h⟩
    have ⟨result, written, hp, _⟩ := (ends_generate_ok stdin hc).mp h
    exact ⟨_, _, ends_convertAndWrite_ok.mpr ((ends_produce_ok stdin hi).mp hp)⟩
  · intro ⟨⟨result, written⟩, s', h⟩
    have hp := (ends_produce_ok stdin hi).mpr (ends_convertAndWrite_ok.mp h)
    exact ⟨_, _, (ends_generate_ok stdin hc).mpr ⟨_, _, hp, rfl⟩⟩
  · intro o s' h
    have ⟨result, written, hp, ho⟩ := (ends_generate_ok stdin hc).mp h
    have ⟨hw, hd⟩ := (ends_produce_ok stdin hi).mp hp
    cases hw
    have hl := ends_convertAndWrite_ok.mpr ⟨rfl, hd⟩
    obtain ⟨bytes, _, _, hr, hc, hpl⟩ := hd
    refine ⟨result, bytes, _, hp, hl, Converter.schema_source hc, hr, hpl, ?_⟩
    cases ho
    cases c.output <;> rfl
  · intro h
    -- The converter looks at its settings before anything else, the command once it has the input.
    have ⟨text, hs⟩ := Settings.exists_refusal h
    have ⟨r, s₂, hr⟩ := exists_gives (Files.read a.input : StateM σ _) s₁
    have ⟨e, he, hf⟩ := exists_refused stdin hi hs hr
    exact ⟨text, r, s₂, e, (ends_ofExcept.mpr ⟨hs.symm, rfl⟩).bind_error, hr, hf,
      hc.bind_iff.mpr he.bind_error⟩

def staff : Schema := { tables := [
  { name := "employee", columns := [{ name := "id", type := "INT", primaryKey := true }] }] }

def office : FileTree := { entries := [(["staff.json"], .file staff.toJsonText.toUTF8)] }

def officeArguments : GenerateArguments where
  input := "staff.json"
  dialect := some "PG"
  output := some "out/staff.sql"

def officeSettings : Settings where
  dialect := "PG"
  output := some "out/staff.sql"

theorem delivered_office : ∃ result t', staff.generate .postgres = .ok result.script ∧
    Delivered officeSettings "staff.json" office result t' := by
  have ⟨script, hg⟩ : ∃ script, staff.generate .postgres = .ok script := ⟨_, rfl⟩
  let converter : Converter := { settings := officeSettings, dialect := .postgres }
  let result : Conversion :=
    { schema := { staff with source := some "staff.json" }, dialect := .postgres, script }
  have hs : Converter.ofSettings officeSettings = .ok converter := rfl
  have hf : converter.formatOf "staff.json" = .ok .json := rfl
  have hr : Gives (Files.read "staff.json") office (.ok staff.toJsonText.toUTF8) office := rfl
  have hc : converter.convertContent "staff.json" .json staff.toJsonText.toUTF8 = .ok result := by
    have hw : staff.WellFormed := by decide
    have hm : Schema.markThroughTables { tables := staff.tables } = staff := by decide
    have hd : Schema.read .json staff.toJsonText.toUTF8 = .ok staff :=
      (Schema.read_toJsonText hw).trans (congrArg _ hm)
    have hr : Converter.readSchema staff.toJsonText.toUTF8 Format.json.name = .ok staff :=
      Converter.readSchema_eq_ok.mpr ⟨_, Format.ofKey_name .json, hd⟩
    have hg : converter.generate staff = .ok ⟨staff, .postgres, script⟩ :=
      bind_eq_ok.mpr ⟨script, mapError_eq_ok.mpr hg, rfl⟩
    refine bind_eq_ok.mpr ⟨staff, hr, ?_⟩
    rw [Converter.generate_source, hg]
    rfl
  have ⟨t, hm⟩ : ∃ t, office.makeDirectories "out" = .ok t := ⟨_, rfl⟩
  have ⟨t', hw⟩ : ∃ t', t.write "out/staff.sql" script.toUTF8 = .ok t' := by
    cases hm
    exact ⟨_, rfl⟩
  have hp : Placed script officeSettings.output office t' :=
    .below rfl (FileTree.gives_attempt.mpr hm) (FileTree.gives_attempt.mpr hw)
  exact ⟨result, t', hg, .intro _ hs hf hr hc hp⟩

theorem generate_agrees_office :
    Ends officeArguments.settings office (.ok officeSettings) office ∧
    officeArguments.input ≠ "-" ∧
    ∃ o t' script, Ends (generate ByteArray.empty officeArguments) office (.ok o) t' ∧
      o.output = "" ∧ staff.generate .postgres = .ok script ∧
      t'.read "out/staff.sql" = .ok script.toUTF8 := by
  have hc : Ends officeArguments.settings office (.ok officeSettings) office := rfl
  have hi : officeArguments.input ≠ "-" := by decide
  have ⟨result, t', hg, hd⟩ := delivered_office
  have hl := ends_convertAndWrite_ok.mpr ⟨rfl, hd⟩
  have h := generate_agrees ByteArray.empty hc hi
  have ⟨o, t, ho⟩ := h.1.mpr ⟨_, _, hl⟩
  have ⟨result', _, _, _, hl', _, _, hp, hout⟩ := h.2.1 o t ho
  have ⟨he, ht⟩ := hl.unique hl'
  cases he
  exact ⟨hc, hi, o, t, result.script, ho, hout, hg, FileTree.read_of_placed hp⟩

end CommandLine
end Relational
