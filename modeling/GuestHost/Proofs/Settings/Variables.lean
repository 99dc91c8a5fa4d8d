import GuestHost.Proofs.Settings.Load

/-!
# Texts from the environment

A variable of the environment is a text without a type.  It is parsed as a truth value or a number
if it can be, also where the setting that it is for takes a text; then it is printed again, and
what is printed is what the setting becomes.  The file does not do so: a text in quotes is a text.

* `exists_of_load`: what has been built and deserialised when loading succeeds.
* `value_of_load`: what a variable makes of its setting, whatever the file and the other variables
  say.
* `texts_are_printed_back`: the texts for which that is what was written, and that no text is
  refused.
* `texts_are_rewritten`: two texts that are replaced without a word.
-/

namespace GuestHost.Settings

/-! ## The settings that take a text -/

/-- A setting that takes a text. -/
inductive TextSetting
  | modulePath
  | logFilter
  deriving DecidableEq, Repr

namespace TextSetting

/-- The key that the setting is looked up by. -/
def key : TextSetting → String
  | modulePath => "module_path"
  | logFilter => "log_filter"

/-- What the setting is. -/
def value : TextSetting → Settings → String
  | modulePath, settings => settings.modulePath
  | logFilter, settings => settings.logFilter

end TextSetting

/-! ## What a variable makes of its setting -/

section Lawful

variable {library : Library} {surroundings : Surroundings} {settings : Settings} {text : String}

/-- Whatever the settings are, they are those that a table of some sources and the environment
holds. -/
theorem exists_of_load (hload : loadWith library surroundings = .ok settings) :
    ∃ sources table, library.build (sources ++
        [library.environment variableWord true surroundings.environment]) = .ok table ∧
      library.deserialize default table = .ok settings := by
  simp only [loadWith, bind, Except.bind] at hload
  split at hload
  · cases hload
  · next sources hsources =>
      split at hload
      · cases hload
      · next table htable =>
          split at hload
          · cases hload
          · next found hfound =>
              rw [check_eq] at hload
              split at hload
              · cases hload
              · cases hload
                exact ⟨sources, table, htable, hfound⟩

/-- The setting is the text that is printed for what its variable is parsed as. -/
theorem value_of_load (hlibrary : library.Lawful) (setting : TextSetting)
    (htext : Sets surroundings.environment setting.key (some text))
    (hload : loadWith library surroundings = .ok settings) :
    setting.value settings = Scalar.printedBack text := by
  obtain ⟨sources, table, htable, hsettings⟩ := exists_of_load hload
  -- the sources before the environment have been built too, whatever they are
  obtain ⟨below, hbelow⟩ := hlibrary.build_of_concat htable
  obtain ⟨same, hsame, hoverlays⟩ :=
    exists_overlays hlibrary hbelow surroundings.environment
  obtain rfl := Except.ok.inj (htable.symm.trans hsame)
  have hreceives : ∀ {byDefault value : String},
      Receives library.text? byDefault (library.held? table setting.key) value →
        value = Scalar.printedBack text := by
    intro byDefault value hvalue
    have hkey : setting.key ∈ keys := by cases setting <;> decide
    obtain ⟨scalar, hparses, hheld⟩ := (hoverlays _ hkey).set text htext
    rw [hheld] at hvalue
    exact Option.some.inj (hvalue.symm.trans (text?_of_parsesAs hlibrary hparses))
  obtain ⟨hpath, -, -, hfilter⟩ := hlibrary.deserialize_eq_ok_iff.mp hsettings
  cases setting with
  | modulePath => exact hreceives hpath
  | logFilter => exact hreceives hfilter

end Lawful

/-- The setting that a variable is for comes out as what its text is parsed as is printed.  So it
is the text itself exactly if this is printed as it is written; a number with a plus sign or with
a power of ten never is.  No text is refused: where the file and the other variables give values
of the kind and in the range of their settings, loading fails only if no byte of a printed string
would be kept, and otherwise it comes to what the layers do, with all texts printed back. -/
theorem texts_are_printed_back {library : Library} (hlibrary : library.Lawful)
    (setting : TextSetting) {surroundings : Surroundings} {text : String}
    (htext : Sets surroundings.environment setting.key (some text)) :
    (∀ settings, loadWith library surroundings = .ok settings →
      setting.value settings = Scalar.printedBack text ∧
      (setting.value settings = text ↔ Scalar.Printed text) ∧
      ∀ number mark, Scalar.truth? text = none → Literal.signed64? text.toList = none →
        Literal.binary64? text.toList = some number → (mark = '+' ∨ mark = 'e' ∨ mark = 'E') →
        mark ∈ text.toList → setting.value settings ≠ text) ∧
    ∀ (file : Layer) (overrides : Overrides), FileGives library surroundings.file file →
      overrides.AreIn surroundings.environment →
      (surroundings.file.isSome → surroundings.namedByText = true) →
        let merged := (overrides.printed.layer.above file).settings
        loadWith library surroundings =
          if merged.maxLogLength = 0 then .error .noLogLength else .ok merged := by
  refine ⟨fun settings hload => ?_, fun file overrides hfile hoverrides hnamed => ?_⟩
  · rw [value_of_load hlibrary setting htext hload]
    refine ⟨rfl, Scalar.printedBack_eq_iff, ?_⟩
    intro number mark htruth hinteger hnumber hmark hmem hsame
    exact Scalar.not_printed_of_mark htruth hinteger hnumber hmark hmem
      (Scalar.printedBack_eq_iff.mp hsame)
  · intro merged
    rw [← check_eq, load_of_layers hlibrary hfile hoverrides hnamed]

/-- A filter of `+1e2` becomes `100`. -/
theorem a_filter_of_a_hundred :
    let surroundings : Surroundings :=
      ⟨none, true, [("PATH", "/bin"), ("SAMPLES_HARNESS_LOG_FILTER", "+1e2")]⟩
    loadWith collector surroundings = .ok { default with logFilter := "100" } ∧
      ¬ Scalar.Printed "+1e2" := by
  intro surroundings
  have htext : Sets surroundings.environment TextSetting.logFilter.key (some "+1e2") := by
    decide +kernel
  let overrides : Overrides := { logFilter := some "+1e2" }
  have hoverrides : overrides.AreIn surroundings.environment := by
    constructor <;> decide +kernel
  obtain ⟨hkept, hlayers⟩ := texts_are_printed_back collector_lawful .logFilter htext
  have hload : loadWith collector surroundings = _ :=
    hlayers {} overrides .absent hoverrides nofun
  have hmerged : (overrides.printed.layer.above {}).settings =
      { default with logFilter := "100" } := by
    decide +kernel
  rw [hmerged, if_neg (by decide)] at hload
  refine ⟨hload, fun hprinted => ?_⟩
  have hsame := (hkept _ hload).2.1.mpr hprinted
  exact absurd hsame (by decide)

/-- A path of digits loses the zeros in front of it, and a filter loses its capital letters; as
texts in the file they are kept. -/
theorem texts_are_rewritten :
    let path := [("SAMPLES_HARNESS_MODULE_PATH", "007")]
    let filter := [("SAMPLES_HARNESS_LOG_FILTER", "TRUE")]
    let file := Utf8.encode "module_path = '007'\nlog_filter = 'TRUE'\n"
    Sets path TextSetting.modulePath.key (some "007") ∧
      Sets filter TextSetting.logFilter.key (some "TRUE") ∧
      (loadWith collector ⟨none, true, path⟩).toOption =
        some { default with modulePath := "7" } ∧
      (loadWith collector ⟨none, true, filter⟩).toOption =
        some { default with logFilter := "true" } ∧
      (loadWith collector ⟨some file, true, []⟩).toOption =
        some { default with modulePath := "007", logFilter := "TRUE" } := by
  decide +kernel

end GuestHost.Settings
