import GuestHost.Proofs.Settings.Layers
import GuestHost.Settings.Load

/-!
# The library that collects findings is lawful

What is found under a key is decided by what is assigned to its name, or to a place that a path
leads to from there, and by nothing else (`Findings.find?_assign`).  A scalar can only have been
assigned to the name itself, and then it hides what was found before; so a later source
overrides the earlier ones key by key (`held?_of_scalar`, `held?_of_none`).

The variables that are for a key are those that assign to its name: what is read as a path begins
with its first name, and goes on with a point or a bracket (`KeyPath.ofKey_append`).  So one
variable that is named for the key itself assigns its text to the key (`assignedTo_of_sets`).

* `held?_of_sets`: what the environment alone makes of a key.
* `collect_concat`: a source more is read behind the others, and assigns behind them.
* `pick_eq_ok_iff`: a setting is picked from the findings exactly if it receives what is held.
* `collector_lawful`: all laws.
-/

/-! ## Readers -/

namespace GuestHost.Reader

variable {α β : Type} {reader : Reader α} {next : α → Reader β} {text rest : List Char}

theorem exists_of_bind {result : β × List Char} (hread : (reader >>= next) text = some result) :
    ∃ value middle, reader text = some (value, middle) ∧ next value middle = some result := by
  obtain ⟨⟨value, middle⟩, hfirst, hnext⟩ := Option.bind_eq_some_iff.mp hread
  exact ⟨value, middle, hfirst, hnext⟩

theorem append_of_some1 {inClass : Char → Bool} {name : List Char}
    (hread : some1 inClass text = some (name, rest)) : text = name ++ rest := by
  obtain ⟨c, behind, hone, hmany⟩ := exists_of_bind hread
  obtain ⟨chars, last, htake, hlast⟩ := exists_of_bind hmany
  cases htake
  cases hlast
  cases text with
  | nil => cases hone
  | cons first text =>
      obtain ⟨-, hsame⟩ := Option.ite_none_right_eq_some.mp hone
      cases hsame
      rw [List.cons_append, List.takeWhile_append_dropWhile]

theorem repeated_of_none (hnone : reader text = none) :
    repeated reader text = some ([], text) := by
  rw [repeated, repeated.go, hnone]

end GuestHost.Reader

namespace GuestHost.Settings

/-! ## Letters in lower case -/

theorem toLower_toLower (c : Char) : c.toLower.toLower = c.toLower := by
  by_cases hupper : 'A'.val ≤ c.val ∧ c.val ≤ 'Z'.val
  · have hlower : c.toLower.val = c.val + 32 := congrArg Char.val (dif_pos hupper)
    have hleast : 65 ≤ c.val.toNat := UInt32.le_iff_toNat_le.mp hupper.1
    have hgreatest : c.val.toNat ≤ 90 := UInt32.le_iff_toNat_le.mp hupper.2
    refine dif_neg fun hagain => ?_
    have hupper : c.toLower.val.toNat ≤ 90 := UInt32.le_iff_toNat_le.mp hagain.2
    have hsum : (c.val + 32).toNat = (c.val.toNat + 32) % 2 ^ 32 := UInt32.toNat_add ..
    rw [hlower, hsum] at hupper
    omega
  · have hsame : c.toLower = c := dif_neg hupper
    rw [hsame, hsame]

theorem toLower_of_mem_lowerCase {text : String} {c : Char}
    (hc : c ∈ (Scalar.lowerCase text).toList) : c.toLower = c := by
  rw [Scalar.lowerCase, String.toList_ofList] at hc
  obtain ⟨letter, -, rfl⟩ := List.mem_map.mp hc
  exact toLower_toLower letter

/-! ## Paths -/

namespace KeyPath

open GuestHost.Reader

variable {c : Char} {text rest name : List Char} {steps : List PathStep}

/-- Nothing is left of a path, or a step begins. -/
def Steps (text : List Char) : Prop :=
  text.head?.all fun c => c == '.' || c == '['

instance : DecidablePred Steps :=
  fun text => inferInstanceAs (Decidable (text.head?.all _ = true))

theorem step_eq_none (hsteps : ¬ Steps text) : (entryStep <|> itemStep) text = none := by
  cases text with
  | nil => exact absurd rfl hsteps
  | cons c rest =>
      obtain ⟨hpoint, hbracket⟩ : c ≠ '.' ∧ c ≠ '[' := by simpa [Steps] using hsteps
      have hentry : exactly "." (c :: rest) = none := by simp [exactly, Ne.symm hpoint]
      have hitem : exactly "[" (c :: rest) = none := by simp [exactly, Ne.symm hbracket]
      have hnone : entryStep (c :: rest) = none ∧ itemStep (c :: rest) = none := by
        simp only [entryStep, itemStep, bind, StateT.bind, hentry, hitem]
        exact ⟨rfl, rfl⟩
      change (entryStep (c :: rest) <|> itemStep (c :: rest)) = none
      rw [hnone.1, hnone.2]
      rfl

/-- What stands behind the name of a path are its steps. -/
theorem append_of_path (hread : path.run text = some ((name, steps), rest)) :
    ∃ tail, text = name ++ tail ∧ Steps tail := by
  obtain ⟨word, tail, hname, hread⟩ := exists_of_bind hread
  obtain ⟨found, left, hsteps, hread⟩ := exists_of_bind hread
  obtain ⟨_, last, hend, hread⟩ := exists_of_bind hread
  cases hread
  refine ⟨tail, append_of_some1 hname, Decidable.byContradiction fun hnone => ?_⟩
  -- no step can be read, so the text has not ended
  rw [repeated_of_none (step_eq_none hnone)] at hsteps
  cases hsteps
  cases tail with
  | nil => exact hnone rfl
  | cons c tail => cases hend

/-- A key in lower case is its first name, with steps behind it if it is a path. -/
theorem ofKey_append {key : String} (hlower : ∀ c ∈ key.toList, c.toLower = c) :
    ∃ tail, key.toList = (ofKey key).name.toList ++ tail ∧ Steps tail := by
  have hsame : ∀ {name tail : List Char}, key.toList = name ++ tail →
      (Scalar.lowerCase (String.ofList name)).toList = name := by
    intro name tail hkey
    rw [Scalar.lowerCase, String.toList_ofList, String.toList_ofList]
    refine (List.map_congr_left fun c hc => hlower c ?_).trans (List.map_id _)
    rw [hkey]
    exact List.mem_append_left tail hc
  unfold ofKey
  split
  -- what is read as a path goes on behind its name, any other key is a name and nothing else
  · next name steps rest hread =>
      obtain ⟨tail, hkey, hsteps⟩ := append_of_path hread
      exact ⟨tail, by rw [hsame hkey, hkey], hsteps⟩
  · refine ⟨[], ?_, rfl⟩
    have hwhole := hsame (List.append_nil key.toList).symm
    rw [String.ofList_toList] at hwhole
    rw [hwhole, List.append_nil]

end KeyPath

/-! ## Assignments -/

/-- What is assigned to a name, or to a place that a path leads to from there. -/
def assignedTo (assignments : List (String × Found)) (name : String) : List (KeyPath × Found) :=
  (assignments.map fun assignment => (KeyPath.ofKey assignment.1, assignment.2)).filter
    (·.1.name == name)

section Assigned

variable {key name : String}

theorem assignedTo_cons_of_ne (hkey : (KeyPath.ofKey key).name ≠ name) (found : Found)
    (rest : List (String × Found)) :
    assignedTo ((key, found) :: rest) name = assignedTo rest name := by
  rw [assignedTo, List.map_cons, List.filter_cons_of_neg (by simpa using hkey), assignedTo]

theorem assignedTo_cons_of_eq (hkey : (KeyPath.ofKey key).name = name) (found : Found)
    (rest : List (String × Found)) :
    assignedTo ((key, found) :: rest) name =
      (KeyPath.ofKey key, found) :: assignedTo rest name := by
  rw [assignedTo, List.map_cons, List.filter_cons_of_pos (by simpa using hkey), assignedTo]

end Assigned

namespace Findings

variable {key name : String} {before : Option Found} {assigned : List (KeyPath × Found)}

/-- What is found under a name when something has been assigned to it, or to a place that a path
leads to from there. -/
def update (before : Option Found) (assigned : KeyPath × Found) : Option Found :=
  match assigned.1.next with
  | none => some assigned.2
  | some .entry => some .mapping
  | some .item =>
    match before with
    | some (.sequence origin) => some (.sequence origin)
    | _ => some (.sequence none)

/-- An assignment to a name, or to a place behind it, leaves the other names as they are. -/
theorem find?_set_of_ne (hkey : (KeyPath.ofKey key).name ≠ name) (findings : Findings)
    (found : Found) : (findings.set key found).find? name = findings.find? name := by
  -- whatever the path does, it puts in front a finding under another name, or nothing
  have hother : ∀ assigned : Found,
      find? (((KeyPath.ofKey key).name, assigned) :: findings) name = findings.find? name := by
    intro assigned
    have hdiffers : (name == (KeyPath.ofKey key).name) = false := by simpa using Ne.symm hkey
    simp only [find?, List.lookup_cons, hdiffers]
  simp only [set]
  split
  · exact hother _
  · exact hother _
  · split
    · rfl
    · exact hother _

theorem find?_set_of_eq (hkey : (KeyPath.ofKey key).name = name) (findings : Findings)
    (found : Found) :
    (findings.set key found).find? name =
      update (findings.find? name) (KeyPath.ofKey key, found) := by
  have hfront : ∀ assigned : Found,
      find? (((KeyPath.ofKey key).name, assigned) :: findings) name = some assigned := by
    intro assigned
    rw [hkey, find?, List.lookup_cons, beq_self_eq_true]
  simp only [set, update]
  rcases (KeyPath.ofKey key).next with _ | _ | _
  · exact hfront _
  · exact hfront _
  · simp only [hkey] at hfront ⊢
    rcases hbefore : findings.find? name with _ | _ | origin | _
    · exact hfront _
    · exact hfront _
    · exact hbefore
    · exact hfront _

/-- By induction on the assignments: those to other names leave what is found as it is. -/
theorem find?_assign (findings : Findings) (assignments : List (String × Found)) (name : String) :
    (findings.assign assignments).find? name =
      (assignedTo assignments name).foldl update (findings.find? name) := by
  induction assignments generalizing findings with
  | nil => rfl
  | cons assignment rest ih =>
      obtain ⟨key, found⟩ := assignment
      have hlater := ih (findings.set key found)
      by_cases hkey : (KeyPath.ofKey key).name = name
      · rw [find?_set_of_eq hkey] at hlater
        rw [assignedTo_cons_of_eq hkey, List.foldl_cons]
        exact hlater
      · rw [find?_set_of_ne hkey] at hlater
        rw [assignedTo_cons_of_ne hkey]
        exact hlater

/-- A scalar was assigned to the name itself, so it does not matter what was found before. -/
theorem update_of_scalar {last : KeyPath × Found} {value : Scalar} {origin : Origin}
    (hscalar : update before last = some (.scalar value origin)) (other : Option Found) :
    update other last = some (.scalar value origin) := by
  obtain ⟨⟨name, next⟩, found⟩ := last
  rcases next with _ | _ | _
  · exact hscalar
  · cases hscalar
  · rcases before with _ | _ | _ | _ <;> cases hscalar

theorem update_ne_none (before : Option Found) (last : KeyPath × Found) :
    update before last ≠ none := by
  obtain ⟨⟨name, next⟩, found⟩ := last
  rcases next with _ | _ | _
  · nofun
  · nofun
  · rcases before with _ | _ | _ | _ <;> nofun

/-- The last assignment to a name decides whether a scalar is found there. -/
theorem foldl_update_of_scalar {value : Scalar} {origin : Origin}
    (hscalar : assigned.foldl update none = some (.scalar value origin)) (before : Option Found) :
    assigned.foldl update before = some (.scalar value origin) := by
  obtain rfl | ⟨earlier, last, rfl⟩ := List.eq_nil_or_concat assigned
  · cases hscalar
  · rw [List.concat_eq_append, List.foldl_append] at hscalar ⊢
    exact update_of_scalar hscalar _

theorem foldl_update_of_none (hnone : assigned.foldl update none = none) : assigned = [] := by
  obtain rfl | ⟨earlier, last, rfl⟩ := List.eq_nil_or_concat assigned
  · rfl
  · rw [List.concat_eq_append, List.foldl_append] at hnone
    exact absurd hnone (update_ne_none _ last)

end Findings

/-! ## Variables -/

section Variables

variable {word name key : String} {parses : Bool} {environment : List (String × String)}

theorem variableKey?_eq_some_iff : variableKey? word name = some key ↔
    Scalar.lowerCase name = Scalar.lowerCase word ++ "_" ++ key := by
  rw [variableKey?]
  generalize Scalar.lowerCase word ++ "_" = start
  rw [Option.ite_none_right_eq_some, List.isPrefixOf_iff_prefix, List.prefix_iff_eq_append,
    Option.some_inj]
  constructor
  · rintro ⟨hname, rfl⟩
    rw [← String.toList_inj, String.toList_append, String.toList_ofList, hname]
  · intro hname
    rw [hname, String.toList_append, List.drop_left, String.ofList_toList]
    exact ⟨rfl, rfl⟩

/-- A variable that assigns to the name of a key, or to a place behind it, is for the key. -/
theorem isFor_of_ofKey {setting : String} (hkey : variableKey? variableWord name = some key)
    (hsetting : (KeyPath.ofKey key).name = setting) : isFor setting name := by
  have hname := variableKey?_eq_some_iff.mp hkey
  have hlower : ∀ c ∈ key.toList, c.toLower = c := by
    intro c hc
    have hmem : c ∈ (Scalar.lowerCase name).toList := by
      rw [hname, String.toList_append]
      exact List.mem_append_right _ hc
    exact toLower_of_mem_lowerCase hmem
  -- the variable goes on behind the name as its key does
  obtain ⟨tail, htail, hsteps⟩ := KeyPath.ofKey_append hlower
  rw [hsetting] at htail
  have hwhole : (Scalar.lowerCase name).toList = (variableName setting).toList ++ tail := by
    rw [hname, variableName]
    generalize Scalar.lowerCase variableWord ++ "_" = start
    rw [String.toList_append, htail, String.toList_append, List.append_assoc]
  rw [isFor, hwhole, List.drop_left, Bool.and_eq_true, List.isPrefixOf_iff_prefix]
  exact ⟨List.prefix_append _ _, hsteps⟩

theorem readVariables_cons_of_none {value : String} (hkey : variableKey? word name = none) :
    readVariables word parses ((name, value) :: environment) =
      readVariables word parses environment := by
  rw [readVariables, List.filterMap_cons, hkey]
  rfl

theorem readVariables_cons_of_some {value : String} (hkey : variableKey? word name = some key) :
    readVariables word parses ((name, value) :: environment) =
      (key, .ofVariable parses value) :: readVariables word parses environment := by
  rw [readVariables, List.filterMap_cons, hkey]
  rfl

/-- What is assigned to a name is assigned by the variables that are for it. -/
theorem assignedTo_readVariables (parses : Bool) (environment : List (String × String))
    (name : String) :
    assignedTo (readVariables variableWord parses environment) name =
      assignedTo (readVariables variableWord parses
        (environment.filter fun entry => isFor name entry.1)) name := by
  induction environment with
  | nil => rfl
  | cons entry rest ih =>
      obtain ⟨variableName, value⟩ := entry
      cases hkey : variableKey? variableWord variableName with
      | none =>
          rw [readVariables_cons_of_none hkey, ih, List.filter_cons]
          split
          · rw [readVariables_cons_of_none hkey]
          · rfl
      | some key =>
          by_cases hname : (KeyPath.ofKey key).name = name
          · have hfor : isFor name variableName := isFor_of_ofKey hkey hname
            rw [readVariables_cons_of_some hkey, assignedTo_cons_of_eq hname, ih, List.filter_cons,
              if_pos hfor, readVariables_cons_of_some hkey, assignedTo_cons_of_eq hname]
          -- the variable assigns to another name, and may be kept for a path from this one
          · rw [readVariables_cons_of_some hkey, assignedTo_cons_of_ne hname, ih, List.filter_cons]
            split
            · rw [readVariables_cons_of_some hkey, assignedTo_cons_of_ne hname]
            · rfl

/-- One variable that is for a key, and named for the key itself, assigns its text to the key. -/
theorem assignedTo_of_sets {text? : Option String} (hkey : key ∈ keys)
    (hsets : Sets environment key text?) :
    assignedTo (readVariables variableWord parses environment) key =
      text?.toList.map fun text => (⟨key, none⟩, .ofVariable parses text) := by
  rw [assignedTo_readVariables]
  cases text? with
  | none =>
      rw [List.map_eq_nil_iff.mp hsets]
      rfl
  | some text =>
      obtain ⟨⟨name, value⟩, hfilter, hentry⟩ := List.map_eq_singleton_iff.mp hsets
      obtain ⟨hname, rfl⟩ := Prod.mk.inj hentry
      have hvariable : variableKey? variableWord name = some key :=
        variableKey?_eq_some_iff.mpr hname
      have hplain : ∀ key ∈ keys, KeyPath.ofKey key = ⟨key, none⟩ := by decide +kernel
      have hpath := hplain key hkey
      rw [hfilter, readVariables_cons_of_some hvariable,
        assignedTo_cons_of_eq (congrArg KeyPath.name hpath), hpath]
      rfl

end Variables

/-! ## What is held -/

section Held

variable {findings : Findings} {assignments : List (String × Found)} {key : String}

theorem held?_assign (findings : Findings) (assignments : List (String × Found)) (key : String) :
    collector.held? (findings.assign assignments) key =
      ((assignedTo assignments key).foldl Findings.update (findings.find? key)).map Found.held :=
  congrArg (Option.map Found.held) (Findings.find?_assign findings assignments key)

/-- A scalar that a source assigns is held, whatever was found before. -/
theorem held?_of_scalar {scalar : Scalar}
    (hscalar : collector.held? (Findings.assign [] assignments) key = some (.scalar scalar)) :
    collector.held? (findings.assign assignments) key = some (.scalar scalar) := by
  rw [held?_assign] at hscalar ⊢
  obtain ⟨found, hfound, hheld⟩ := Option.map_eq_some_iff.mp hscalar
  cases found with
  | scalar value origin =>
      rw [Findings.foldl_update_of_scalar hfound, ← hheld]
      rfl
  | sequence origin => cases hheld
  | mapping => cases hheld

/-- A source that assigns nothing to a key leaves what was found before. -/
theorem held?_of_none
    (hnone : collector.held? (Findings.assign [] assignments) key = none) :
    collector.held? (findings.assign assignments) key = collector.held? findings key := by
  rw [held?_assign] at hnone ⊢
  rw [Findings.foldl_update_of_none (Option.map_eq_none_iff.mp hnone)]
  rfl

/-- Of the environment alone a key holds what the text of its variable is parsed as. -/
theorem held?_of_sets {environment : List (String × String)} {text? : Option String}
    (hkey : key ∈ keys) (hsets : Sets environment key text?) :
    collector.held? (Findings.assign [] (readVariables variableWord true environment)) key =
      text?.map fun text => .scalar (.ofUntyped text) := by
  rw [held?_assign, assignedTo_of_sets hkey hsets]
  cases text? <;> rfl

end Held

section Collect

variable {sources : List (Except Refusal (List (String × Found)))} {below table : Findings}
  {last : Except Refusal (List (String × Found))} {assignments : List (String × Found)}

theorem collect_concat : collect (sources ++ [last]) = do
    let findings ← collect sources
    let assignments ← last
    return findings.assign assignments := by
  rw [collect, List.foldlM_append]
  congr 1
  funext findings
  cases last <;> rfl

theorem collect_concat_ok (hbelow : collect sources = .ok below) :
    collect (sources ++ [.ok assignments]) = .ok (below.assign assignments) := by
  rw [collect_concat, hbelow]
  rfl

theorem exists_of_collect_concat (hcollect : collect (sources ++ [last]) = .ok table) :
    ∃ below, collect sources = .ok below := by
  rw [collect_concat] at hcollect
  cases hbelow : collect sources with
  | error refusal =>
      rw [hbelow] at hcollect
      cases hcollect
  | ok below => exact ⟨below, rfl⟩

end Collect

/-! ## What settings receive -/

section Pick

variable {α : Type} {findings : Findings} {key : String} {suit : String → Found → Except Refusal α}
  {convert? : Scalar → Option α} {byDefault value : α}

/-- A setting is picked from the findings exactly if it receives what is held under its key. -/
theorem pick_eq_ok_iff
    (hscalar : ∀ scalar origin, suit key (.scalar scalar origin) = .ok value ↔
      convert? scalar = some value)
    (hsequence : ∀ origin, suit key (.sequence origin) ≠ .ok value)
    (hmapping : suit key .mapping ≠ .ok value) :
    pick findings key suit byDefault = .ok value ↔
      Receives convert? byDefault (collector.held? findings key) value := by
  change _ ↔ Receives convert? byDefault ((findings.find? key).map Found.held) value
  rw [pick]
  rcases findings.find? key with _ | found
  · exact ⟨fun hvalue => (Except.ok.inj hvalue).symm, fun hvalue => congrArg _ hvalue.symm⟩
  · cases found with
    | scalar scalar origin => exact hscalar scalar origin
    | sequence origin => exact ⟨hsequence origin, False.elim⟩
    | mapping => exact ⟨hmapping, False.elim⟩

theorem suitText_eq_ok_iff {scalar : Scalar} {origin : Origin} {text : String} :
    suitText key (.scalar scalar origin) = .ok text ↔ collector.text? scalar = some text :=
  ⟨fun hsuits => congrArg some (Except.ok.inj hsuits),
    fun htext => congrArg Except.ok (Option.some.inj htext)⟩

theorem suitCount_eq_ok_iff {scalar : Scalar} {origin : Origin} {count : Nat} :
    suitCount key (.scalar scalar origin) = .ok count ↔ collector.count? scalar = some count := by
  change _ ↔ (Integers.unsigned.ofScalar scalar).toOption.map Int.toNat = some count
  rw [suitCount, suitInteger]
  rcases Integers.unsigned.ofScalar scalar with reason | value
  · exact ⟨nofun, nofun⟩
  · exact ⟨fun hsuits => congrArg some (Except.ok.inj hsuits),
      fun hcount => congrArg Except.ok (Option.some.inj hcount)⟩

theorem suitWord_eq_ok_iff {scalar : Scalar} {origin : Origin} {word : Int32} :
    suitWord key (.scalar scalar origin) = .ok word ↔ collector.word? scalar = some word := by
  change _ ↔ ((Integers.signed.ofScalar scalar).toOption.filter fun value =>
    -2 ^ 31 ≤ value ∧ value < 2 ^ 31).map Int32.ofInt = some word
  rw [suitWord, suitInteger]
  rcases Integers.signed.ofScalar scalar with reason | value
  · exact ⟨nofun, nofun⟩
  · change (if -2 ^ 31 ≤ value ∧ value < 2 ^ 31 then Except.ok (Int32.ofInt value) else _) = _ ↔
      ((some value).filter _).map Int32.ofInt = some word
    by_cases hrange : -2 ^ 31 ≤ value ∧ value < 2 ^ 31
    · rw [if_pos hrange, Option.filter_some, if_pos (decide_eq_true hrange)]
      exact ⟨fun hsuits => congrArg some (Except.ok.inj hsuits),
        fun hword => congrArg Except.ok (Option.some.inj hword)⟩
    · rw [if_neg hrange, Option.filter_some, if_neg (by simpa using hrange)]
      exact ⟨nofun, nofun⟩

end Pick

theorem ofFindings_eq_ok_iff {byDefault settings : Settings} {findings : Findings} :
    ofFindings byDefault findings = .ok settings ↔
      pick findings "module_path" suitText byDefault.modulePath = .ok settings.modulePath ∧
      pick findings "max_log_len" suitCount byDefault.maxLogLength = .ok settings.maxLogLength ∧
      pick findings "buffer_status" suitWord byDefault.bufferStatus = .ok settings.bufferStatus ∧
      pick findings "log_filter" suitText byDefault.logFilter = .ok settings.logFilter := by
  rw [ofFindings]
  rcases pick findings "module_path" suitText byDefault.modulePath with _ | modulePath
  · exact ⟨nofun, nofun⟩
  rcases pick findings "max_log_len" suitCount byDefault.maxLogLength with _ | maxLogLength
  · exact ⟨nofun, nofun⟩
  rcases pick findings "buffer_status" suitWord byDefault.bufferStatus with _ | bufferStatus
  · exact ⟨nofun, nofun⟩
  rcases pick findings "log_filter" suitText byDefault.logFilter with _ | logFilter
  · exact ⟨nofun, nofun⟩
  obtain ⟨first, second, third, fourth⟩ := settings
  constructor
  · intro hsettings
    cases hsettings
    exact ⟨rfl, rfl, rfl, rfl⟩
  · rintro ⟨hfirst, hsecond, hthird, hfourth⟩
    cases hfirst
    cases hsecond
    cases hthird
    cases hfourth
    rfl

/-! ## Integers -/

theorem count?_natCast (value : Nat) : collector.count? (.integer value) = some value := by
  have hread : Integers.unsigned.ofScalar (.integer value) = .ok value := by
    rw [Integers.ofScalar]
    exact if_neg (Int.not_lt.mpr (Int.natCast_nonneg value))
  change ((Integers.unsigned.ofScalar (.integer value)).toOption.map Int.toNat) = _
  rw [hread]
  rfl

theorem word?_toInt (value : Int32) : collector.word? (.integer value.toInt) = some value := by
  have hrange : -2 ^ 31 ≤ value.toInt ∧ value.toInt < 2 ^ 31 := ⟨value.le_toInt, value.toInt_lt⟩
  have hread : Integers.signed.ofScalar (.integer value.toInt) = .ok value.toInt := by
    rw [Integers.ofScalar]
    refine if_neg ?_
    change ¬ value.toInt < -2 ^ 63
    omega
  change ((Integers.signed.ofScalar (.integer value.toInt)).toOption.filter _).map _ = _
  rw [hread]
  change ((some value.toInt).filter _).map _ = _
  rw [Option.filter_some, if_pos (decide_eq_true hrange), Option.map_some, Int32.ofInt_toInt]

/-! ## The laws -/

theorem collector_lawful : collector.Lawful where
  build_nil := ⟨[], rfl, fun _ => rfl⟩
  build_of_concat := exists_of_collect_concat
  build_concat := by
    intro sources last below above hbelow habove
    cases last with
    | error refusal => cases habove
    | ok assignments =>
        cases habove
        exact ⟨_, collect_concat_ok hbelow, fun key => ⟨held?_of_none, fun _ => held?_of_scalar⟩⟩
  build_environment := fun _ => ⟨_, rfl⟩
  held?_of_unset := by
    intro environment table hbuild key hkey hsets
    cases hbuild
    exact held?_of_sets hkey hsets
  held?_of_set := by
    intro environment table hbuild key hkey text hsets
    cases hbuild
    exact ⟨.ofUntyped text, parsesAs_iff.mpr rfl, held?_of_sets hkey hsets⟩
  deserialize_eq_ok_iff := by
    intro byDefault table settings
    refine ofFindings_eq_ok_iff.trans (and_congr ?_ (and_congr ?_ (and_congr ?_ ?_)))
    · exact pick_eq_ok_iff (fun _ _ => suitText_eq_ok_iff) nofun nofun
    · exact pick_eq_ok_iff (fun _ _ => suitCount_eq_ok_iff) nofun nofun
    · exact pick_eq_ok_iff (fun _ _ => suitWord_eq_ok_iff) nofun nofun
    · exact pick_eq_ok_iff (fun _ _ => suitText_eq_ok_iff) nofun nofun
  text?_boolean := by
    intro value
    cases value <;> rfl
  text?_integer := fun _ => rfl
  text?_number := fun _ => rfl
  text?_text := fun _ => rfl
  count?_integer := count?_natCast
  count?_number := fun _ => rfl
  word?_integer := word?_toInt

end GuestHost.Settings
