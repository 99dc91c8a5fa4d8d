import GuestHost.Instance.Basic
import GuestHost.Proofs.Lookup

/-!
# What a checked module exports

The check of a module's exports goes through the interface function by function.  It
passes only if each of them is there with its signature (`checkAll_eq_ok_iff`), so an instance
of a module that has passed it exports every function that the harness calls, in the types that
the harness calls it by (`exportsFunction_of_checkExports`).

The names of a module's exports are distinct.  Then `Provides` says of a function of the
interface that it is there, and `Lacks` in which of three ways it is not, and the check tells
one from the other for every function that it gets to (`checkExport_eq_ok_iff_provides`,
`checkExport_eq_error_iff`).
-/

namespace GuestHost

/-! ## Signatures -/

/-- Only a type of the interface is taken for one, and only for itself. -/
theorem WasmType.boundary?_eq_some_iff {found : WasmType} {type : ValueType} :
    found.boundary? = some type ↔ found = type.toWasm := by
  cases found <;> cases type <;> simp [boundary?, ValueType.toWasm]

theorem map_boundary?_eq_iff {found : List WasmType} {types : List ValueType} :
    found.map WasmType.boundary? = types.map some ↔ found = types.map ValueType.toWasm := by
  induction found generalizing types with
  | nil => cases types <;> simp
  | cons first rest ih =>
      cases types with
      | nil => simp
      | cons type types => simp [WasmType.boundary?_eq_some_iff, ih]

/-! ## The check -/

variable {exports : List (String × Extern)} {spec : ExportSpec}

/-- A function passes the check exactly if it is there with the interface's signature. -/
theorem checkExport_eq_ok_iff :
    checkExport exports spec = .ok () ↔
      exports.lookup spec.name = some (.function spec.signature) := by
  unfold checkExport
  cases exports.lookup spec.name with
  | none => simp
  | some found =>
      cases found with
      | function signature =>
          obtain ⟨params, results⟩ := signature
          simp only [map_boundary?_eq_iff, ExportSpec.signature, Option.some.injEq,
            Extern.function.injEq, Signature.mk.injEq]
          split <;> simp_all
      | memory => simp
      | global => simp
      | table => simp

theorem checkAll_eq_ok_iff {specs : List ExportSpec} :
    checkAll exports specs = .ok () ↔ ∀ spec ∈ specs, checkExport exports spec = .ok () := by
  induction specs with
  | nil => simp [checkAll]
  | cons first rest ih =>
      unfold checkAll
      cases hfirst : checkExport exports first with
      | error fault => simp [hfirst]
      | ok => simp [hfirst, ih]

/-- The check stops at the first function that does not pass it. -/
theorem checkAll_eq_error_iff {specs : List ExportSpec} {fault : ExportFault} :
    checkAll exports specs = .error fault ↔
      ∃ earlier spec later, specs = earlier ++ spec :: later ∧
        (∀ other ∈ earlier, checkExport exports other = .ok ()) ∧
        checkExport exports spec = .error fault := by
  induction specs with
  | nil => simp [checkAll]
  | cons first rest ih =>
      unfold checkAll
      cases hfirst : checkExport exports first with
      | error cause =>
          constructor
          · rintro ⟨⟩
            exact ⟨[], first, rest, rfl, nofun, hfirst⟩
          · -- the first function has failed, so none can have passed in front of another
            rintro ⟨earlier, spec, later, hsplit, hpassed, hfails⟩
            cases earlier with
            | nil =>
                obtain ⟨rfl, -⟩ := List.cons.inj hsplit
                exact hfirst.symm.trans hfails
            | cons head earlier =>
                obtain ⟨rfl, -⟩ := List.cons.inj hsplit
                have hok := hpassed first List.mem_cons_self
                rw [hfirst] at hok
                cases hok
      | ok =>
          refine ih.trans ?_
          constructor
          · rintro ⟨earlier, spec, later, rfl, hpassed, hfails⟩
            exact ⟨first :: earlier, spec, later, rfl,
              List.forall_mem_cons.mpr ⟨hfirst, hpassed⟩, hfails⟩
          · rintro ⟨earlier, spec, later, hsplit, hpassed, hfails⟩
            cases earlier with
            | nil =>
                obtain ⟨rfl, -⟩ := List.cons.inj hsplit
                rw [hfirst] at hfails
                cases hfails
            | cons head earlier =>
                obtain ⟨rfl, hrest⟩ := List.cons.inj hsplit
                exact ⟨earlier, spec, later, hrest, (List.forall_mem_cons.mp hpassed).2, hfails⟩

/-! ## What a module provides -/

/-- The module exports a function of the name and with the signature that the interface
says. -/
def Provides (exports : List (String × Extern)) (spec : ExportSpec) : Prop :=
  (spec.name, .function spec.signature) ∈ exports

/-- The module does not provide a function of the interface: what is at fault, and what is
said about it. -/
inductive Lacks (exports : List (String × Extern)) (spec : ExportSpec) :
    ExportFault → String → Prop
  | missing : spec.name ∉ exports.map Prod.fst →
      Lacks exports spec (.missing spec.name) s!"Sample module must export '{spec.name}'"
  | notFunction (other : Extern) : (spec.name, other) ∈ exports →
      (∀ signature, other ≠ .function signature) →
      Lacks exports spec (.notFunction spec.name) s!"Export '{spec.name}' is not a function"
  /-- A type that is none of the interface's is told as none. -/
  | wrongSignature (params results : List WasmType) :
      (spec.name, .function ⟨params, results⟩) ∈ exports → ⟨params, results⟩ ≠ spec.signature →
      Lacks exports spec
        (.wrongSignature spec (params.map WasmType.boundary?) (results.map WasmType.boundary?))
        (s!"Export '{spec.name}' has signature "
          ++ ExportFault.foundText (params.map WasmType.boundary?) ++ " -> "
          ++ ExportFault.foundText (results.map WasmType.boundary?) ++ ", expected "
          ++ ExportFault.typesText spec.params ++ " -> " ++ ExportFault.typesText spec.results)

section Names

variable (hnodup : (exports.map Prod.fst).Nodup)
include hnodup

theorem checkExport_eq_ok_iff_provides :
    checkExport exports spec = .ok () ↔ Provides exports spec :=
  checkExport_eq_ok_iff.trans (lookup_eq_some_iff_mem hnodup)

/-- Whatever stands in the place of a function is told by its kind, or by its types. -/
theorem lacks_of_checkExport {fault : ExportFault}
    (hfails : checkExport exports spec = .error fault) :
    Lacks exports spec fault fault.message := by
  unfold checkExport at hfails
  cases hfound : exports.lookup spec.name with
  | none =>
      rw [hfound] at hfails
      cases hfails
      exact .missing (lookup_eq_none_iff_notMem.mp hfound)
  | some other =>
      have hmem := (lookup_eq_some_iff_mem hnodup).mp hfound
      rw [hfound] at hfails
      cases other with
      -- types that the interface has none for are none of the function's
      | function signature =>
          obtain ⟨params, results⟩ := signature
          simp only [map_boundary?_eq_iff] at hfails
          split at hfails
          · cases hfails
          · next hother =>
              cases hfails
              refine .wrongSignature params results hmem fun hsame => hother ?_
              exact ⟨congrArg Signature.params hsame, congrArg Signature.results hsame⟩
      | memory =>
          cases hfails
          exact .notFunction .memory hmem nofun
      | global =>
          cases hfails
          exact .notFunction .global hmem nofun
      | table =>
          cases hfails
          exact .notFunction .table hmem nofun

theorem Lacks.checkExport {fault : ExportFault} {text : String}
    (hlacks : Lacks exports spec fault text) : checkExport exports spec = .error fault := by
  unfold GuestHost.checkExport
  cases hlacks with
  | missing habsent => rw [lookup_eq_none_iff_notMem.mpr habsent]
  | notFunction other hmem hother =>
      rw [(lookup_eq_some_iff_mem hnodup).mpr hmem]
      cases other with
      | function signature => exact absurd rfl (hother signature)
      | _ => rfl
  | wrongSignature params results hmem hother =>
      rw [(lookup_eq_some_iff_mem hnodup).mpr hmem]
      simp only [map_boundary?_eq_iff]
      rw [if_neg]
      rintro ⟨rfl, rfl⟩
      exact hother rfl

theorem checkExport_eq_error_iff {fault : ExportFault} :
    checkExport exports spec = .error fault ↔ Lacks exports spec fault fault.message :=
  ⟨lacks_of_checkExport hnodup, Lacks.checkExport hnodup⟩

end Names

theorem Abi.mem_of_findExport {name : String} (hfind : Abi.findExport name = some spec) :
    spec ∈ Abi.exports ∧ spec.name = name := by
  unfold Abi.findExport at hfind
  exact ⟨List.mem_of_find?_eq_some hfind, by simpa using List.find?_some hfind⟩

namespace Harness

variable {γ : Type} {program : GuestProgram γ}

/-- Every function of the interface can be called at a module that has passed the check. -/
theorem exportsFunction_of_checkExports (haccepted : checkExports program.exports = .ok ())
    {name : String} {signature : Signature}
    (hspec : (name, signature) ∈ Abi.exports.map fun spec => (spec.name, spec.signature)) :
    exportsFunction program name signature = true := by
  obtain ⟨spec, hmem, hname⟩ := List.mem_map.mp hspec
  obtain ⟨rfl, rfl⟩ := Prod.mk.inj hname
  have hfound := checkExport_eq_ok_iff.mp (checkAll_eq_ok_iff.mp haccepted spec hmem)
  rw [exportsFunction, hfound, beq_self_eq_true]

theorem checkExports_of_checkModule
    (hchecked : checkModule program.exports program.imports = .ok ()) :
    checkExports program.exports = .ok () := by
  unfold checkModule at hchecked
  split at hchecked
  · cases hchecked
  · assumption

theorem exportsFunction_of_checkModule {name : String} {signature : Signature}
    (hchecked : checkModule program.exports program.imports = .ok ())
    (hspec : (Abi.findExport name).map ExportSpec.signature = some signature) :
    exportsFunction program name signature = true := by
  obtain ⟨spec, hfind, rfl⟩ := Option.map_eq_some_iff.mp hspec
  obtain ⟨hmem, rfl⟩ := Abi.mem_of_findExport hfind
  exact exportsFunction_of_checkExports (checkExports_of_checkModule hchecked)
    (List.mem_map_of_mem hmem)

end Harness

end GuestHost
