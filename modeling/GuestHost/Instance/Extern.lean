import GuestHost.Abi.Table

/-!
# What a module exports and imports

A module comes with a list of named exports, which need not be functions, and a
list of functions that it imports.  `checkExports` holds the exports against the
interface: every function of the interface has to be there with exactly its
parameters and results.  The fault that is reported is that of the first function
of the interface that is not.
-/

namespace GuestHost

/-- The types of a module's values. -/
inductive WasmType
  | i32
  | i64
  | f32
  | f64
  | v128
  | funcref
  | externref
  deriving DecidableEq, Repr

/-- The type of the interface that a type is, if it is one. -/
def WasmType.boundary? : WasmType → Option ValueType
  | .i32 => some .i32
  | .i64 => some .i64
  | _ => none

/-- A type of the interface as a module's. -/
def ValueType.toWasm : ValueType → WasmType
  | .i32 => .i32
  | .i64 => .i64

/-- The type of a function. -/
structure Signature where
  params : List WasmType
  results : List WasmType
  deriving DecidableEq, Repr

/-- What can be exported. -/
inductive Extern
  | function (signature : Signature)
  | memory
  | global
  | table
  deriving DecidableEq, Repr

/-- A function that a module imports. -/
structure FunctionImport where
  module : String
  name : String
  signature : Signature
  deriving DecidableEq, Repr

/-- The signature of a function of the interface. -/
def ExportSpec.signature (spec : ExportSpec) : Signature :=
  ⟨spec.params.map ValueType.toWasm, spec.results.map ValueType.toWasm⟩

/-- The signature of a function that the host offers. -/
def ImportSpec.signature (spec : ImportSpec) : Signature :=
  ⟨spec.params.map ValueType.toWasm, spec.results.map ValueType.toWasm⟩

/-- What is wrong with a function of the interface in a module. -/
inductive ExportFault
  | missing (name : String)
  | notFunction (name : String)
  /-- The function has other parameters or results than the interface says.  A type
  that does not occur in the interface is none. -/
  | wrongSignature (spec : ExportSpec) (params results : List (Option ValueType))
  deriving DecidableEq, Repr

namespace ExportFault

/-- A list between brackets. -/
def bracketed (items : List String) : String :=
  "[" ++ ", ".intercalate items ++ "]"

/-- The text of types of the interface. -/
def typesText (types : List ValueType) : String :=
  bracketed (types.map ValueType.name)

/-- The text of types of a module. -/
def foundText (types : List (Option ValueType)) : String :=
  bracketed (types.map fun
    | some type => "Some(" ++ type.name ++ ")"
    | none => "None")

/-- The text of the fault. -/
def message : ExportFault → String
  | missing name => s!"Sample module must export '{name}'"
  | notFunction name => s!"Export '{name}' is not a function"
  | wrongSignature spec params results =>
    s!"Export '{spec.name}' has signature " ++ foundText params ++ " -> " ++ foundText results
      ++ ", expected " ++ typesText spec.params ++ " -> " ++ typesText spec.results

end ExportFault

/-- Hold the exports of a module against one function of the interface. -/
def checkExport (exports : List (String × Extern)) (spec : ExportSpec) :
    Except ExportFault Unit :=
  match exports.lookup spec.name with
  | none => .error (.missing spec.name)
  | some (.function signature) =>
    let params := signature.params.map WasmType.boundary?
    let results := signature.results.map WasmType.boundary?
    if params = spec.params.map some ∧ results = spec.results.map some then .ok ()
    else .error (.wrongSignature spec params results)
  | some _ => .error (.notFunction spec.name)

/-- Hold the exports of a module against some functions of the interface, in order. -/
def checkAll (exports : List (String × Extern)) : List ExportSpec → Except ExportFault Unit
  | [] => .ok ()
  | spec :: specs =>
    match checkExport exports spec with
    | .error fault => .error fault
    | .ok () => checkAll exports specs

/-- Hold the exports of a module against the interface. -/
def checkExports (exports : List (String × Extern)) : Except ExportFault Unit :=
  checkAll exports Abi.exports

/-- The exports of a module that has the interface and a memory, and nothing else. -/
def fullExports : List (String × Extern) :=
  (Abi.exports.map fun spec => (spec.name, .function spec.signature)) ++ [("memory", .memory)]

/-- Some exports without those of certain names, and with others in the place of those
that have their names. -/
def changeExports (exports : List (String × Extern)) (removed : List String)
    (changed : List (String × Extern)) : List (String × Extern) :=
  let kept := exports.filter fun entry => !removed.contains entry.1
  changed.foldl (fun exports entry =>
    exports.filter (fun other => other.1 != entry.1) ++ [entry]) kept

/-- Does the host offer what is imported? -/
def resolves (wanted : FunctionImport) : Bool :=
  wanted.module == Abi.importModule &&
    Abi.imports.any fun spec => spec.name == wanted.name && spec.signature == wanted.signature

end GuestHost
