import SymbolReference.Document.Model

namespace SymbolReference

/-- A reference document. Functions and classes stand in the order of their names, constants in the
order supplied; `includeAll` says whether symbols of the host were kept. -/
structure Document where
  functions : List Model := []
  classes : List Model := []
  constants : List Model := []
  includeAll : Bool := false

/-- The number of symbols of each kind in a document. -/
structure Counts where
  functions : Nat
  classes : Nat
  methods : Nat
  constants : Nat
deriving Repr, DecidableEq

/-- The number of all symbols. -/
def Counts.total (counts : Counts) : Nat :=
  counts.functions + counts.classes + counts.methods + counts.constants

namespace Document

/-- Every model in the order in which pages show it: functions, each class before its methods,
constants. -/
def symbols (d : Document) : List Model :=
  d.functions ++ d.classes.flatMap (fun c => c :: c.methods) ++ d.constants

/-- The number of models that pages show. -/
def symbolCount (d : Document) : Nat :=
  d.symbols.length

/-- The number of models of each section. -/
def counts (d : Document) : Counts where
  functions := d.functions.length
  classes := d.classes.length
  methods := (d.classes.flatMap fun c => c.methods).length
  constants := d.constants.length

/-- Whether two documents are equal field by field. -/
def same (shared : Bool) (a b : Document) : Bool :=
  Model.same.sameAll shared a.functions b.functions &&
    Model.same.sameAll shared a.classes b.classes &&
    Model.same.sameAll shared a.constants b.constants && a.includeAll == b.includeAll

end Document

theorem symbolCount_eq_total (d : Document) : d.symbolCount = d.counts.total := by
  have hclasses : ∀ classes : List Model,
      (classes.flatMap fun c => c :: c.methods).length =
        classes.length + (classes.flatMap fun c => c.methods).length := by
    intro classes
    induction classes with
    | nil => rfl
    | cons c classes ih =>
        simp only [List.flatMap_cons, List.length_append, List.length_cons, ih]
        omega
  simp only [Document.symbolCount, Document.symbols, List.length_append, hclasses, Counts.total,
    Document.counts]
  omega

end SymbolReference
