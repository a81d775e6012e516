import SymbolReference.Page.Render
import SymbolReference.Proofs.Document.Assembly

namespace SymbolReference

/-- The part of a model that pages read: all of it but the declared methods of its symbol. -/
def Model.shown (m : Model) : Model :=
  .mk (.mk m.declaration none) m.comment m.methods

/-- The user-defined symbols of an inventory: the functions of the user partition, each class as
what is declared about it and its user-defined methods, and the constants of the user partition. -/
structure UserSymbols where
  functions : List Symbol
  classes : List (Declaration × List Symbol)
  constants : List (String × Value)

def Inventory.userSymbols (inventory : Inventory) : UserSymbols where
  functions := inventory.retainedFunctions false
  classes := (inventory.retainedClasses false).map fun c => (c.declaration, c.retainedMethods false)
  constants := (inventory.retainedConstants false).toList

theorem Html.classBlock_shown (options : PageOptions) (m : Model) :
    Html.classBlock options m.shown = Html.classBlock options m := rfl

theorem Markdown.classBlock_shown (options : PageOptions) (m : Model) :
    Markdown.classBlock options m.shown = Markdown.classBlock options m := rfl

theorem Html.group_map_shown (cls : String) (models : List Model) {blockOf : Model → List Markup}
    (h : ∀ m, blockOf m.shown = blockOf m) :
    Html.group cls (models.map Model.shown) blockOf = Html.group cls models blockOf := by
  simp only [Html.group, List.isEmpty_map, List.flatMap_map, h]

theorem Markdown.group_map_shown (title : String) (models : List Model)
    {blockOf : Model → List Char} (h : ∀ m, blockOf m.shown = blockOf m) :
    Markdown.group title (models.map Model.shown) blockOf =
      Markdown.group title models blockOf := by
  simp only [Markdown.group, List.isEmpty_map, List.flatMap_map, h]

/-- The pages of a document are those of its classes without their declared methods. -/
theorem Document.render_shown (format : OutputFormat) (options : PageOptions) (d : Document) :
    { d with classes := d.classes.map Model.shown }.render format options =
      d.render format options := by
  cases format with
  | html =>
      simp only [Document.render, Html.render, Html.page,
        Html.group_map_shown "classes" d.classes (Html.classBlock_shown options)]
  | markdown =>
      simp only [Document.render, Markdown.render,
        Markdown.group_map_shown "Classes" d.classes (Markdown.classBlock_shown options)]

theorem map_shown_sortedByName (models : List Model) :
    (sortedByName models).map Model.shown = sortedByName (models.map Model.shown) :=
  List.map_mergeSort fun _ _ _ _ => rfl

/-- What pages read of the model of a class, from its declaration and its retained methods. -/
def classPart (part : Declaration × List Symbol) : Model :=
  .mk (.mk part.1 none) (Comment.parse? part.1.comment)
    (sortedByName (part.2.map fun m => (m.withOwner part.1.name).plainModel))

/-- Without the symbols of the host, a document shows the user-defined symbols only. -/
theorem document_classes_shown (inventory : Inventory) :
    (inventory.document false).classes.map Model.shown =
      sortedByName (inventory.userSymbols.classes.map classPart) := by
  rw [Inventory.document, map_shown_sortedByName, Inventory.userSymbols, List.map_map, List.map_map]
  rfl

/-- Host symbols have no influence on a page that leaves them out. -/
theorem render_eq_of_userSymbols_eq {a b : Inventory} {d e : Document}
    (ha : Document.build false a = .ok d) (hb : Document.build false b = .ok e)
    (h : a.userSymbols = b.userSymbols) (format : OutputFormat) (options : PageOptions) :
    d.render format options = e.render format options := by
  obtain ⟨-, rfl⟩ := (Document.build_eq_ok_iff false a d).mp ha
  obtain ⟨-, rfl⟩ := (Document.build_eq_ok_iff false b e).mp hb
  have hfunctions : a.retainedFunctions false = b.retainedFunctions false :=
    congrArg UserSymbols.functions h
  have hconstants : (a.retainedConstants false).toList = (b.retainedConstants false).toList :=
    congrArg UserSymbols.constants h
  rw [← Document.render_shown format options (a.document false),
    ← Document.render_shown format options (b.document false), document_classes_shown,
    document_classes_shown, h]
  simp only [Inventory.document, hfunctions, hconstants]

/-- The shelf with other symbols of the host: another partition, a host function among the user's,
a host class, another host method and another constant. -/
def crowdedInventory : Inventory where
  functions := some (.ofList [
    ("user", some [
      .symbol (.leaf { kind := .function, name := "sort" }),
      .symbol (.leaf { kind := .function, name := "abs", userDefined := false }),
      .symbol (.leaf { kind := .function, name := "add", comment := some "Adds.\n@see sort" })]),
    ("other", none)])
  classes := some [
    .symbol (.mk { kind := .klass, name := "Object", userDefined := false } none),
    .symbol (.mk { kind := .klass, name := "Shelf" } (some [
      .symbol (.leaf { kind := .method, name := "repr", userDefined := false }),
      .symbol (.leaf { kind := .method, name := "take" }),
      .symbol (.leaf { kind := .method, name := "put", owner := some "Store" })]))]
  constants := some (.ofList [("user", some (.ofList [("LIMIT", .int 3)])),
    ("builtin", some (.ofList [("LIMIT", .int 4)]))])

theorem crowdedInventory_buildable : crowdedInventory.Buildable false :=
  ⟨⟨_, rfl, by decide⟩, by decide, rfl, by decide⟩

theorem render_shelf_eq_render_crowded : ∃ d e,
    Document.build false shelfInventory = .ok d ∧ Document.build false crowdedInventory = .ok e ∧
      shelfInventory.userSymbols = crowdedInventory.userSymbols ∧
      ∀ format options, d.render format options = e.render format options := by
  have hshelf := (Document.build_eq_ok_iff false shelfInventory _).mpr
    ⟨shelfInventory_buildable false, rfl⟩
  have hcrowded := (Document.build_eq_ok_iff false crowdedInventory _).mpr
    ⟨crowdedInventory_buildable, rfl⟩
  have huser : shelfInventory.userSymbols = crowdedInventory.userSymbols := rfl
  exact ⟨_, _, hshelf, hcrowded, huser, render_eq_of_userSymbols_eq hshelf hcrowded huser⟩

end SymbolReference
