import SymbolReference.Page.Render
import SymbolReference.Proofs.Comment.Canonical
import SymbolReference.Proofs.Document.Assembly
import SymbolReference.Proofs.Page.Outline
import SymbolReference.Proofs.Page.View
import SymbolReference.Proofs.Text.Fields

namespace SymbolReference

namespace Text

/-- Lines with a line feed after each of them. -/
def terminated (content : List (List Char)) : List Char :=
  content.flatMap fun line => line ++ ['\n']

theorem terminated_append (content others : List (List Char)) :
    terminated (content ++ others) = terminated content ++ terminated others :=
  List.flatMap_append

theorem terminated_flatMap {α : Type} (f : α → List (List Char)) (xs : List α) :
    terminated (xs.flatMap f) = xs.flatMap fun x => terminated (f x) :=
  List.flatMap_assoc

theorem fields_terminated {content : List (List Char)} (h : ∀ line ∈ content, '\n' ∉ line) :
    fields '\n' (terminated content) = content ++ [[]] := by
  induction content with
  | nil => rfl
  | cons line content ih =>
      rw [List.forall_mem_cons] at h
      have hcons : terminated (line :: content) = line ++ '\n' :: terminated content := by
        rw [terminated, List.flatMap_cons, List.append_assoc]
        rfl
      rw [hcons, fields_append_cons, fields_of_notMem h.1, ih h.2]
      rfl

theorem count_terminated {content : List (List Char)} (h : ∀ line ∈ content, '\n' ∉ line) :
    (terminated content).count '\n' = content.length := by
  induction content with
  | nil => rfl
  | cons line content ih =>
      rw [List.forall_mem_cons] at h
      rw [terminated, List.flatMap_cons, List.count_append, List.count_append,
        List.count_eq_zero.mpr h.1, ← terminated, ih h.2, List.length_cons,
        List.count_singleton_self]
      omega

end Text

namespace Markdown

open Text

/-- The lines of a description: the description and an empty line. -/
def describedLines (description : String) : List (List Char) :=
  if description.isEmpty then [] else [description.toList, []]

/-- The text of a tag. -/
def taggedLine (tag : Tag) : List Char :=
  "- `@".toList ++ tag.name.toList ++ "` ".toList ++ tag.body.toList

/-- The lines of tags: one for each tag, and an empty line. -/
def taggedLines (tags : List Tag) : List (List Char) :=
  if tags.isEmpty then [] else tags.map taggedLine ++ [[]]

def locatedLines (location : Option Location) : List (List Char) :=
  if (formatLocation location).isEmpty then []
  else ["*Defined in `".toList ++ formatLocation location ++ "`*".toList, []]

/-- The text of a heading: the kind and the name of a symbol, with parameters if it can be called. -/
def headingLine (heading : String) (m : Model) : List Char :=
  heading.toList ++ " ".toList ++ m.kind.label.toList ++ " `".toList ++ m.name.toList ++
    (if m.kind.isCallable then
      "(".toList ++ formatParameters m.declaration.parameters ++ ")".toList else []) ++ "`".toList

/-- The lines of the block of a function, class or method. -/
def symbolLines (options : PageOptions) (heading : String) (m : Model) : List (List Char) :=
  [headingLine heading m, []] ++ describedLines m.comment.description ++
    taggedLines (shownTags options m) ++ locatedLines (shownLocation options m)

def classLines (options : PageOptions) (m : Model) : List (List Char) :=
  symbolLines options "###" m ++ m.methods.flatMap (symbolLines options "####")

def constantLines (m : Model) : List (List Char) :=
  ["- `const ".toList ++ m.name.toList ++ " = ".toList ++ formatValue m.declaration.value ++
    "`".toList]

/-- The lines of a section. -/
def groupLines (title : String) (models : List Model) (linesOf : Model → List (List Char)) :
    List (List Char) :=
  if models.isEmpty then [] else ["## ".toList ++ title.toList, []] ++ models.flatMap linesOf

def pageLines (options : PageOptions) (d : Document) : List (List Char) :=
  ["# Reference".toList, []] ++
    groupLines "Functions" d.functions (symbolLines options "###") ++
    groupLines "Classes" d.classes (classLines options) ++
    groupLines "Constants" d.constants constantLines

theorem paragraph_eq_terminated (line : List Char) : paragraph line = terminated [line, []] := by
  simp [paragraph, terminated]

theorem descriptionLines_eq_terminated (description : String) :
    descriptionLines description = terminated (describedLines description) := by
  unfold descriptionLines describedLines
  split
  · rfl
  · exact paragraph_eq_terminated _

theorem code_tag (name body : List Char) :
    "- ".toList ++ code ('@' :: name) ++ ' ' :: body =
      "- `@".toList ++ name ++ "` ".toList ++ body := by
  have hstart : "- `@".toList = "- ".toList ++ ['\x60', '@'] := by decide
  have hend : "` ".toList = ['\x60', ' '] := by decide
  rw [hstart, hend, code]
  simp only [List.append_assoc, List.cons_append, List.nil_append]

theorem tagLine_eq_taggedLine (tag : Tag) : tagLine tag = taggedLine tag ++ ['\n'] :=
  congrArg (· ++ ['\n']) (code_tag tag.name.toList tag.body.toList)

theorem tagLines_eq_terminated (tags : List Tag) : tagLines tags = terminated (taggedLines tags) := by
  unfold tagLines taggedLines
  split
  · rfl
  · rw [terminated_append, terminated, List.flatMap_map, List.flatMap_congr fun tag _ =>
      tagLine_eq_taggedLine tag]
    rfl

theorem locationLine_eq_terminated (location : Option Location) :
    locationLine location = terminated (locatedLines location) := by
  unfold locationLine locatedLines
  simp only
  split
  · rfl
  · rw [paragraph_eq_terminated]
    simp [code]

theorem heading_eq_headingLine (heading : String) (m : Model) :
    heading.toList ++ ' ' :: m.kind.label.toList ++ ' ' :: code m.signature =
      headingLine heading m := by
  have hspace : " ".toList = [' '] := by decide
  have hopen : " `".toList = [' ', '\x60'] := by decide
  have hclose : "`".toList = ['\x60'] := by decide
  have hparameters : "(".toList = ['('] ∧ ")".toList = [')'] := by decide
  unfold headingLine Model.signature
  rw [hspace, hopen, hclose, hparameters.1, hparameters.2]
  split
  · simp only [code, List.append_assoc, List.cons_append, List.nil_append]
  · simp only [code, List.append_assoc, List.cons_append, List.nil_append]

theorem symbolBlock_eq_terminated (options : PageOptions) (heading : String) (m : Model) :
    symbolBlock options heading m = terminated (symbolLines options heading m) := by
  rw [symbolBlock, symbolLines, terminated_append, terminated_append, terminated_append,
    heading_eq_headingLine, paragraph_eq_terminated, descriptionLines_eq_terminated,
    tagLines_eq_terminated, locationLine_eq_terminated]

theorem flatMap_eq_terminated {blockOf : Model → List Char} {linesOf : Model → List (List Char)}
    (h : ∀ m, blockOf m = terminated (linesOf m)) (models : List Model) :
    models.flatMap blockOf = terminated (models.flatMap linesOf) := by
  rw [terminated_flatMap]
  exact List.flatMap_congr fun m _ => h m

theorem classBlock_eq_terminated (options : PageOptions) (m : Model) :
    classBlock options m = terminated (classLines options m) := by
  rw [classBlock, classLines, terminated_append, symbolBlock_eq_terminated,
    flatMap_eq_terminated (symbolBlock_eq_terminated options "####")]

theorem code_definition (name value : List Char) :
    "- ".toList ++ code ("const ".toList ++ name ++ " = ".toList ++ value) =
      "- `const ".toList ++ name ++ " = ".toList ++ value ++ "`".toList := by
  have hstart : "- `const ".toList = "- ".toList ++ '\x60' :: "const ".toList := by decide
  have hend : "`".toList = ['\x60'] := by decide
  rw [hstart, hend, code]
  simp only [List.append_assoc, List.cons_append]

theorem constantLine_eq_terminated (m : Model) :
    constantLine m = terminated (constantLines m) := by
  rw [terminated, constantLines, List.flatMap_singleton]
  exact congrArg (· ++ ['\n']) (code_definition m.name.toList (formatValue m.declaration.value))

theorem group_eq_terminated (title : String) (models : List Model) {blockOf : Model → List Char}
    {linesOf : Model → List (List Char)} (h : ∀ m, blockOf m = terminated (linesOf m)) :
    group title models blockOf = terminated (groupLines title models linesOf) := by
  unfold group groupLines
  split
  · rfl
  · rw [terminated_append, paragraph_eq_terminated, flatMap_eq_terminated h]

theorem render_eq_terminated (options : PageOptions) (d : Document) :
    render options d = terminated (pageLines options d) := by
  rw [render, pageLines, terminated_append, terminated_append, terminated_append,
    paragraph_eq_terminated,
    group_eq_terminated "Functions" d.functions (symbolBlock_eq_terminated options "###"),
    group_eq_terminated "Classes" d.classes (classBlock_eq_terminated options),
    group_eq_terminated "Constants" d.constants constantLine_eq_terminated]

end Markdown

/-- The name of a symbol, its file and its parameters are each on one line. -/
structure Model.OneLined (m : Model) : Prop where
  name : '\n' ∉ m.name.toList
  file : ∀ file ∈ m.declaration.location.bind Location.file, '\n' ∉ file.toList
  parameters : '\n' ∉ formatParameters m.declaration.parameters

instance (m : Model) : Decidable m.OneLined :=
  decidable_of_iff ('\n' ∉ m.name.toList ∧
      (∀ file ∈ m.declaration.location.bind Location.file, '\n' ∉ file.toList) ∧
      '\n' ∉ formatParameters m.declaration.parameters)
    ⟨fun ⟨hname, hfile, hparameters⟩ => ⟨hname, hfile, hparameters⟩,
      fun h => ⟨h.name, h.file, h.parameters⟩⟩

/-- The names, files, parameters and values of a document are each on one line. -/
structure Document.OneLined (d : Document) : Prop where
  symbols : ∀ m ∈ d.symbols, m.OneLined
  values : ∀ m ∈ d.constants, '\n' ∉ formatValue m.declaration.value

theorem feed_notMem_of_collapsed {s : List Char} (h : s = Text.collapse s) : '\n' ∉ s := by
  intro hmem
  rw [h] at hmem
  exact absurd (Text.not_break_of_mem_collapse hmem) (by decide)

theorem Tag.Canonical.feed_notMem {tag : Tag} (h : tag.Canonical) :
    '\n' ∉ tag.name.toList ∧ '\n' ∉ tag.body.toList := by
  refine ⟨fun hmem => ?_, feed_notMem_of_collapsed h.body⟩
  exact absurd (h.unseparated _ hmem).2.2 (by decide)

theorem feed_notMem_formatLines (range : Int × Int) : '\n' ∉ formatLines range := by
  have hdigits : ∀ n : Int, '\n' ∉ Decimal.intDigits n := by
    intro n hmem
    rcases Html.mem_intDigits hmem with hsign | hdigit
    · exact absurd hsign (by decide)
    · exact absurd hdigit (by decide)
  unfold formatLines
  exact List.not_mem_append
    (List.not_mem_append (List.not_mem_append (by decide) (hdigits _)) (by decide)) (hdigits _)

theorem feed_notMem_formatLocation {location : Option Location}
    (h : ∀ file ∈ location.bind Location.file, '\n' ∉ file.toList) :
    '\n' ∉ formatLocation location := by
  unfold formatLocation
  split
  · simp
  · rename_i l
    split
    · simp
    · rename_i file hfile
      have hclear : '\n' ∉ file.toList :=
        h file (Option.filter_eq_some_iff.mp hfile).1
      split
      · exact hclear
      · exact List.not_mem_append (List.not_mem_append hclear (by decide))
          (feed_notMem_formatLines _)

namespace Markdown

open Text

theorem feed_notMem_headingLine {heading : String} (hheading : '\n' ∉ heading.toList) {m : Model}
    (h : m.OneLined) : '\n' ∉ headingLine heading m := by
  have hlabel : '\n' ∉ m.kind.label.toList := by
    cases m.kind <;> decide
  unfold headingLine
  split
  · simp [hheading, hlabel, h.name, h.parameters]
  · simp [hheading, hlabel, h.name]

theorem feed_notMem_describedLines {description : String}
    (h : description.toList = collapse description.toList) :
    ∀ line ∈ describedLines description, '\n' ∉ line := by
  unfold describedLines
  split
  · simp
  · simpa using feed_notMem_of_collapsed h

theorem feed_notMem_taggedLines {tags : List Tag} (h : ∀ tag ∈ tags, tag.Canonical) :
    ∀ line ∈ taggedLines tags, '\n' ∉ line := by
  unfold taggedLines
  split
  · simp
  · intro line hline
    rcases List.mem_append.mp hline with hline | hline
    · obtain ⟨tag, htag, rfl⟩ := List.mem_map.mp hline
      obtain ⟨hname, hbody⟩ := (h tag htag).feed_notMem
      exact List.not_mem_append (List.not_mem_append (List.not_mem_append (by decide) hname)
        (by decide)) hbody
    · simp [List.mem_singleton.mp hline]

theorem feed_notMem_locatedLines {location : Option Location}
    (h : '\n' ∉ formatLocation location) : ∀ line ∈ locatedLines location, '\n' ∉ line := by
  unfold locatedLines
  split
  · simp
  · simp [h]

theorem feed_notMem_symbolLines (options : PageOptions) {heading : String}
    (hheading : '\n' ∉ heading.toList) {m : Model} (h : m.OneLined)
    (hcomment : m.comment.Canonical) :
    ∀ line ∈ symbolLines options heading m, '\n' ∉ line := by
  have htags : ∀ tag ∈ shownTags options m, tag.Canonical := by
    unfold shownTags
    split
    · exact hcomment.tags
    · simp
  have hlocation : '\n' ∉ formatLocation (shownLocation options m) := by
    unfold shownLocation
    split
    · exact feed_notMem_formatLocation h.file
    · simp [formatLocation]
  have hfirst : ∀ line ∈ [headingLine heading m, []], '\n' ∉ line := by
    simp [feed_notMem_headingLine hheading h]
  intro line hline
  rw [symbolLines, List.mem_append, List.mem_append, List.mem_append] at hline
  rcases hline with ((hline | hline) | hline) | hline
  · exact hfirst line hline
  · exact feed_notMem_describedLines hcomment.description line hline
  · exact feed_notMem_taggedLines htags line hline
  · exact feed_notMem_locatedLines hlocation line hline

theorem feed_notMem_groupLines {title : String} (htitle : '\n' ∉ title.toList)
    (linesOf : Model → List (List Char)) {models : List Model}
    (h : ∀ m ∈ models, ∀ line ∈ linesOf m, '\n' ∉ line) :
    ∀ line ∈ groupLines title models linesOf, '\n' ∉ line := by
  have hfirst : ∀ line ∈ ["## ".toList ++ title.toList, []], '\n' ∉ line := by
    simp [htitle]
  unfold groupLines
  split
  · simp
  · intro line hline
    rcases List.mem_append.mp hline with hline | hline
    · exact hfirst line hline
    · obtain ⟨m, hm, hline⟩ := List.mem_flatMap.mp hline
      exact h m hm line hline

/-- No line of the page is broken when the data of the document is on single lines and its comments
are read from texts. -/
theorem feed_notMem_pageLines (options : PageOptions) {d : Document} (h : d.OneLined)
    (hcomments : ∀ m ∈ d.symbols, m.comment.Canonical) :
    ∀ line ∈ pageLines options d, '\n' ∉ line := by
  have hblock : ∀ heading : String, '\n' ∉ heading.toList → ∀ m ∈ d.symbols,
      ∀ line ∈ symbolLines options heading m, '\n' ∉ line :=
    fun _ hheading m hm =>
      feed_notMem_symbolLines options hheading (h.symbols m hm) (hcomments m hm)
  have hmem : ∀ m, m ∈ d.symbols ↔ (m ∈ d.functions ∨ ∃ c ∈ d.classes, m = c ∨ m ∈ c.methods) ∨
      m ∈ d.constants := by
    intro m
    simp only [Document.symbols, List.mem_append, List.mem_flatMap, List.mem_cons]
  have htitles :
      '\n' ∉ "Functions".toList ∧ '\n' ∉ "Classes".toList ∧ '\n' ∉ "Constants".toList := by
    decide
  have hfunctions := feed_notMem_groupLines htitles.1 (symbolLines options "###")
    fun m (hm : m ∈ d.functions) => hblock "###" (by decide) m ((hmem m).mpr (Or.inl (Or.inl hm)))
  have hclasses := feed_notMem_groupLines htitles.2.1 (classLines options)
    fun c (hc : c ∈ d.classes) line hline => by
      rcases List.mem_append.mp hline with hline | hline
      · exact hblock "###" (by decide) c ((hmem c).mpr (Or.inl (Or.inr ⟨c, hc, Or.inl rfl⟩))) line
          hline
      · obtain ⟨m, hm, hline⟩ := List.mem_flatMap.mp hline
        exact hblock "####" (by decide) m ((hmem m).mpr (Or.inl (Or.inr ⟨c, hc, Or.inr hm⟩))) line
          hline
  have hconstants := feed_notMem_groupLines htitles.2.2 constantLines
    fun m (hm : m ∈ d.constants) line hline => by
      have hname := (h.symbols m ((hmem m).mpr (Or.inr hm))).name
      rw [List.mem_singleton.mp hline]
      simp [hname, h.values m hm]
  intro line hline
  rw [pageLines, List.mem_append, List.mem_append, List.mem_append] at hline
  rcases hline with ((hline | hline) | hline) | hline
  · revert line
    decide
  · exact hfunctions line hline
  · exact hclasses line hline
  · exact hconstants line hline

end Markdown

/-- What holds of the models of the retained symbols holds of every symbol of the document. -/
theorem forall_mem_symbols_document {includeAll : Bool} {inventory : Inventory} {p : Model → Prop}
    (hfunctions : ∀ s ∈ inventory.retainedFunctions includeAll, p s.plainModel)
    (hclasses : ∀ c ∈ inventory.retainedClasses includeAll, p (c.classModel includeAll) ∧
      ∀ s ∈ c.retainedMethods includeAll, p (s.withOwner c.name).plainModel)
    (hconstants : ∀ m ∈ (inventory.document includeAll).constants, p m) :
    ∀ m ∈ (inventory.document includeAll).symbols, p m := by
  intro m hm
  simp only [Document.symbols, List.mem_append, List.mem_flatMap, List.mem_cons] at hm
  rcases hm with (hm | ⟨c, hc, hm⟩) | hm
  · obtain ⟨s, hs, rfl⟩ := exists_of_mem_functions hm
    exact hfunctions s hs
  · obtain ⟨s, hs, rfl⟩ := exists_of_mem_classes hc
    rcases hm with rfl | hm
    · exact (hclasses s hs).1
    · obtain ⟨t, ht, rfl⟩ := exists_of_mem_methods hm
      exact (hclasses s hs).2 t ht
  · exact hconstants m hm

/-- The number of lines of the blocks of a section. -/
def blockCount (blocks : List Nat) : Nat :=
  blocks.foldr (· + ·) 0

/-- The number of lines of a section with blocks of so many lines. -/
def sectionCount (blocks : List Nat) : Nat :=
  if blocks.isEmpty then 0 else 2 + blockCount blocks

/-- The number of lines of the block of a symbol: two for its heading and two for its description,
one for each tag and one after them, and two for its location. -/
def SymbolOutline.lineCount (options : PageOptions) (s : SymbolOutline) : Nat :=
  2 + (if s.described then 2 else 0) +
    (if options.showTags && s.tags != 0 then s.tags + 1 else 0) +
    (if options.showLocations && s.located then 2 else 0)

/-- The number of lines of a page. -/
def DocumentOutline.lineCount (options : PageOptions) (o : DocumentOutline) : Nat :=
  2 + sectionCount (o.functions.map (SymbolOutline.lineCount options)) +
    sectionCount (o.classes.map fun c =>
      c.1.lineCount options + blockCount (c.2.map (SymbolOutline.lineCount options))) +
    sectionCount (List.replicate o.constants 1)

namespace Markdown

theorem length_flatMap_eq_blockCount (models : List Model) (linesOf : Model → List (List Char)) :
    (models.flatMap linesOf).length = blockCount (models.map fun m => (linesOf m).length) := by
  induction models with
  | nil => rfl
  | cons m models ih =>
      rw [List.flatMap_cons, List.length_append, ih]
      rfl

theorem length_groupLines (title : String) (models : List Model)
    (linesOf : Model → List (List Char)) :
    (groupLines title models linesOf).length =
      sectionCount (models.map fun m => (linesOf m).length) := by
  unfold groupLines sectionCount
  rw [List.isEmpty_map]
  split
  · rfl
  · rw [List.length_append, length_flatMap_eq_blockCount]
    rfl

theorem isEmpty_formatLocation (location : Option Location) :
    (formatLocation location).isEmpty = !(location.bind Location.file?).isSome := by
  rcases location with _ | l
  · rfl
  · rw [Option.bind_some]
    cases hfile : l.file? with
    | none => simp [formatLocation, hfile]
    | some file =>
        have hne := (Option.filter_eq_some_iff.mp hfile).2
        cases hrange : l.lineRange? with
        | none => simpa [formatLocation, hfile, hrange] using hne
        | some range => simp [formatLocation, hfile, hrange]

theorem length_symbolLines (options : PageOptions) (heading : String) (m : Model) :
    (symbolLines options heading m).length = m.outline.lineCount options := by
  have hdescription : (describedLines m.comment.description).length =
      if m.outline.described then 2 else 0 := by
    unfold describedLines Model.outline
    cases m.comment.description.isEmpty <;> rfl
  have htags : (taggedLines (shownTags options m)).length =
      if options.showTags && m.outline.tags != 0 then m.outline.tags + 1 else 0 := by
    unfold taggedLines shownTags Model.outline
    cases options.showTags with
    | false => rfl
    | true =>
        rcases m.comment.tags with _ | ⟨tag, tags⟩
        · rfl
        · simp
  have hlocation : (locatedLines (shownLocation options m)).length =
      if options.showLocations && m.outline.located then 2 else 0 := by
    unfold locatedLines
    rw [isEmpty_formatLocation]
    unfold shownLocation Model.outline
    cases options.showLocations with
    | false => rfl
    | true =>
        rw [if_pos rfl, Bool.true_and]
        cases (m.declaration.location.bind Location.file?).isSome <;> rfl
  rw [symbolLines, List.length_append, List.length_append, List.length_append, hdescription, htags,
    hlocation, SymbolOutline.lineCount]
  rfl

theorem length_classLines (options : PageOptions) (m : Model) :
    (classLines options m).length =
      m.outline.lineCount options +
        blockCount ((m.methods.map Model.outline).map (SymbolOutline.lineCount options)) := by
  rw [classLines, List.length_append, length_symbolLines, length_flatMap_eq_blockCount, List.map_map]
  simp only [length_symbolLines]
  rfl

theorem length_pageLines (options : PageOptions) (d : Document) :
    (pageLines options d).length = d.outline.lineCount options := by
  have hconstants : (d.constants.map fun m => (constantLines m).length) =
      List.replicate d.constants.length 1 :=
    List.map_const'
  rw [pageLines, List.length_append, List.length_append, List.length_append, length_groupLines,
    length_groupLines, length_groupLines, hconstants, DocumentOutline.lineCount]
  simp only [length_symbolLines, length_classLines, Document.outline, List.map_map,
    Function.comp_def, Model.classOutline]
  rfl

end Markdown

/-- In a built document whose names, files, parameters and values are each on one line, the lines of
the Markdown page are those of its blocks, in which each shown description and each shown tag is one
line, whatever the comments were read from. Their number depends on the outline of the document and
on the switches only. -/
theorem markdown_lines_of_build {includeAll : Bool} {inventory : Inventory} {d : Document}
    (hbuild : Document.build includeAll inventory = .ok d) (h : d.OneLined)
    (options : PageOptions) :
    Text.fields '\n' (Markdown.render options d) = Markdown.pageLines options d ++ [[]] ∧
      (Markdown.render options d).count '\n' = d.outline.lineCount options := by
  obtain ⟨-, rfl⟩ := (Document.build_eq_ok_iff includeAll inventory d).mp hbuild
  have hcomments : ∀ m ∈ (inventory.document includeAll).symbols, m.comment.Canonical := by
    intro m hm
    rw [comment_of_mem_symbols hm]
    exact Comment.canonical_parse? _
  have hlines := Markdown.feed_notMem_pageLines options h hcomments
  rw [Markdown.render_eq_terminated]
  exact ⟨Text.fields_terminated hlines,
    (Text.count_terminated hlines).trans (Markdown.length_pageLines options _)⟩

/-- The page of the shelf, line by line. -/
theorem markdown_lines_of_build_shelf : ∃ d, Document.build true shelfInventory = .ok d ∧
    d.OneLined ∧
    Text.fields '\n' (Markdown.render {} d) = ["# Reference", "", "## Functions", "",
      "### function `add()`", "", "### function `add()`", "", "Adds.", "", "- `@see` sort", "",
      "### function `sort()`", "", "## Classes", "", "### class `Shelf`", "",
      "#### method `hash()`", "", "#### method `put()`", "", "#### method `take()`", "",
      "## Constants", "", "- `const LIMIT = 3`", ""].map String.toList ∧
    (Markdown.render {} d).count '\n' = 27 := by
  have hbuild := (Document.build_eq_ok_iff true shelfInventory _).mpr
    ⟨shelfInventory_buildable true, rfl⟩
  have hshelf : (shelfInventory.document true).OneLined :=
    ⟨forall_mem_symbols_document (by decide) (by decide) (by decide), by decide⟩
  obtain ⟨hlines, hcount⟩ := markdown_lines_of_build hbuild hshelf {}
  have hdocument : shelfInventory.document true = {
      functions := placedByName ((shelfInventory.retainedFunctions true).map Symbol.plainModel)
      classes := placedByName ((shelfInventory.retainedClasses true).map fun c =>
        .mk c (commentOf c) (placedByName
          ((c.retainedMethods true).map fun m => (m.withOwner c.name).plainModel)))
      constants := [.mk (Symbol.constant "LIMIT" (.int 3)) Comment.empty []]
      includeAll := true } := by
    rw [← sortedByName_eq_placedByName]
    rfl
  refine ⟨_, hbuild, hshelf, hlines.trans ?_, hcount.trans ?_⟩
  · rw [hdocument]
    decide +kernel
  · rw [hdocument]
    decide +kernel

end SymbolReference
