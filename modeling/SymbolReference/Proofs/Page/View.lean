import SymbolReference.Proofs.Document.Assembly
import SymbolReference.Proofs.Page.Outline
import SymbolReference.Proofs.Page.Segments

/-!
The view of a document is what a reader of the HTML page sees of it: which symbols stand where, and
of each symbol its kind, its heading, its description and, when they are shown, its tags and its
location. A page is read back by walking over its marks from the last to the first.
-/

namespace SymbolReference

open Markup

/-- The location that is seen under a symbol: its file and, where known, its first and last line. -/
structure LocationView where
  file : String
  lines : Option (Int × Int) := none
deriving Repr, DecidableEq

/-- What is seen of a symbol. -/
structure SymbolView where
  kind : Kind := .function
  heading : String := ""
  description : String := ""
  tags : List Tag := []
  location : Option LocationView := none
deriving Repr, DecidableEq

/-- What is seen of a document: the symbols of each section, each class with its methods. -/
structure PageView where
  functions : List SymbolView := []
  classes : List (SymbolView × List SymbolView) := []
  constants : List SymbolView := []
deriving Repr, DecidableEq

/-- What is seen of a location: its file, and its first and last line where the first is known. One
without a file name is not seen. -/
def Location.view? (location : Location) : Option LocationView :=
  (location.file.filter fun file => !file.isEmpty).map fun file =>
    { file, lines := location.startLine.map fun start => (start, location.endLine.getD start) }

theorem Location.view?_eq (location : Location) :
    location.view? = location.file?.map fun file => ⟨file, location.lineRange?⟩ := rfl

/-- What is seen of a function, class or method. -/
def Model.view (options : PageOptions) (m : Model) : SymbolView where
  kind := m.kind
  heading := String.ofList (if m.kind.isCallable then
    m.name.toList ++ '(' :: formatParameters m.declaration.parameters ++ [')'] else m.name.toList)
  description := m.comment.description
  tags := if options.showTags then m.comment.tags else []
  location := (if options.showLocations then m.declaration.location else none).bind Location.view?

/-- What is seen of a constant: its definition. -/
def Model.constantView (m : Model) : SymbolView where
  kind := .constant
  heading := String.ofList
    ("const ".toList ++ m.name.toList ++ " = ".toList ++ formatValue m.declaration.value)

/-- What is seen of a class with its methods. -/
def Model.classView (options : PageOptions) (m : Model) : SymbolView × List SymbolView :=
  (m.view options, m.methods.map (Model.view options))

/-- What is seen of a document. -/
def Document.view (options : PageOptions) (d : Document) : PageView where
  functions := d.functions.map (Model.view options)
  classes := d.classes.map (Model.classView options)
  constants := d.constants.map Model.constantView

namespace Html

/-- What the mark of an element says about the data after it. -/
inductive PageMark where
  | symbol (kind : Kind)
  | heading
  | description
  | tagName
  | tagBody
  | file
  | lines
  | functions
  | methods
  | classWrapper
  | constants
  | other
deriving Repr, DecidableEq

/-- The beginning of the mark of a symbol, up to its lower-case name. -/
def symbolMark (kind : Kind) : List Char :=
  "div class=\"".toList ++ kind.label.toList ++ "\" title=\"".toList

def wholeMarks : List (List Char × PageMark) :=
  [("h2".toList, .heading), ("pre class=\"comment\"".toList, .description),
    ("dt".toList, .tagName), ("dd".toList, .tagBody),
    ("span class=\"filename\"".toList, .file), ("span class=\"lines\"".toList, .lines),
    ("div class=\"functions\"".toList, .functions), ("div class=\"methods\"".toList, .methods),
    ("div class=\"classWrapper\"".toList, .classWrapper),
    ("div class=\"constants\"".toList, .constants)]

/-- What a mark says. Marks that carry nothing of the document are told apart from none of the
others. -/
def PageMark.of (mark : List Char) : PageMark :=
  match [Kind.function, .klass, .method, .constant].find? fun kind =>
      (symbolMark kind).isPrefixOf mark with
  | some kind => .symbol kind
  | none => (wholeMarks.lookup mark).getD .other

/-- An integer read from its decimal form. -/
def readInt : List Char → Int
  | '-' :: digits => -(Nat.ofDigitChars 10 digits 0 : Nat)
  | digits => (Nat.ofDigitChars 10 digits 0 : Nat)

/-- A line range read from its text. -/
def readLines (s : List Char) : Option (Int × Int) :=
  match Text.fields ' ' s with
  | [_, first, _, last] => some (readInt first, readInt last)
  | _ => none

def dropLabel (kind : Kind) (heading : String) : String :=
  let label := kind.label.toList ++ [' ']
  if label.isPrefixOf heading.toList then String.ofList (heading.toList.drop label.length)
  else heading

/-- What was read of a page from some mark to its end: the line range and the tag body whose
file and name come next, the lines of a symbol whose mark comes next, and the symbols, methods and
sections so far. -/
structure Reading where
  lines : Option (Int × Int) := none
  body : String := ""
  draft : SymbolView := {}
  symbols : List SymbolView := []
  methods : List SymbolView := []
  view : PageView := {}
deriving Repr, DecidableEq

/-- Take in what a mark says, given the data after it. -/
def Reading.take (data : List Char) (r : Reading) : PageMark → Reading
  | .lines => { r with lines := readLines data }
  | .file =>
    -- The file name is followed by a colon and a space.
    { r with
      lines := none
      draft := { r.draft with location := some ⟨String.ofList data.dropLast.dropLast, r.lines⟩ } }
  | .tagBody => { r with body := String.ofList data }
  | .tagName =>
    -- The name follows an at sign.
    { r with
      body := ""
      draft := { r.draft with tags := ⟨String.ofList data.tail, r.body⟩ :: r.draft.tags } }
  | .description => { r with draft := { r.draft with description := String.ofList data } }
  | .heading => { r with draft := { r.draft with heading := String.ofList data } }
  | .symbol kind =>
    { r with
      draft := {}
      symbols :=
        { r.draft with kind, heading := dropLabel kind r.draft.heading } :: r.symbols }
  | .functions => { r with symbols := [], view := { r.view with functions := r.symbols } }
  | .methods => { r with symbols := [], methods := r.symbols }
  | .classWrapper =>
    { r with
      symbols := []
      methods := []
      view := { r.view with
        classes := r.symbols.map (fun symbol => (symbol, r.methods)) ++ r.view.classes } }
  | .constants => { r with symbols := [], view := { r.view with constants := r.symbols } }
  | .other => r

/-- Read one more mark, with the data after it. -/
def Reading.step (segment : Segment) (r : Reading) : Reading :=
  r.take segment.data (PageMark.of segment.mark)

/-- Read a text that was taken apart, from its last mark to its first. -/
def reading (parts : Dissection) : Reading :=
  parts.segments.foldr Reading.step {}

/-- The view of a document read from its page. -/
def decode (page : String) : PageView :=
  (reading (dissect page.toList)).view

/-- Reading pieces of markup takes one reading to another, whatever stands after them. -/
def Reads (pieces : List Markup) (r s : Reading) : Prop :=
  ∀ after : Dissection, reading after = r → reading (dissectPieces pieces after) = s

theorem Reads.nil (r : Reading) : Reads [] r r := fun _ hafter => hafter

theorem Reads.append {pieces others : List Markup} {r s t : Reading} (h : Reads pieces s t)
    (hothers : Reads others r s) : Reads (pieces ++ others) r t := by
  intro after hafter
  rw [dissectPieces_append]
  exact h _ (hothers after hafter)

theorem reads_text (data : List Char) (r : Reading) : Reads [text data] r r :=
  fun _ hafter => hafter

theorem step_closing (name : String) (data : List Char) (r : Reading) :
    r.step ⟨'/' :: name.toList, data⟩ = r := rfl

/-- An element that holds one text is read as its mark with that text. -/
theorem reads_data (mark : PageMark) {name : String} {attributes : List (String × List Char)}
    (h : PageMark.of (name.toList ++ writeAttributes attributes) = mark) (data : List Char)
    (r : Reading) :
    Reads [element name attributes [text data]] r (r.take data mark) := by
  rintro after rfl
  have hdata : dissectPieces [element name attributes [text data]] after =
      ⟨[], ⟨name.toList ++ writeAttributes attributes, data⟩ ::
        ⟨'/' :: name.toList, after.leading⟩ :: after.segments⟩ := by
    simp only [dissectPieces, dissectPiece, List.append_nil]
  rw [hdata, reading, List.foldr_cons, List.foldr_cons, step_closing, Reading.step, h]
  rfl

/-- An element is read as its content and then its mark, with some data after the mark. -/
theorem reads_element (mark : PageMark) {name : String} {attributes : List (String × List Char)}
    (h : PageMark.of (name.toList ++ writeAttributes attributes) = mark)
    {content : List Markup} {r s t : Reading} (hcontent : Reads content r s)
    (htake : ∀ data, s.take data mark = t) :
    Reads [element name attributes content] r t := by
  intro after hafter
  have hinner := hcontent ⟨[], ⟨'/' :: name.toList, after.leading⟩ :: after.segments⟩ hafter
  subst h
  rw [← htake _, ← hinner]
  rfl

theorem Reads.line {piece : Markup} {r s : Reading} (h : Reads [piece] r s) :
    Reads (onLine piece) r s :=
  h.append (reads_text ['\n'] r)

theorem Reads.newline_cons {content : List Markup} {r s : Reading} (h : Reads content r s) :
    Reads (newline :: content) r s :=
  (reads_text ['\n'] s).append h

theorem reads_flatMap {α β : Type} {pieces : α → List Markup} (entry : α → β)
    (pushed : List β → Reading)
    (h : ∀ x entries, Reads (pieces x) (pushed entries) (pushed (entry x :: entries)))
    (xs : List α) (entries : List β) :
    Reads (xs.flatMap pieces) (pushed entries) (pushed (xs.map entry ++ entries)) := by
  induction xs with
  | nil => exact Reads.nil _
  | cons x xs ih => exact (h x _).append ih

theorem mem_intDigits {n : Int} {c : Char} (h : c ∈ Decimal.intDigits n) :
    c = '-' ∨ c.isDigit = true := by
  have hdigit : ∀ d ∈ Decimal.natDigits n.natAbs, d.isDigit = true := fun d hd =>
    Nat.isDigit_of_mem_toDigits (by decide) (by decide) hd
  unfold Decimal.intDigits at h
  split at h
  · rcases List.mem_cons.mp h with rfl | h
    · exact Or.inl rfl
    · exact Or.inr (hdigit c h)
  · exact Or.inr (hdigit c h)

theorem readInt_intDigits (n : Int) : readInt (Decimal.intDigits n) = n := by
  unfold Decimal.intDigits Decimal.natDigits
  split
  · rw [readInt, Nat.ofDigitChars_ten_toDigits]
    omega
  · have hsign : ∀ digits, Nat.toDigits 10 n.natAbs ≠ '-' :: digits := by
      intro digits heq
      have hdigit : '-'.isDigit = true :=
        Nat.isDigit_of_mem_toDigits (by decide) (by decide) (heq ▸ List.mem_cons_self)
      exact absurd hdigit (by decide)
    rw [readInt]
    · rw [Nat.ofDigitChars_ten_toDigits]
      omega
    · exact hsign

theorem space_notMem_intDigits (n : Int) : ' ' ∉ Decimal.intDigits n := by
  intro hmem
  rcases mem_intDigits hmem with hspace | hdigit
  · exact absurd hspace (by decide)
  · exact absurd hdigit (by decide)

theorem readLines_formatLines (range : Int × Int) : readLines (formatLines range) = some range := by
  have hwritten : formatLines range =
      "Lines".toList ++ [' '] ++ Decimal.intDigits range.1 ++ [' ', '-', ' '] ++
        Decimal.intDigits range.2 := rfl
  have hcut : formatLines range =
      "Lines".toList ++ ' ' :: (Decimal.intDigits range.1 ++ ' ' ::
        (['-'] ++ ' ' :: Decimal.intDigits range.2)) := by
    rw [hwritten]
    simp only [List.append_assoc, List.cons_append, List.nil_append]
  have hfields : Text.fields ' ' (formatLines range) =
      ["Lines".toList, Decimal.intDigits range.1, ['-'], Decimal.intDigits range.2] := by
    rw [hcut, Text.fields_append_cons, Text.fields_append_cons, Text.fields_append_cons,
      Text.fields_of_notMem (space_notMem_intDigits range.1),
      Text.fields_of_notMem (space_notMem_intDigits range.2)]
    rfl
  rw [readLines, hfields]
  simp only [readInt_intDigits]

theorem dropLabel_signature (kind : Kind) (signature : List Char) :
    dropLabel kind (String.ofList (kind.label.toList ++ ' ' :: signature)) =
      String.ofList signature := by
  have hsplit : kind.label.toList ++ ' ' :: signature =
      kind.label.toList ++ [' '] ++ signature := by
    rw [List.append_assoc, List.singleton_append]
  rw [dropLabel, String.toList_ofList, hsplit,
    if_pos (List.isPrefixOf_iff_prefix.mpr (List.prefix_append _ _)), List.drop_left]

theorem dropLabel_definition (m : Model) :
    dropLabel .constant (String.ofList m.definition) = String.ofList m.definition := by
  have hlabel : (Kind.constant.label.toList ++ [' ']).isPrefixOf m.definition = false := rfl
  rw [dropLabel, String.toList_ofList, hlabel]
  rfl

theorem of_symbolMark (kind : Kind) (rest : List Char) :
    PageMark.of (symbolMark kind ++ rest) = .symbol kind := by
  cases kind with
  | function => rfl
  | klass => rfl
  | method => rfl
  | constant => rfl

theorem writeAttributes_symbol (kind : Kind) (data : List Char) :
    "div".toList ++ writeAttributes [("class", kind.label.toList), ("title", data)] =
      symbolMark kind ++ (escape data ++ ['"']) := by
  have hlabel : escape kind.label.toList = kind.label.toList := by cases kind <;> rfl
  have hmark : symbolMark kind =
      "div".toList ++ ' ' :: ("class".toList ++ '=' :: '"' :: (kind.label.toList ++
        '"' :: ' ' :: ("title".toList ++ ['=', '"']))) := by cases kind <;> rfl
  simp only [hmark, writeAttributes, List.flatMap_cons, List.flatMap_nil, hlabel,
    List.append_assoc, List.cons_append, List.nil_append, List.append_nil]

theorem reads_block (kind : Kind) (name : String) {lines : List Markup} {r s : Reading}
    (h : Reads lines r s) : Reads (block kind.label name lines) r (s.take [] (.symbol kind)) := by
  have hmark := of_symbolMark kind (escape (Text.lower name.toList) ++ ['"'])
  rw [← writeAttributes_symbol] at hmark
  exact (reads_element (.symbol kind) hmark h.newline_cons fun _ => rfl).line

section SymbolLines

variable {symbols methods : List SymbolView} {view : PageView}

theorem reads_locationLine (location : Option Location) :
    Reads (locationLine location) { symbols, methods, view }
      { draft := { location := location.bind Location.view? }, symbols, methods, view } := by
  rcases location with _ | location
  · exact Reads.nil _
  · rcases hfile : location.file? with _ | file
    · simp only [locationLine, hfile, Option.bind_some, Location.view?_eq, Option.map_none]
      exact Reads.nil _
    · -- The line range, if there is one, waits for the file name in front of it.
      simp only [locationLine, hfile, Option.bind_some, Location.view?_eq, Option.map_some]
      have hfileName : Reads [classed "span" "filename" [text (file.toList ++ [':', ' '])]] _ _ :=
        reads_data .file rfl _ { lines := location.lineRange?, symbols, methods, view }
      have hname : (file.toList ++ [':', ' ']).dropLast.dropLast = file.toList := by
        simp
      rw [Reading.take, hname, String.ofList_toList] at hfileName
      refine Reads.line (reads_element .other rfl (hfileName.append ?_) fun _ => rfl)
      rcases location.lineRange? with _ | range
      · exact Reads.nil _
      · have hread : Reads [classed "span" "lines" [text (formatLines range)]] _ _ :=
          reads_data .lines rfl _ { symbols, methods, view }
        rwa [Reading.take, readLines_formatLines] at hread

theorem reads_tagLine (draft : SymbolView) (tag : Tag) (tags : List Tag) :
    Reads (tagLine tag) { draft := { draft with tags }, symbols, methods, view }
      { draft := { draft with tags := tag :: tags }, symbols, methods, view } := by
  have hbody : Reads [element "dd" [] [text tag.body.toList]] _ _ :=
    reads_data .tagBody rfl _ { draft := { draft with tags }, symbols, methods, view }
  have hname : Reads [element "dt" [] [text ('@' :: tag.name.toList)]] _ _ :=
    reads_data .tagName rfl _
      { body := tag.body, draft := { draft with tags }, symbols, methods, view }
  rw [Reading.take, String.ofList_toList] at hbody
  rw [Reading.take, List.tail_cons, String.ofList_toList] at hname
  exact hname.append (hbody.append (reads_text ['\n'] _))

theorem reads_tagLines (draft : SymbolView) (tags : List Tag) :
    Reads (tagLines tags) { draft := { draft with tags := [] }, symbols, methods, view }
      { draft := { draft with tags }, symbols, methods, view } := by
  unfold tagLines
  rcases tags with _ | ⟨tag, tags⟩
  · exact Reads.nil _
  · have hlines := reads_flatMap id
      (fun tags => { draft := { draft with tags }, symbols, methods, view }) (reads_tagLine draft)
      (tag :: tags) []
    rw [List.map_id, List.append_nil] at hlines
    exact (reads_element .other rfl hlines.newline_cons fun _ => rfl).line

theorem reads_descriptionLines (draft : SymbolView) (description : String) :
    Reads (descriptionLines description)
      { draft := { draft with description := "" }, symbols, methods, view }
      { draft := { draft with description }, symbols, methods, view } := by
  unfold descriptionLines
  split
  · rename_i hempty
    rw [String.isEmpty_iff.mp hempty]
    exact Reads.nil _
  · have hdescription : Reads [classed "pre" "comment" [text description.toList]] _ _ :=
      reads_data .description rfl _
        { draft := { draft with description := "" }, symbols, methods, view }
    have hintroduction : Reads [classed "p" "comment" [label "Comment:"]] _ _ :=
      reads_data .other rfl _ { draft := { draft with description }, symbols, methods, view }
    rw [Reading.take, String.ofList_toList] at hdescription
    exact hintroduction.line.append hdescription.line

theorem reads_symbolBlock (options : PageOptions) (m : Model) (symbols : List SymbolView) :
    Reads (symbolBlock options m) { symbols, methods, view }
      { symbols := m.view options :: symbols, methods, view } := by
  let location := (shownLocation options m).bind Location.view?
  let tags := shownTags options m
  let description := m.comment.description
  have hlocation : Reads (locationLine (shownLocation options m)) { symbols, methods, view }
      { draft := { location }, symbols, methods, view } :=
    reads_locationLine _
  have htags : Reads (tagLines tags) { draft := { location }, symbols, methods, view }
      { draft := { tags, location }, symbols, methods, view } :=
    reads_tagLines { location } tags
  have hdescription : Reads (descriptionLines description)
      { draft := { tags, location }, symbols, methods, view }
      { draft := { description, tags, location }, symbols, methods, view } :=
    reads_descriptionLines { tags, location } description
  have hheading : Reads [element "h2" [] [text (m.kind.label.toList ++ ' ' :: m.signature)]] _ _ :=
    reads_data .heading rfl _ { draft := { description, tags, location }, symbols, methods, view }
  have hblock := reads_block m.kind m.name
    (((hheading.line.append hdescription).append htags).append hlocation)
  rw [Reading.take, Reading.take, dropLabel_signature] at hblock
  exact hblock

theorem reads_constantBlock (m : Model) (symbols : List SymbolView) :
    Reads (constantBlock m) { symbols, methods, view }
      { symbols := m.constantView :: symbols, methods, view } := by
  have hheading : Reads [element "h2" [] [text m.definition]] _ _ :=
    reads_data .heading rfl _ { symbols, methods, view }
  have hblock := reads_block .constant m.name hheading.line
  rw [Reading.take, Reading.take, dropLabel_definition] at hblock
  exact hblock

end SymbolLines

theorem reads_classBlock (options : PageOptions) (functions constants : List SymbolView)
    (m : Model) (classes : List (SymbolView × List SymbolView)) :
    Reads (classBlock options m) { view := { functions, classes, constants } }
      { view := { functions, classes := m.classView options :: classes, constants } } := by
  let view : PageView := { functions, classes, constants }
  let methods := m.methods.map (Model.view options)
  have hsymbols := reads_flatMap (Model.view options) (fun symbols => { symbols, view })
    (reads_symbolBlock options) m.methods []
  rw [List.append_nil] at hsymbols
  have hmethods : Reads (onLine (classed "div" "methods"
      (newline :: m.methods.flatMap (symbolBlock options)))) { view } { methods, view } :=
    (reads_element .methods rfl hsymbols.newline_cons fun _ => rfl).line
  have hclass : Reads (symbolBlock options m) { methods, view }
      { symbols := [m.view options], methods, view } :=
    reads_symbolBlock options m []
  exact (reads_element .classWrapper rfl (hclass.newline_cons.append hmethods) fun _ => rfl).line

theorem reads_group (mark : PageMark) {cls : String}
    (hmark : PageMark.of ("div".toList ++ writeAttributes [("class", cls.toList)]) = mark)
    {models : List Model} {blockOf : Model → List Markup} {r s t : Reading}
    (h : Reads (models.flatMap blockOf) r s) (htake : ∀ data, s.take data mark = t)
    (hempty : models = [] → r = t) : Reads (group cls models blockOf) r t := by
  unfold group
  split
  · rename_i hmodels
    rw [hempty (List.isEmpty_iff.mp hmodels)]
    exact Reads.nil t
  · exact (reads_element mark hmark h.newline_cons htake).line

theorem reads_sections (options : PageOptions) (d : Document) :
    Reads
      (group "functions" d.functions (symbolBlock options) ++
        group "classes" d.classes (classBlock options) ++
        group "constants" d.constants constantBlock)
      {} { view := d.view options } := by
  let functions := d.functions.map (Model.view options)
  let classes := d.classes.map (Model.classView options)
  let constants := d.constants.map Model.constantView
  -- A page is read from its end, so the last section comes first.
  have hconstants : Reads (group "constants" d.constants constantBlock) {}
      { view := { constants } } := by
    have hsymbols := reads_flatMap Model.constantView (fun symbols => { symbols })
      reads_constantBlock d.constants []
    rw [List.append_nil] at hsymbols
    refine reads_group .constants rfl hsymbols (fun _ => rfl) fun hempty => ?_
    simp [constants, hempty]
  have hclasses : Reads (group "classes" d.classes (classBlock options))
      { view := { constants } } { view := { classes, constants } } := by
    have hblocks := reads_flatMap (Model.classView options)
      (fun classes => { view := { classes, constants } }) (reads_classBlock options [] constants)
      d.classes []
    rw [List.append_nil] at hblocks
    refine reads_group .other rfl hblocks (fun _ => rfl) fun hempty => ?_
    simp [classes, hempty]
  have hfunctions : Reads (group "functions" d.functions (symbolBlock options))
      { view := { classes, constants } } { view := { functions, classes, constants } } := by
    have hsymbols := reads_flatMap (Model.view options)
      (fun symbols => { symbols, view := { classes, constants } }) (reads_symbolBlock options)
      d.functions []
    rw [List.append_nil] at hsymbols
    refine reads_group .functions rfl hsymbols (fun _ => rfl) fun hempty => ?_
    simp [functions, hempty]
  exact (hfunctions.append hclasses).append hconstants

theorem reads_searchLine (r : Reading) : Reads searchLine r r := by
  rintro after rfl
  rfl

theorem reads_scriptLines (script : Option String) (r : Reading) :
    Reads (scriptLines script) r r := by
  unfold scriptLines
  rcases script with _ | source
  · exact Reads.nil r
  · simp only
    split
    · exact Reads.nil r
    · have hreference : Reads [element "a" [("href", ['#']),
          ("onclick", "symrefOpen(); return false;".toList)] [label "[Reference]"]] r r :=
        reads_data .other rfl _ r
      have hscript : Reads [element "script" [("src", source.toList)] []] r r :=
        reads_element .other rfl (Reads.nil r) fun _ => rfl
      exact (reads_element .other rfl hreference fun _ => rfl).line.append hscript.line

theorem reads_page (options : PageOptions) (d : Document) :
    Reads (page options d) {} { view := d.view options } := by
  have hsearch : Reads (if options.searchable then searchLine else [])
      { view := d.view options } { view := d.view options } := by
    split
    · exact reads_searchLine _
    · exact Reads.nil _
  have hcontent : Reads (pageContent options d) {} { view := d.view options } := by
    rw [pageContent, List.append_assoc, List.append_assoc, ← List.append_assoc (group _ _ _)]
    exact hsearch.newline_cons.append (reads_sections options d)
  have hpage : Reads (onLine (element "div" [("id", "symref".toList)] (pageContent options d)))
      {} { view := d.view options } :=
    (reads_element .other rfl hcontent fun _ => rfl).line
  exact hpage.append (reads_scriptLines options.scriptSource {})

theorem decode_render (options : PageOptions) (d : Document) :
    decode (d.render .html options) = d.view options := by
  have hwritten : (d.render .html options).toList = writeAll (page options d) :=
    String.toList_ofList
  rw [decode, hwritten, dissect_writeAll (wellNamedAll_page options d),
    reads_page options d ⟨[], []⟩ rfl]

end Html

/-- A constant of a document that was built has a definition and nothing else to be seen. -/
theorem constantView_of_build {includeAll : Bool} {inventory : Inventory} {d : Document}
    (h : Document.build includeAll inventory = .ok d) (options : PageOptions) {m : Model}
    (hm : m ∈ d.constants) :
    m.constantView = { m.view options with heading := String.ofList m.definition } := by
  obtain ⟨-, rfl⟩ := (Document.build_eq_ok_iff includeAll inventory d).mp h
  obtain ⟨entry, -, rfl⟩ := List.mem_map.mp hm
  have htags : (if options.showTags then Comment.empty.tags else []) = [] := ite_self []
  have hlocation : (if options.showLocations then (none : Option Location) else none) = none :=
    ite_self none
  have hview : (Model.mk (Symbol.constant entry.1 entry.2) Comment.empty []).view options =
      { kind := .constant, heading := entry.1 } := by
    change SymbolView.mk _ _ _ (if options.showTags then Comment.empty.tags else [])
      ((if options.showLocations then (none : Option Location) else none).bind Location.view?) = _
    rw [htags, hlocation]
    exact congrArg (SymbolView.mk .constant · "" [] none) (String.ofList_toList ..)
  rw [hview]
  rfl

/-- The HTML page of every document can be read back to the view of the document, so two documents
whose pages are the same under the same options have the same view. The view shows only the
definition of a constant, and in a document that was built this leaves nothing out. -/
theorem html_page_shows_view (options : PageOptions) :
    (∀ d : Document, Html.decode (d.render .html options) = d.view options) ∧
      (∀ d e : Document, d.render .html options = e.render .html options →
        d.view options = e.view options) ∧
      ∀ (includeAll : Bool) (inventory : Inventory) (d : Document),
        Document.build includeAll inventory = .ok d → ∀ m ∈ d.constants,
          m.constantView = { m.view options with heading := String.ofList m.definition } := by
  refine ⟨Html.decode_render options, fun d e hpage => ?_,
    fun _ _ _ hbuild _ hm => constantView_of_build hbuild options hm⟩
  calc
    d.view options = Html.decode (d.render .html options) := (Html.decode_render options d).symm
    _ = Html.decode (e.render .html options) := by rw [hpage]
    _ = e.view options := Html.decode_render options e

/-- A document of one function on one line of a file, whose last line may be left out. -/
def oneLineDocument (endLine : Option Int) : Document where
  functions := [.mk
    (.leaf { kind := .function, name := "a<b", location := some ⟨some "x: y", some 3, endLine⟩ })
    { description := "&lt;", tags := [⟨"see", "</dd>"⟩] } []]

/-- A last line that is left out cannot be told from one that is the first line again, and of a
constant that was built all is seen. -/
theorem html_page_shows_view_one_line :
    ((oneLineDocument none).render .html {} = (oneLineDocument (some 3)).render .html {} ∧
      (oneLineDocument none).view {} = (oneLineDocument (some 3)).view {}) ∧
    ∃ d m, Document.build false shelfInventory = .ok d ∧ m ∈ d.constants ∧
      m.constantView = { m.view {} with heading := "const LIMIT = 3" } := by
  have hbuild := (Document.build_eq_ok_iff false shelfInventory _).mpr
    ⟨shelfInventory_buildable false, rfl⟩
  have hconstants : (shelfInventory.document false).constants =
      [.mk (Symbol.constant "LIMIT" (.int 3)) Comment.empty []] := rfl
  have hmem := hconstants ▸ List.mem_singleton_self _
  obtain ⟨-, hsame, hconstant⟩ := html_page_shows_view {}
  exact ⟨⟨rfl, hsame _ _ rfl⟩, _, _, hbuild, hmem, hconstant false _ _ hbuild _ hmem⟩

/-- A document that was not built, with one symbol of some kind and description as a constant. -/
def constantDocument (kind : Kind) (description : String) : Document where
  constants := [.mk (.leaf { kind, name := "LIMIT", value := .int 3 }) { description } []]

/-- Of a constant that was not built the page shows neither the kind nor the description. -/
theorem html_page_hides_constant_description :
    (constantDocument .constant "").render .html {} =
      (constantDocument .function "An upper bound.").render .html {} ∧
    (constantDocument .constant "").constants.map (fun m => (m.kind, m.comment.description)) ≠
      (constantDocument .function "An upper bound.").constants.map
        (fun m => (m.kind, m.comment.description)) :=
  ⟨rfl, by decide⟩

end SymbolReference
