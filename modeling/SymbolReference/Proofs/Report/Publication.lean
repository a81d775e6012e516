import SymbolReference.Proofs.Document.Assembly
import SymbolReference.Proofs.Files
import SymbolReference.Report.Basic

namespace SymbolReference

/-- The bytes of the file at a path. Texts are kept in UTF-8. -/
def Files.bytes (files : Files) (path : String) : Except FileError ByteArray :=
  (files.read path).map String.toUTF8

theorem Files.Written.bytes {files later : Files} {path text : String}
    (h : Files.Written files later path text) : later.bytes path = .ok text.toUTF8 := by
  rw [Files.bytes, h.read]
  rfl

namespace Report

section Publish

variable (s : Settings) (files : Files) (requested path : Option String)
  (inventory : Option Inventory)

variable {s files requested inventory}

-- `delta`, since the equation of `publish` is proved by running `Files.write`.
theorem publish_of_error {f : Failure} (h : generate s requested inventory = .error f) :
    publish s files requested path inventory = (files, .error (.failure f)) := by
  delta publish
  simp only [h]

theorem publish_none {text : String} (h : generate s requested inventory = .ok text) :
    publish s files requested none inventory = (files, .ok text) := by
  delta publish
  simp only [h]

theorem publish_some {text target : String} {later : Files} {written : Except FileError Unit}
    (h : generate s requested inventory = .ok text)
    (hwrite : files.write (normalPath target) text = (later, written)) :
    publish s files requested (some target) inventory =
      (later, (written.mapError .file).map fun _ => text) := by
  delta publish
  simp only [h, hwrite]
  cases written with
  | error e => rfl
  | ok _ => rfl

variable (s files requested inventory)

/-- How publishing can end: without a text, with a text that is not to be written, or with one that
is written or cannot be. -/
theorem publish_cases :
    (∃ f, generate s requested inventory = .error f ∧
      publish s files requested path inventory = (files, .error (.failure f))) ∨
    ∃ text, generate s requested inventory = .ok text ∧
      (path = none ∧ publish s files requested path inventory = (files, .ok text) ∨
      ∃ target later, path = some target ∧
        (files.write (normalPath target) text = (later, .ok ()) ∧
          publish s files requested path inventory = (later, .ok text) ∨
        ∃ e, files.write (normalPath target) text = (later, .error e) ∧
          publish s files requested path inventory = (later, .error (.file e)))) := by
  rcases hgenerate : generate s requested inventory with f | text
  · exact Or.inl ⟨f, rfl, publish_of_error path hgenerate⟩
  · refine Or.inr ⟨text, rfl, ?_⟩
    cases path with
    | none => exact Or.inl ⟨rfl, publish_none hgenerate⟩
    | some target =>
        rcases hwrite : files.write (normalPath target) text with ⟨later, e | _⟩
        · exact Or.inr ⟨target, later, rfl, Or.inr ⟨e, hwrite, publish_some hgenerate hwrite⟩⟩
        · exact Or.inr ⟨target, later, rfl, Or.inl ⟨hwrite, publish_some hgenerate hwrite⟩⟩

end Publish

/-- Publishing a report. It fails for its symbols, its format or a number exactly if no text can be
generated, and then no file or directory is new or different. If it succeeds, then without a path it
returns the same text and changes nothing; with a path the file there holds the text in UTF-8, and
whatever else was there is unchanged. -/
theorem publish_writes_what_it_returns (s : Settings) (files : Files)
    (requested path : Option String) (inventory : Option Inventory) :
    let published := publish s files requested path inventory
    (∀ f, published.2 = .error (.failure f) ↔ generate s requested inventory = .error f) ∧
    (∀ f, published.2 = .error (.failure f) → published.1 = files) ∧
    ∀ text, published.2 = .ok text →
      publish s files requested none inventory = (files, .ok text) ∧
      ∀ target, path = some target →
        published.1.bytes (normalPath target) = .ok text.toUTF8 ∧
        Files.Written files published.1 (normalPath target) text := by
  rcases publish_cases s files requested path inventory with ⟨f, hgenerate, hpublish⟩ |
    ⟨text, hgenerate, ⟨rfl, hpublish⟩ |
      ⟨target, later, rfl, ⟨hwrite, hpublish⟩ | ⟨e, -, hpublish⟩⟩⟩
  · simp [hgenerate, hpublish]
  · simp [hgenerate, hpublish]
  · have hnone : publish s files requested none inventory = (files, .ok text) :=
      publish_none hgenerate
    have hwritten := Files.written_of_write hwrite
    simp [hgenerate, hpublish, hnone, hwritten, hwritten.bytes]
  · simp [hgenerate, hpublish]

theorem build_shelf : build {} (some shelfInventory) = .ok (shelfInventory.document false) := by
  have hbuild : Document.build false shelfInventory = .ok (shelfInventory.document false) :=
    (Document.build_eq_ok_iff false shelfInventory _).mpr ⟨shelfInventory_buildable false, rfl⟩
  rw [build, Document.build?, hbuild]
  rfl

/-- The report has a text that a file can hold. -/
theorem generate_shelf : ∃ text, generate {} none (some shelfInventory) = .ok text ∧
    Files.textError? text = none := by
  have hdocument : shelfInventory.document false = {
      functions := placedByName ((shelfInventory.retainedFunctions false).map Symbol.plainModel)
      classes := placedByName ((shelfInventory.retainedClasses false).map fun c =>
        .mk c (commentOf c) (placedByName
          ((c.retainedMethods false).map fun m => (m.withOwner c.name).plainModel)))
      constants := [.mk (Symbol.constant "LIMIT" (.int 3)) Comment.empty []]
      includeAll := false } := by
    rw [← sortedByName_eq_placedByName]
    rfl
  have hwritable : (shelfInventory.document false).isWritable {} = true := by
    rw [hdocument]
    decide +kernel
  have hrender : renderDocument? .html {} (some (shelfInventory.document false)) =
      .ok ((shelfInventory.document false).render .html {}) := if_pos hwritable
  refine ⟨(shelfInventory.document false).render .html {}, ?_, ?_⟩
  · rw [generate, build_shelf]
    exact hrender
  · refine Files.textError?_ofList ?_
    rw [hdocument]
    decide +kernel

/-- A report in a directory that has to be made, and one in a format that is not known. -/
theorem publish_writes_what_it_returns_shelf :
    (∃ text later, publish {} {} none (some "docs/api.html") (some shelfInventory) =
        (later, .ok text) ∧
      later.bytes "docs/api.html" = .ok text.toUTF8) ∧
    ∃ f, publish {} {} (some "pdf") (some "docs/api.html") (some shelfInventory) =
      ({}, .error (.failure f)) := by
  constructor
  · have hpath : normalPath "docs/api.html" = "docs/api.html" := by decide +kernel
    obtain ⟨text, hgenerate, hfree⟩ := generate_shelf
    have hok : (Files.write {} (normalPath "docs/api.html") text).2 = .ok () := by
      rw [hpath, Files.snd_write_of_textError? hfree]
      with_unfolding_all rfl
    rcases hwrite : Files.write {} (normalPath "docs/api.html") text with ⟨later, e | _⟩
    · rw [hwrite] at hok
      cases hok
    have hpublish := publish_some hgenerate hwrite
    have hresult := publish_writes_what_it_returns {} {} none (some "docs/api.html")
      (some shelfInventory)
    rw [hpublish] at hresult
    have hbytes := ((hresult.2.2 text rfl).2 _ rfl).1
    rw [hpath] at hbytes
    exact ⟨text, later, hpublish, hbytes⟩
  · have hgenerate : ∃ f, generate {} (some "pdf") (some shelfInventory) = .error f := by
      rw [generate, build_shelf]
      exact ⟨_, rfl⟩
    obtain ⟨f, hgenerate⟩ := hgenerate
    have hresult := publish_writes_what_it_returns {} {} (some "pdf") (some "docs/api.html")
      (some shelfInventory)
    have hfault := (hresult.1 f).mpr hgenerate
    exact ⟨f, Prod.ext (hresult.2.1 f hfault) hfault⟩

end Report

end SymbolReference
