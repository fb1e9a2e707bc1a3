import DocViews.Proofs.Catalogue.Outputs
import DocViews.Proofs.Conversion.Account
import DocViews.Proofs.Frontmatter.Shape
import DocViews.Proofs.ViewSource.Method

/-!
# Documents without text

A document is *metadata only* if nothing but blanks stands outside its metadata block.  The report
says so of a document exactly when it is so, and exactly when the file that has been written builds
nothing (`Conversion.metadataOnly_exact`); in every other case the view is built around a text that
begins and ends with a line that is not blank.  So no view is ever built around a blank text.

The file is read back from the disk, behind the frame that the settings fix, and the settings may
have any names.
-/

set_option autoImplicit false

namespace DocViews

/-- What stands outside the metadata block of a document. -/
def Frontmatter.outside (source : Text) : Text :=
  match find? source with
  | none => source
  | some block => block.remainder

/-- The body of a document is made of what stands outside its block. -/
theorem Content.body_of_ofSource {source : Text} {content : Content}
    (h : ofSource source = .ok content) :
    content.body = Body.ofSource (Frontmatter.outside source) := by
  rw [ofSource] at h
  rw [Frontmatter.outside]
  cases hfind : Frontmatter.find? source with
  | none =>
    rw [hfind] at h
    rw [← Except.ok.inj h]
  | some block =>
    rw [hfind] at h
    simp only at h ⊢
    cases hmetadata : Metadata.ofText (Frontmatter.innerText block.raw) with
    | error problem => rw [hmetadata] at h; exact absurd h (by simp)
    | ok metadata =>
      rw [hmetadata] at h
      rw [← Except.ok.inj h]

namespace Conversion

/-- **The documents without text are the ones whose views build nothing.**  Whatever the disk, the
settings and the document are: if a view has been made, then the report calls the document metadata
only exactly when all that stands outside its block is blank, and exactly when the method of the
written file builds nothing.  A text that is built is not blank in its first nor in its last line. -/
theorem metadataOnly_exact {settings : Settings} {rootNamespace : Text} {output : Path}
    {d : Document} {fs : FileSystem} {file : GeneratedFile}
    (h : ((makeView settings rootNamespace output d : StateM FileSystem _).run fs).1 = .ok file) :
    ∃ text content statement built,
      fs.readText d.place = .ok text ∧
      Content.ofSource (Body.stripMark text) = .ok content ∧
      ((makeView settings rootNamespace output d : StateM FileSystem _).run fs).2.readText
          (output.join file.output)
        = .ok (ViewSource.frame settings.target file.nameSpace file.className file.order
            content.metadata ++ statement) ∧
      ViewSource.readBuilt? settings.target.viewType statement = some built ∧
      (file.metadataOnly = true ↔
        Text.isBlankText (Frontmatter.outside (Body.stripMark text)) = true) ∧
      (file.metadataOnly = true ↔ built = none) ∧
      ∀ body, built = some body → body ≠ [] ∧ Body.IsTrimmed body := by
  obtain ⟨text, view, hread, hview, rfl, hwritten⟩ :=
    exists_view_of_makeView settings rootNamespace output h
  obtain ⟨content, hcontent, -, rfl⟩ := View.ofText_eq_ok_iff.1 hview
  obtain ⟨statement, hwrite, hbuilt⟩ := ViewSource.exists_readBuilt?_write settings.target
    (fullNamespace rootNamespace settings.target.appsSegment d.location.namespaceSuffix)
    d.className (View.ofContent settings rootNamespace d content).file.order content.metadata
    content.body
  have hbody := Content.body_of_ofSource hcontent
  have honly : (View.ofContent settings rootNamespace d content).file.metadataOnly = true
      ↔ content.body = [] := List.isEmpty_iff
  refine ⟨text, content, statement, _, hread, hcontent, ?_, hbuilt, ?_, ?_, ?_⟩
  · rw [hwritten]
    exact congrArg Except.ok hwrite
  · rw [honly, hbody, Body.ofSource_eq_nil_iff]
  · rw [honly]
    by_cases hempty : content.body = [] <;> simp [hempty]
  · intro body hsome
    by_cases hempty : content.body = []
    · rw [if_pos hempty] at hsome
      exact absurd hsome (by simp)
    · rw [if_neg hempty] at hsome
      obtain rfl : content.body = body := Option.some.inj hsome
      refine ⟨hempty, ?_⟩
      rw [hbody] at hempty ⊢
      exact Body.isTrimmed_ofSource hempty

/-- A byte order mark, carriage returns, and a line with a no-break space behind the block. -/
theorem metadataOnly_exact_landing :
    let fs := Catalogue.docsDisk [("Landing.md".toList,
      .file (.text "\ufeff---\r\ntitle: Landing\r\n---\r\n\u00a0\r\n".toList))]
    let file : GeneratedFile := ⟨⟨"Landing.md".toList⟩, ⟨"Landing.g.cs".toList⟩, "App.Apps".toList,
      "LandingApp".toList, 0, true⟩
    ((makeView {} "App".toList ⟨"Views".toList⟩ (Catalogue.docsDocument "Landing.md") :
        StateM FileSystem _).run fs).1 = .ok file ∧
      Text.isBlankText (Frontmatter.outside
        "---\r\ntitle: Landing\r\n---\r\n\u00a0\r\n".toList) = true := by
  intro fs file
  have hmade : ((makeView {} "App".toList ⟨"Views".toList⟩ (Catalogue.docsDocument "Landing.md") :
      StateM FileSystem _).run fs).1 = .ok file := by decide +kernel
  have hread : fs.readText (Catalogue.docsDocument "Landing.md").place
      = .ok "\ufeff---\r\ntitle: Landing\r\n---\r\n\u00a0\r\n".toList := by decide +kernel
  have hmark : Body.stripMark "\ufeff---\r\ntitle: Landing\r\n---\r\n\u00a0\r\n".toList
      = "---\r\ntitle: Landing\r\n---\r\n\u00a0\r\n".toList := by decide +kernel
  obtain ⟨text, content, statement, built, htext, -, -, -, hblank, -, -⟩ := metadataOnly_exact hmade
  obtain rfl : _ = text := Except.ok.inj (hread.symm.trans htext)
  rw [hmark] at hblank
  exact ⟨hmade, hblank.1 rfl⟩

end Conversion
end DocViews
