import DocViews.Proofs.Conversion.Account
import DocViews.Proofs.Conversion.Order
import DocViews.Proofs.Disk.Again

/-!
# Making views again

Views that are made once more on the disk that all of them have left come out as they did, and
nothing changes (`Conversion.makeViews_again`).  This holds of views and of failures alike, also
where some folders had been made before a view was refused.

One thing has to be excluded.  A path that ends in a point cannot be written, but why depends on
whether there is a folder in front of the point by then, and another document may have made it
(`Path.EndsInPoint`).
-/

set_option autoImplicit false

namespace DocViews

open Node FileSystem

/-! ## Paths that end in a point -/

namespace Path

/-- Whether the last segment of a path is a point, slashes at the end apart. -/
def EndsInPoint (path : Path) : Prop :=
  (path.segments.filter (· ≠ [])).getLast? = some ['.']

theorem filter_segments_withoutSlashes (path : Path) :
    (withoutSlashes path).segments.filter (· ≠ []) = path.segments.filter (· ≠ []) := by
  obtain ⟨text⟩ := path
  induction text using List.reverseRecOn with
  | nil => rfl
  | append_singleton text c ih =>
    by_cases hslash : c = '/'
    · subst hslash
      by_cases hne : text = []
      · subst hne
        rfl
      · have hsegments : (Path.mk (text ++ ['/'])).segments = (Path.mk text).segments ++ [[]] :=
          List.splitOn_append_cons_self text []
        rw [withoutSlashes_concat hne, ih, hsegments, List.filter_append]
        exact (List.append_nil _).symm
    · rw [withoutSlashes_of_ne (by simpa using hslash) (by simp)]

/-- Where there is no slash at the end, the last segment is not empty. -/
theorem getLast?_segments_ne_nil {path : Path} (htext : path.text ≠ [])
    (hlast : path.text.getLast? ≠ some '/') : path.segments.getLast? ≠ some [] := by
  intro hnil
  obtain ⟨front, hfront⟩ := List.getLast?_eq_some_iff.1 hnil
  have hjoin : List.intercalate ['/'] (List.splitOn '/' path.text) = path.text :=
    List.intercalate_splitOn '/'
  rw [show List.splitOn '/' path.text = front ++ [[]] from hfront] at hjoin
  by_cases hne : front = []
  · subst hne
    exact htext hjoin.symm
  · rw [Text.intercalate_concat hne, List.append_nil] at hjoin
    exact hlast (by rw [← hjoin]; simp)

/-- Without the slashes at its end, a path that does not end in a point ends in a segment that says
something. -/
theorem isSilent_getLast {path : Path} (hpoint : ¬ path.EndsInPoint)
    (htext : (withoutSlashes path).text ≠ [])
    (hslash : (withoutSlashes path).text.getLast? ≠ some '/') {last : Text}
    (hlast : (withoutSlashes path).segments.getLast? = some last) : isSilent last = false := by
  have hempty : last ≠ [] := fun hnil => getLast?_segments_ne_nil htext hslash (hnil ▸ hlast)
  have hhere : last ≠ ['.'] := by
    rintro rfl
    obtain ⟨front, hfront⟩ := List.getLast?_eq_some_iff.1 hlast
    refine hpoint ?_
    rw [EndsInPoint, ← filter_segments_withoutSlashes, hfront, List.filter_append]
    exact List.getLast?_concat
  simp [isSilent, hempty, hhere]

end Path

/-! ## Walks that miss nothing -/

/-- Down to a name it is some way. -/
theorem Place.below_along {segments : List Text} (hdown : ['.', '.'] ∉ segments)
    (hne : segments ≠ [])
    (hlast : ∀ segment, segments.getLast? = some segment → Path.isSilent segment = false)
    (place : Place) : Below place (place.along segments) := by
  induction segments generalizing place with
  | nil => exact absurd rfl hne
  | cons segment rest ih =>
    rw [List.mem_cons, not_or] at hdown
    rcases Path.segment_cases segment with hsilent | rfl | hname
    · rw [along_cons_of_none (by rw [Path.component?, if_pos hsilent])]
      refine ih hdown.2 ?_ (fun last h => hlast last (by rw [List.getLast?_cons, h]; rfl)) place
      rintro rfl
      exact absurd (hlast segment rfl) (by simp [hsilent])
    · exact absurd rfl hdown.1
    · rw [along_cons_of_some hname]
      obtain ⟨more, hmore⟩ := prefix_along hdown.2 (place ++ [segment])
      rw [Component.onward, ← hmore]
      exact ⟨by simp, by simp⟩

namespace FileSystem

/-- A walk down to a name misses nothing where there are folders all the way. -/
theorem walk_ne_notFound {tree : Node} (hlinks : tree.LinkFree) {segments : List Text}
    (hdown : ['.', '.'] ∉ segments)
    (hlast : ∀ segment, segments.getLast? = some segment → Path.isSilent segment = false)
    {place : Place}
    (hway : ∀ q, place <+: q → Place.Below q (place.along segments) →
      faceAt q tree = some emptyFolder) :
    walk tree segments place ≠ .error .notFound := by
  induction segments generalizing place with
  | nil => simp [walk, follow]
  | cons segment rest ih =>
    have hparent : segment ≠ ['.', '.'] := fun hp => hdown (hp ▸ List.mem_cons_self)
    have hrest : ['.', '.'] ∉ rest := fun hp => hdown (List.mem_cons_of_mem _ hp)
    have hend : ∀ last, rest.getLast? = some last → Path.isSilent last = false :=
      fun last h => hlast last (by rw [List.getLast?_cons, h]; rfl)
    by_cases hfolder : faceAt place tree = some emptyFolder
    · rcases Path.segment_cases segment with hsilent | hup | hname
      · rw [Place.along_cons_of_none (by rw [Path.component?, if_pos hsilent])] at hway
        rw [walk_silent hfolder hsilent]
        exact ih hrest hend hway
      · exact absurd hup hparent
      · rw [Place.along_cons_of_some hname, Component.onward] at hway
        rw [walk_name hlinks hfolder hname]
        split
        · simp
        · cases hface : faceAt (place ++ [segment]) tree with
          | none =>
            simp only
            split
            · simp
            · next hmore =>
              -- the name is on the way to the last one, so there is a folder
              have hthere := hway _ (List.prefix_append _ _)
                (Place.below_along hrest hmore hend (place ++ [segment]))
              rw [hface] at hthere
              cases hthere
          | some node =>
            exact ih hrest hend fun q hq => hway q ((List.prefix_append _ _).trans hq)
    · rw [walk_of_ne hfolder]
      simp

namespace Descent

variable {fs gs : FileSystem} {path : Path}

/-- Where the folders of a path are open, its last name is found or free, or it is too long. -/
theorem spot_ne_notFound (r : Descent fs path) (hpoint : ¬ path.EndsInPoint)
    (hopen : ∀ q, r.folder <+: q → q <+: r.folder ++ r.front →
      faceAt q fs.tree = some emptyFolder) (followLast : Bool) :
    fs.spot followLast (withoutSlashes path) ≠ .error .notFound := by
  obtain ⟨kept, hfolder, hplace, hslash⟩ := r.exists_withoutSlashes
  rw [kept.spot_eq]
  cases hfault : (withoutSlashes path).fault? with
  | some fault =>
    rcases fault?_cases hfault with rfl | rfl <;> simp
  | none =>
    refine walk_ne_notFound r.linkFree kept.noParent (fun last hlast => ?_) fun q hq hbelow => ?_
    · refine Path.isSilent_getLast hpoint kept.text_ne_nil hslash ?_
      rw [kept.segments, List.getLast?_append, hlast]
      rfl
    · rw [kept.along_down, hplace] at hbelow
      exact hopen q (hfolder ▸ hq) ((r.prefix_or_eq hbelow.1).resolve_right hbelow.2)

/-- A write changes nothing but the place of its path, whether it is refused or not. -/
theorem grown_write (r : Descent fs path) (content : FileContent) :
    Grown (· = r.place) fs.tree (change (·.write path content) fs).2.tree := by
  simp only [change]
  cases hwrite : fs.write path content with
  | error fault => exact .refl _ fs.tree
  | ok next =>
    obtain ⟨-, hold, hface⟩ := write_face r.linkFree hwrite
    rw [r.resolve_eq] at hold hface
    intro q
    by_cases hq : q = r.place
    · exact Or.inr (Or.inr ⟨hq, hq ▸ hold, content, (hface q).trans (if_pos hq)⟩)
    · exact Or.inl ((hface q).trans (if_neg hq))

/-- **A file that is written, or refused, below open folders is so again**, and nothing changes. -/
theorem write_again {written : Place → Prop} (r : Descent fs path) (hpoint : ¬ path.EndsInPoint)
    (hopen : ∀ q, r.folder <+: q → q <+: r.folder ++ r.front →
      faceAt q fs.tree = some emptyFolder) {content : FileContent}
    (hgrown : Grown written (change (·.write path content) fs).2.tree gs.tree)
    (hfolder : gs.workingFolder = fs.workingFolder) (hkept : ¬ written r.place) :
    change (·.write path content) gs = ((change (·.write path content) fs).1, gs) := by
  simp only [change] at hgrown ⊢
  cases hwrite : fs.write path content with
  | error fault =>
    rw [hwrite] at hgrown
    obtain ⟨kept, -, -, -⟩ := r.exists_withoutSlashes
    have hentry := r.spot_ne_notFound hpoint hopen false
    have hthere : fs.spot true path ≠ .error .notFound ∨ path.text.getLast? = some '/' := by
      by_cases hslash : path.text.getLast? = some '/'
      · exact Or.inr hslash
      · refine Or.inl ?_
        have hsame : withoutSlashes path = path := withoutSlashes_of_ne hslash r.text_ne_nil
        rw [← hsame]
        exact r.spot_ne_notFound hpoint hopen true
    rw [write_error_again hgrown hfolder (r.start ▸ Option.some_ne_none _)
      (kept.start ▸ Option.some_ne_none _) hthere hentry hwrite]
  | ok next =>
    rw [hwrite] at hgrown
    have hworking : next.workingFolder = fs.workingFolder := (write_shows hwrite).1
    have hlinks : next.tree.LinkFree := by
      obtain ⟨place, -, -, hnext⟩ := spot_of_write hwrite
      exact hnext.linkFree r.linkFree
    have hother : ∀ place, next.spot true path = .ok (.taken place) → ¬ written place := by
      intro place hspot
      have hplace : place = path.resolve next.workingFolder := spot_place hlinks hspot
      rwa [hplace, hworking, r.resolve_eq]
    rw [write_ok_again hwrite hgrown (hfolder.trans hworking.symm) hother]

end Descent

end FileSystem

namespace Conversion

/-! ## One view -/

section

variable {fs gs : FileSystem} {path : Path} {written : Place → Prop}

/-- Writing below folders makes folders, and a file at the place of the path. -/
theorem grown_writeBelow (r : Descent fs path) (text : Text) :
    Grown (· = r.place) fs.tree
      ((writeBelow path text : StateM FileSystem _).run fs).2.tree := by
  intro q
  rcases (writeBelow_face r text).2 q with hsame | ⟨hfree, hnew, -⟩ | hfile
  · exact Or.inl hsame
  · exact Or.inr (Or.inl ⟨hfree, hnew⟩)
  · exact Or.inr (Or.inr hfile)

/-- **What is written below folders is written again without a change.** -/
theorem writeBelow_again (r : Descent fs path) (hpoint : ¬ path.EndsInPoint) (text : Text)
    (hgrown : Grown written ((writeBelow path text : StateM FileSystem _).run fs).2.tree gs.tree)
    (hfolder : gs.workingFolder = fs.workingFolder) (hkept : ¬ written r.place) :
    (writeBelow path text : StateM FileSystem _).run gs
      = (((writeBelow path text : StateM FileSystem _).run fs).1, gs) := by
  have hall : Grown (fun q => q = r.place ∨ written q) fs.tree gs.tree :=
    ((grown_writeBelow r text).mono fun _ => Or.inl).trans (hgrown.mono fun _ => Or.inr)
  rw [run_writeBelow_of_descent r] at hgrown ⊢
  rw [run_writeBelow_of_grown r hall hfolder]
  cases hfault : (Path.down r.base r.front).fault? with
  | some fault => rfl
  | none =>
    rw [hfault] at hgrown
    simp only at hgrown ⊢
    cases hok : (fs.opened r.folder r.front).1 with
    | error fault =>
      rw [hok] at hgrown
      rw [opened_again r.isFolder hgrown, hok]
    | ok done =>
      rw [hok] at hgrown
      simp only at hgrown ⊢
      -- the folders have been there since before the file was written
      have hwrite : Grown (· = r.place) (fs.opened r.folder r.front).2.tree
          (change (·.write path (.text text)) (fs.opened r.folder r.front).2).2.tree :=
        (r.grown r.grown_opened rfl).grown_write (.text text)
      have hlater : Grown (fun q => q = r.place ∨ written q)
          (fs.opened r.folder r.front).2.tree gs.tree :=
        (hwrite.mono fun _ => Or.inl).trans (hgrown.mono fun _ => Or.inr)
      rw [opened_again r.isFolder hlater, hok]
      exact (r.grown r.grown_opened rfl).write_again hpoint
        (fun q => r.opened_folders hok) hgrown hfolder hkept

end

variable {settings : Settings} {rootNamespace : Text} {output : Path}

/-- **A view that has been made, or refused, is so again**, and nothing changes. -/
theorem makeView_again {written : Place → Prop} {fs gs : FileSystem} {d : Document}
    (h : d.stem ≠ []) (r : Descent fs (viewPath settings output d))
    (hpoint : ¬ (viewPath settings output d).EndsInPoint)
    (hgrown : Grown written
      ((makeView settings rootNamespace output d : StateM FileSystem _).run fs).2.tree gs.tree)
    (hfolder : gs.workingFolder = fs.workingFolder)
    (hread : gs.readText d.place = fs.readText d.place) (hkept : ¬ written r.place) :
    (makeView settings rootNamespace output d : StateM FileSystem _).run gs
      = (((makeView settings rootNamespace output d : StateM FileSystem _).run fs).1, gs) := by
  rw [run_makeView settings rootNamespace output h] at hgrown ⊢
  rw [run_makeView settings rootNamespace output h, hread]
  cases htext : fs.readText d.place with
  | error fault => rfl
  | ok text =>
    rw [htext] at hgrown
    simp only at hgrown ⊢
    cases hview : View.ofText settings rootNamespace d text with
    | error e => rfl
    | ok view =>
      rw [hview] at hgrown
      simp only at hgrown ⊢
      have hagain := @writeBelow_again fs gs _ written r hpoint view.text
      generalize (writeBelow (viewPath settings output d) view.text :
        StateM FileSystem _).run fs = first at hgrown hagain ⊢
      obtain ⟨answer, next⟩ := first
      cases answer with
      | error fault =>
        rw [hagain hgrown hfolder hkept]
      | ok done =>
        rw [hagain hgrown hfolder hkept]

/-! ## All views -/

/-- Documents whose views can be made again. -/
structure Repeatable (settings : Settings) (output : Path) (fs : FileSystem)
    (documents : List Document) : Prop where
  linkFree : fs.tree.LinkFree
  /-- The working folder is there. -/
  home : faceAt fs.workingFolder fs.tree = some emptyFolder
  down : ∀ d ∈ documents, d.stem ≠ [] → LeadsDown fs output (d.output settings.target.extension)
  point : ∀ d ∈ documents, d.stem ≠ [] → ¬ (viewPath settings output d).EndsInPoint
  /-- No two views are at the same place. -/
  different : documents.Pairwise fun d e => d.stem ≠ [] → e.stem ≠ [] →
    viewPlace settings output fs d ≠ viewPlace settings output fs e
  /-- The documents read the same while views are made. -/
  reads : ∀ gs : FileSystem, gs.workingFolder = fs.workingFolder →
    Grown (fun q => ∃ e ∈ documents, e.stem ≠ [] ∧ q = viewPlace settings output fs e)
      fs.tree gs.tree →
    ∀ d ∈ documents, gs.readText d.place = fs.readText d.place

variable {fs : FileSystem}

/-- What making a view changes, whether its document has a name or not. -/
theorem grown_makeView (rootNamespace : Text) {d : Document} {rest : List Document}
    (h : Repeatable settings output fs (d :: rest)) :
    ((makeView settings rootNamespace output d : StateM FileSystem _).run fs).2.workingFolder
        = fs.workingFolder ∧
      Grown (fun q => d.stem ≠ [] ∧ q = viewPlace settings output fs d) fs.tree
        ((makeView settings rootNamespace output d : StateM FileSystem _).run fs).2.tree := by
  by_cases hstem : d.stem = []
  · rw [run_makeView_nameless settings rootNamespace output hstem]
    exact ⟨rfl, .refl _ fs.tree⟩
  · obtain ⟨r⟩ := exists_descent h.linkFree h.home settings d (h.down d List.mem_cons_self hstem)
    obtain ⟨hfolder, hface⟩ := makeView_face settings rootNamespace output hstem r
    refine ⟨hfolder, fun q => ?_⟩
    rcases hface q with hsame | ⟨hfree, hnew, -⟩ | ⟨hq, hold, hnew⟩
    · exact Or.inl hsame
    · exact Or.inr (Or.inl ⟨hfree, hnew⟩)
    · exact Or.inr (Or.inr ⟨⟨hstem, hq.trans r.resolve_eq.symm⟩, hold, hnew⟩)

namespace Repeatable

/-- Behind the first document, the others can be made again. -/
theorem tail {d : Document} {rest : List Document}
    (h : Repeatable settings output fs (d :: rest)) (rootNamespace : Text) :
    Repeatable settings output
      ((makeView settings rootNamespace output d : StateM FileSystem _).run fs).2 rest := by
  obtain ⟨hfolder, hgrown⟩ := grown_makeView rootNamespace h
  generalize ((makeView settings rootNamespace output d : StateM FileSystem _).run fs).2 = next
    at hfolder hgrown ⊢
  have hplace : ∀ e, viewPlace settings output next e = viewPlace settings output fs e :=
    fun e => by rw [viewPlace, viewPlace, hfolder]
  have hmem : ∀ e ∈ rest, e ∈ d :: rest := fun e he => List.mem_cons_of_mem d he
  have hall : Grown
      (fun q => ∃ e ∈ d :: rest, e.stem ≠ [] ∧ q = viewPlace settings output fs e)
      fs.tree next.tree := hgrown.mono fun q hq => ⟨d, List.mem_cons_self, hq⟩
  refine ⟨hgrown.linkFree h.linkFree, hfolder ▸ hgrown.folder h.home, fun e he hstem => ?_,
    fun e he => h.point e (hmem e he), ?_, fun gs hgs hlater e he => ?_⟩
  · obtain ⟨hpath, hroot⟩ := h.down e (hmem e he) hstem
    exact ⟨hpath, fun hup => isFolder_grown hgrown hfolder (hroot hup)⟩
  · simpa only [hplace] using (List.pairwise_cons.1 h.different).2
  · simp only [hplace] at hlater
    have htotal := hall.trans (hlater.mono fun q ⟨e, he, hq⟩ => ⟨e, hmem e he, hq⟩)
    rw [h.reads gs (hgs.trans hfolder) htotal e (hmem e he),
      h.reads next hfolder hall e (hmem e he)]

end Repeatable

/-- The views of documents are files at their places, and folders. -/
theorem grown_makeViews (rootNamespace : Text) {documents : List Document}
    (h : Repeatable settings output fs documents) :
    ((makeViews settings rootNamespace output documents : StateM FileSystem _).run fs).2.workingFolder
        = fs.workingFolder ∧
      Grown (fun q => ∃ e ∈ documents, e.stem ≠ [] ∧ q = viewPlace settings output fs e) fs.tree
        ((makeViews settings rootNamespace output documents : StateM FileSystem _).run fs).2.tree := by
  induction documents generalizing fs with
  | nil => exact ⟨rfl, .refl _ fs.tree⟩
  | cons d rest ih =>
    obtain ⟨hfolder, hgrown⟩ := grown_makeView rootNamespace h
    obtain ⟨hlast, hlater⟩ := ih (h.tail rootNamespace)
    rw [run_makeViews_cons]
    refine ⟨hlast.trans hfolder, (hgrown.mono fun q hq => ⟨d, List.mem_cons_self, hq⟩).trans
      (hlater.mono ?_)⟩
    rintro q ⟨e, he, hstem, rfl⟩
    exact ⟨e, List.mem_cons_of_mem d he, hstem, by rw [viewPlace, viewPlace, hfolder]⟩

/-- Every document has the same result on the disk that all of them leave, and changes nothing
there.  The induction is on the documents; those behind the first one write at other places. -/
theorem makeView_last (rootNamespace : Text) {documents : List Document}
    (h : Repeatable settings output fs documents) :
    let made := (makeViews settings rootNamespace output documents : StateM FileSystem _).run fs
    ∀ result ∈ made.1, (makeView settings rootNamespace output result.1 :
      StateM FileSystem _).run made.2 = (result.2, made.2) := by
  induction documents generalizing fs with
  | nil => exact fun result hresult => absurd hresult List.not_mem_nil
  | cons d rest ih =>
    intro made result hresult
    have hmade : made = _ := run_makeViews_cons settings rootNamespace output d rest fs
    rw [hmade] at hresult ⊢
    rcases List.mem_cons.1 hresult with rfl | hresult
    · by_cases hstem : d.stem = []
      · simp only [run_makeView_nameless settings rootNamespace output hstem]
      · obtain ⟨hfolder, hgrown⟩ := grown_makeView rootNamespace h
        obtain ⟨hlast, hlater⟩ := grown_makeViews rootNamespace (h.tail rootNamespace)
        obtain ⟨r⟩ :=
          exists_descent h.linkFree h.home settings d (h.down d List.mem_cons_self hstem)
        have hplace : ∀ e, viewPlace settings output
            ((makeView settings rootNamespace output d : StateM FileSystem _).run fs).2 e
            = viewPlace settings output fs e := fun e => by rw [viewPlace, viewPlace, hfolder]
        simp only [hplace] at hlater
        refine makeView_again hstem r (h.point d List.mem_cons_self hstem) hlater
          (hlast.trans hfolder) ?_ ?_
        · refine h.reads _ (hlast.trans hfolder) ?_ d List.mem_cons_self
          exact (hgrown.mono fun q hq => ⟨d, List.mem_cons_self, hq⟩).trans
            (hlater.mono fun q ⟨e, he, hq⟩ => ⟨e, List.mem_cons_of_mem d he, hq⟩)
        · rintro ⟨e, he, hestem, hsame⟩
          have hne := (List.pairwise_cons.1 h.different).1 e he hstem hestem
          exact hne (r.resolve_eq.trans hsame)
    · exact ih (h.tail rootNamespace) result hresult

/-- Views that each keep the disk keep it one after another. -/
theorem run_makeViews_of_kept {results : List (Document × Except DocumentError GeneratedFile)}
    (h : ∀ result ∈ results, (makeView settings rootNamespace output result.1 :
      StateM FileSystem _).run fs = (result.2, fs)) :
    (makeViews settings rootNamespace output (results.map Prod.fst) : StateM FileSystem _).run fs
      = (results, fs) := by
  induction results with
  | nil => rfl
  | cons result rest ih =>
    rw [List.map_cons, run_makeViews_cons, h result List.mem_cons_self,
      ih fun other hother => h other (List.mem_cons_of_mem _ hother)]

/-- **Views that are made again come out as they did**, and nothing changes. -/
theorem makeViews_again (rootNamespace : Text) {documents : List Document}
    (h : Repeatable settings output fs documents) :
    let made := (makeViews settings rootNamespace output documents : StateM FileSystem _).run fs
    (makeViews settings rootNamespace output documents : StateM FileSystem _).run made.2
      = (made.1, made.2) := by
  intro made
  have hkept := run_makeViews_of_kept (makeView_last rootNamespace h)
  rwa [map_fst_makeViews] at hkept

end Conversion
end DocViews
