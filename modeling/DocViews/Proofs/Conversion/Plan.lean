import DocViews.Conversion.Run
import DocViews.Proofs.Catalogue.Scan

/-!
# Planning changes nothing

Everything that can stop a run before its output folder is made is found out by asking: the
settings, the project and the catalogue are read off the disk, and the disk stays as it is
(`Conversion.asksOnly_plan`).
-/

set_option autoImplicit false

namespace DocViews

open FileSystem (AsksOnly)

namespace Settings

theorem asksOnly_loadFile (path : Path) : AsksOnly (loadFile path) := by
  refine (AsksOnly.readText path).bind fun answer => ?_
  cases answer with
  | error fault => exact .pure _
  | ok text =>
    simp only
    cases ofText text with
    | ok settings => exact .pure _
    | error e => exact .pure _

theorem run_loadFile (fs : FileSystem) (path : Path) :
    ((loadFile path : StateM FileSystem _).run fs).1
      = match fs.readText path with
        | .error fault => .error (.disk fault)
        | .ok text =>
          match ofText text with
          | .error e => .error (.settings e)
          | .ok settings => .ok settings := by
  rw [loadFile, FileSystem.readText_eq_ask, FileSystem.run_ask_bind]
  cases fs.readText path with
  | error fault => rfl
  | ok text =>
    simp only
    cases ofText text <;> rfl

theorem asksOnly_load (root : Path) : AsksOnly (load root) := by
  refine (AsksOnly.isFile _).bind fun there => ?_
  cases there with
  | true => exact asksOnly_loadFile _
  | false =>
    simp only [Bool.false_eq_true, if_false]
    cases resolve [] with
    | ok settings => exact .pure _
    | error e => exact .pure _

end Settings

namespace Project

theorem asksOnly_read (descriptor : Path) : AsksOnly (read descriptor) := by
  refine (AsksOnly.readText descriptor).bind fun answer => ?_
  cases answer <;> exact .pure _

theorem run_read (fs : FileSystem) (descriptor : Path) :
    ((read descriptor : StateM FileSystem _).run fs).1
      = match fs.readText descriptor with
        | .error fault => .error (.disk fault)
        | .ok text => ofDescriptor descriptor text := by
  rw [read, FileSystem.readText_eq_ask, FileSystem.run_ask_bind]
  cases fs.readText descriptor <;> rfl

/-- The induction is on the folders that are still to be searched. -/
theorem asksOnly_findDescriptor? (extension : Text) (folders : List Path) :
    AsksOnly (findDescriptor? extension folders) := by
  induction folders with
  | nil => exact .pure _
  | cons folder above ih =>
    refine (AsksOnly.filesIn folder).bind fun answer => ?_
    cases answer with
    | error fault => exact .pure _
    | ok names =>
      simp only
      cases onlyDescriptor? extension names with
      | some name => exact .pure _
      | none => exact ih

theorem asksOnly_locate (start : Path) (extension : Text) : AsksOnly (locate start extension) := by
  refine (AsksOnly.canonical start).bind fun answer => ?_
  cases answer with
  | error fault => exact .pure _
  | ok start =>
    refine (asksOnly_findDescriptor? extension _).bind fun found => ?_
    cases found with
    | error fault => exact .pure _
    | ok descriptor =>
      cases descriptor with
      | none => exact .pure _
      | some path => exact asksOnly_read path

end Project

theorem Catalogue.asksOnly_scan (input : InputPattern) (conventions : Conventions)
    (extension : Text) : AsksOnly (scan input conventions extension) :=
  fun fs => congrArg Prod.snd (run_scan fs input conventions extension)

namespace Conversion

theorem asksOnly_loadSettings (request : Request) (root : Path) :
    AsksOnly (loadSettings request root) := by
  rw [loadSettings]
  split
  · exact Settings.asksOnly_loadFile _
  · exact Settings.asksOnly_load root

theorem asksOnly_findProject (request : Request) (root : Path) (extension : Text) :
    AsksOnly (findProject request root extension) := by
  rw [findProject]
  split
  · exact Project.asksOnly_read _
  · exact Project.asksOnly_locate root extension

/-- **Planning changes nothing**, whether it succeeds or not. -/
theorem asksOnly_plan (request : Request) : AsksOnly (plan request) := by
  rw [plan]
  cases InputPattern.ofText request.pattern with
  | error e => exact .pure _
  | ok input =>
    refine (asksOnly_loadSettings request input.root).bind fun loaded => ?_
    cases loaded with
    | error e => exact .pure _
    | ok settings =>
      refine (asksOnly_findProject request input.root settings.descriptorExtension).bind
        fun project => ?_
      cases project with
      | error e => exact .pure _
      | ok project =>
        refine (Catalogue.asksOnly_scan input settings.conventions
          settings.target.extension).bind fun documents => ?_
        cases documents <;> exact .pure _

/-- The answers that a plan is made of are all about the disk as it is. -/
theorem run_plan (request : Request) (fs : FileSystem) :
    ((plan request : StateM FileSystem _).run fs).1
      = match InputPattern.ofText request.pattern with
        | .error e => .error (.input e)
        | .ok input =>
          match ((loadSettings request input.root : StateM FileSystem _).run fs).1 with
          | .error e => .error (.settings e)
          | .ok settings =>
            match ((findProject request input.root settings.descriptorExtension :
              StateM FileSystem _).run fs).1 with
            | .error e => .error (.project e)
            | .ok project =>
              match Catalogue.found fs input settings.conventions settings.target.extension with
              | .error e => .error (.scan e)
              | .ok documents => .ok ⟨settings, project, documents⟩ := by
  rw [plan]
  cases InputPattern.ofText request.pattern with
  | error e => rfl
  | ok input =>
    simp only
    rw [FileSystem.run_bind, asksOnly_loadSettings request input.root fs]
    cases ((loadSettings request input.root : StateM FileSystem _).run fs).1 with
    | error e => rfl
    | ok settings =>
      simp only
      rw [FileSystem.run_bind,
        asksOnly_findProject request input.root settings.descriptorExtension fs]
      cases ((findProject request input.root settings.descriptorExtension :
        StateM FileSystem _).run fs).1 with
      | error e => rfl
      | ok project =>
        simp only
        rw [FileSystem.run_bind, Catalogue.run_scan]
        cases Catalogue.found fs input settings.conventions settings.target.extension <;> rfl

theorem plan_eq_ok_iff {request : Request} {fs : FileSystem} {made : Plan} :
    ((plan request : StateM FileSystem _).run fs).1 = .ok made ↔
      ∃ input, InputPattern.ofText request.pattern = .ok input ∧
        ((loadSettings request input.root : StateM FileSystem _).run fs).1 = .ok made.settings ∧
        ((findProject request input.root made.settings.descriptorExtension :
          StateM FileSystem _).run fs).1 = .ok made.project ∧
        Catalogue.found fs input made.settings.conventions made.settings.target.extension
          = .ok made.documents := by
  rw [run_plan]
  constructor
  · intro h
    split at h
    · exact nomatch h
    · next input hinput =>
      split at h
      · exact nomatch h
      · next settings hsettings =>
        split at h
        · exact nomatch h
        · next project hproject =>
          split at h
          · exact nomatch h
          · next documents hdocuments =>
            obtain rfl := Except.ok.inj h
            exact ⟨input, hinput, hsettings, hproject, hdocuments⟩
  · rintro ⟨input, hinput, hsettings, hproject, hdocuments⟩
    simp only [hinput, hsettings, hproject, hdocuments]

end Conversion
end DocViews
