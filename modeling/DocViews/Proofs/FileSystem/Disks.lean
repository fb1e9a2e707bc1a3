import DocViews.Proofs.FileSystem.Places

/-!
# Disks that carry what is known of them

A `FileSystem` is any tree with any place.  Of a disk more is known: its tree is tidy, and unless the
working folder has been removed, it is there.  A theorem that needs one of these facts is about a
disk that carries it.
-/

set_option autoImplicit false

namespace DocViews

open Node

/-- A disk with a tidy tree. -/
structure TidyDisk extends FileSystem where
  tidy : tree.isTidy = true

/-- A disk whose working folder is there. -/
structure HomeDisk extends FileSystem where
  home : faceAt workingFolder tree = some emptyFolder

/-- A tidy disk whose working folder is there. -/
structure ReadyDisk extends TidyDisk, HomeDisk

instance : CoeOut TidyDisk FileSystem := ⟨TidyDisk.toFileSystem⟩

instance : CoeOut HomeDisk FileSystem := ⟨HomeDisk.toFileSystem⟩

instance : CoeOut ReadyDisk TidyDisk := ⟨ReadyDisk.toTidyDisk⟩

instance : CoeOut ReadyDisk HomeDisk := ⟨ReadyDisk.toHomeDisk⟩

instance : CoeOut ReadyDisk FileSystem := ⟨fun fs => fs.toFileSystem⟩

/-- A path can be written from the names on the way to the working folder. -/
theorem ReadyDisk.isName_workingFolder (fs : ReadyDisk) :
    ∀ name ∈ fs.workingFolder, Path.IsName name :=
  isName_of_faceAt fs.tidy (fs.home ▸ Option.some_ne_none _)

end DocViews
