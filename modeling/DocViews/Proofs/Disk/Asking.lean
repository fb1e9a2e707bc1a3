import DocViews.Disk.Basic

/-!
# Asking a disk

What a step that only asks the disk does to a run over `FileSystem`: the answer is about the disk as
it is, and the run goes on with the same disk.  A program *asks only* if it leaves every disk as it
is (`FileSystem.AsksOnly`).  The operations that read do, and so does what is put together from
programs that do.
-/

set_option autoImplicit false

namespace DocViews
namespace FileSystem

section

/-- A run goes on with the answer and the disk that its first step leaves. -/
theorem run_bind {α β : Type} (program : StateM FileSystem α) (next : α → StateM FileSystem β)
    (fs : FileSystem) :
    (program >>= next).run fs = (next (program.run fs).1).run (program.run fs).2 :=
  rfl

variable (path : Path)

/-- A run that asks the disk goes on with the answer and the same disk. -/
theorem run_ask_bind {α β : Type} (fs : FileSystem) (question : FileSystem → α)
    (next : α → StateM FileSystem β) :
    (ask question >>= next).run fs = (next (question fs)).run fs :=
  rfl

theorem isFolder_eq_ask : (Disk.isFolder path : StateM FileSystem Bool) = ask (·.isFolder path) :=
  rfl

theorem canonical_eq_ask :
    (Disk.canonical path : StateM FileSystem _) = ask (·.canonical path) :=
  rfl

theorem filesIn_eq_ask :
    (Disk.filesIn path : StateM FileSystem _) = ask (·.filesIn path) :=
  rfl

theorem filesBelow_eq_ask :
    (Disk.filesBelow path : StateM FileSystem _) = ask (·.filesBelow path) :=
  rfl

theorem workingFolder_eq_ask :
    (Disk.workingFolder : StateM FileSystem Path) = ask fun fs => Path.ofPlace fs.workingFolder :=
  rfl

theorem readText_eq_ask :
    (Disk.readText path : StateM FileSystem _) = ask (·.readText path) :=
  rfl

end

/-! ## Programs that only ask -/

/-- A program that changes no disk. -/
def AsksOnly {α : Type} (program : StateM FileSystem α) : Prop :=
  ∀ fs, (program.run fs).2 = fs

namespace AsksOnly

variable {α β : Type}

theorem pure (value : α) : AsksOnly (Pure.pure value) :=
  fun _ => rfl

theorem ask (question : FileSystem → α) : AsksOnly (FileSystem.ask question) :=
  fun _ => rfl

theorem bind {program : StateM FileSystem α} {next : α → StateM FileSystem β}
    (h : AsksOnly program) (hnext : ∀ value, AsksOnly (next value)) :
    AsksOnly (program >>= next) := by
  intro fs
  rw [run_bind, h fs]
  exact hnext _ fs

theorem isFile (path : Path) : AsksOnly (Disk.isFile path) :=
  ask _

theorem readText (path : Path) : AsksOnly (Disk.readText path) :=
  ask _

theorem canonical (path : Path) : AsksOnly (Disk.canonical path) :=
  ask _

theorem filesIn (path : Path) : AsksOnly (Disk.filesIn path) :=
  ask _

end AsksOnly

end FileSystem
end DocViews
