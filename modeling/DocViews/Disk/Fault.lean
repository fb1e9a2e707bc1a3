import DocViews.Text.Basic

/-!
# What a disk refuses

The reasons for which reading or writing a file fails.
-/

set_option autoImplicit false

namespace DocViews

inductive DiskFault where
  | notFound
  | notAFolder
  | isAFolder
  | alreadyExists
  /-- The file is no text in UTF-8. -/
  | notText
  /-- More links than may be followed one after another. -/
  | tooManyLinks
  | nameTooLong
  /-- The path holds a character that no name may hold. -/
  | badCharacter
  | other (text : Text)
deriving DecidableEq, Repr

namespace DiskFault

def message : DiskFault → Text
  | notFound => "No such file or directory (os error 2)".toList
  | notAFolder => "Not a directory (os error 20)".toList
  | isAFolder => "Is a directory (os error 21)".toList
  | alreadyExists => "File exists (os error 17)".toList
  | notText => "stream did not contain valid UTF-8".toList
  | tooManyLinks => "Too many levels of symbolic links (os error 40)".toList
  | nameTooLong => "File name too long (os error 36)".toList
  | badCharacter => "file name contained an unexpected NUL byte".toList
  | other text => text

end DiskFault
end DocViews
