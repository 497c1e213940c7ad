/-! # Why a disk operation fails -/
set_option autoImplicit false

namespace PackageDoc

inductive DiskError where
  | notFound
  | notADirectory
  | isADirectory
  | alreadyExists
  /-- Too many symbolic links on the way. -/
  | linkLoop
  | nameTooLong
  /-- The path holds a zero byte. -/
  | zeroByte
  /-- A file that is read as text is not UTF-8. -/
  | notText
  /-- No part of a path could be created. -/
  | wholePath
  deriving DecidableEq, Repr

namespace DiskError

def message : DiskError → String
  | .notFound => "No such file or directory (os error 2)"
  | .notADirectory => "Not a directory (os error 20)"
  | .isADirectory => "Is a directory (os error 21)"
  | .alreadyExists => "File exists (os error 17)"
  | .linkLoop => "Too many levels of symbolic links (os error 40)"
  | .nameTooLong => "File name too long (os error 36)"
  | .zeroByte => "file name contained an unexpected NUL byte"
  | .notText => "stream did not contain valid UTF-8"
  | .wholePath => "failed to create whole tree"

end DiskError
end PackageDoc
