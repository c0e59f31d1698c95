/-
ContainerMarkup/Disk/Fault.lean

What can go wrong between a program and the disk, and how it is worded.
-/

namespace ContainerMarkup

/-- Why a file cannot be looked up, read or written. -/
inductive Fault where
  /-- Nothing has that name. -/
  | notFound
  /-- A file is used as a folder. -/
  | notFolder
  /-- A folder is used as a file. -/
  | isFolder
  /-- A name, or the whole path, is too long. -/
  | nameTooLong
  /-- A path holds the character that ends paths. -/
  | zeroByte
  /-- A file is no text. -/
  | notText
  /-- Anything else, in the words of the system. -/
  | stated (message : String)
deriving DecidableEq, Repr

/-- The wording of a fault. -/
def Fault.message : Fault → String
  | .notFound => "No such file or directory (os error 2)"
  | .notFolder => "Not a directory (os error 20)"
  | .isFolder => "Is a directory (os error 21)"
  | .nameTooLong => "File name too long (os error 36)"
  | .zeroByte => "file name contained an unexpected NUL byte"
  | .notText => "stream did not contain valid UTF-8"
  | .stated message => message

end ContainerMarkup
