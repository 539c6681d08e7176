/-!
# SiteScript.FileSystem.Fault

Why an operation of the system fails, and how the system words it.
-/

namespace SiteScript

/-- A failure of the system. -/
inductive FileFault where
  | notFound
  | alreadyExists
  | notDirectory
  | isDirectory
  | invalidArgument
  | nameTooLong
  | notEmpty
  | tooManyLinks
  | notPermitted
  | addressUnavailable
  /-- A zero byte in a file name. -/
  | nulInName
  /-- A zero byte in a command. -/
  | nulInCommand
  | notUtf8
  /-- Only regular files can be copied. -/
  | notRegular
  /-- A failure with a wording of its own. -/
  | other (message : String)
deriving DecidableEq

/-- The wording of a failure. -/
def FileFault.message : FileFault → String
  | .notFound => "No such file or directory (os error 2)"
  | .alreadyExists => "File exists (os error 17)"
  | .notDirectory => "Not a directory (os error 20)"
  | .isDirectory => "Is a directory (os error 21)"
  | .invalidArgument => "Invalid argument (os error 22)"
  | .nameTooLong => "File name too long (os error 36)"
  | .notEmpty => "Directory not empty (os error 39)"
  | .tooManyLinks => "Too many levels of symbolic links (os error 40)"
  | .notPermitted => "Operation not permitted (os error 1)"
  | .addressUnavailable => "Cannot assign requested address (os error 99)"
  | .nulInName => "file name contained an unexpected NUL byte"
  | .nulInCommand => "nul byte found in provided data"
  | .notUtf8 => "stream did not contain valid UTF-8"
  | .notRegular => "the source path is neither a regular file nor a symlink to a regular file"
  | .other message => message

end SiteScript
