import DeadSymbols.Text.Utf8

/-!
# Errors of the operating system

Why an operation on a file, a pipe or a process fails, and the words for it.
-/

namespace DeadSymbols

/-- The cause of a failed operation. -/
inductive OsError where
  | notFound
  | notDirectory
  | isDirectory
  | tooManyLinks
  | nameTooLong
  | brokenPipe
  /-- A path holds the character with the code 0. -/
  | nulInPath
  /-- A word of a command, or the folder for it, holds the character with the code 0. -/
  | nulInCommand
  /-- A file that may not be run as a program. -/
  | permissionDenied
  /-- A file's content is not UTF-8. -/
  | notUtf8
  /-- A line that was read is not UTF-8. -/
  | badUtf8 (fault : Text.Utf8Fault)
  /-- The input ended before as many bytes as were asked for. -/
  | earlyEnd
  /-- Any other cause, in the words that came with it. -/
  | described (text : String)
deriving DecidableEq, Repr

/-- The words for a cause. -/
def OsError.message : OsError → String
  | notFound => "No such file or directory (os error 2)"
  | notDirectory => "Not a directory (os error 20)"
  | isDirectory => "Is a directory (os error 21)"
  | tooManyLinks => "Too many levels of symbolic links (os error 40)"
  | nameTooLong => "File name too long (os error 36)"
  | brokenPipe => "Broken pipe (os error 32)"
  | nulInPath => "file name contained an unexpected NUL byte"
  | nulInCommand => "nul byte found in provided data"
  | permissionDenied => "Permission denied (os error 13)"
  | notUtf8 => "stream did not contain valid UTF-8"
  | badUtf8 fault => fault.message
  | earlyEnd => "early eof"
  | described text => text

end DeadSymbols
