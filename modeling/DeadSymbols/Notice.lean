import DeadSymbols.Fault

/-!
# Notices

What a run tells its user besides its results.

* `Notice.text`: the level and the words of a notice.
-/

namespace DeadSymbols

/-- Something worth telling. -/
inductive Notice where
  /-- A folder that is none was left out. -/
  | skippedFolder (folder : String)
  /-- A file could not be scanned to its end. -/
  | failedFile (path : String) (fault : Fault)
  /-- A scan has ended. -/
  | scanned (done total findings : Nat)
  /-- A report covers only the part of a scan before it was cancelled. -/
  | cancelledScan (findings : Nat)
  /-- Some files could not be scanned. -/
  | failedFiles (count : Nat)
  /-- The farewell to the server went wrong. -/
  | failedFarewell (fault : Fault)

/-- The level and the words. -/
def Notice.text : Notice → String
  | skippedFolder folder => s!"WARN Skipping {folder}: not a directory"
  | failedFile path fault => s!"WARN Failed to process file: {path}: {fault.message}"
  | scanned done total findings =>
    s!"INFO Scanned {done} of {total} files, {findings} unreferenced symbols"
  | cancelledScan findings =>
    s!"WARN Scan was cancelled; reporting {findings} findings from the files processed so far"
  | failedFiles count => s!"WARN {count} files could not be processed"
  | failedFarewell fault => s!"WARN Language server did not shut down cleanly: {fault.message}"

end DeadSymbols
