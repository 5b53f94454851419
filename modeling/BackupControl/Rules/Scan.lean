/-
# Rules of a scan backup

A scan backup has exactly one output, at most one filter of partitions, nodes or racks, and
combines its other options only as far as they make sense together.
-/
import BackupControl.Options.Scan
import BackupControl.Rules.Transfer

namespace BackupControl.Scan

/-- The options that pick where records are read, of which one at most may be set. -/
def placeFilters (g : Scan Settled) : List (String × String) := [
  ("after-digest", g.afterDigest),
  ("partition-list", g.partitionList),
  ("node-list", g.nodeList),
  ("rack-list", g.rackList)]

/-- The names of those that are set, in the order of their declaration. -/
def setPlaceFilters (g : Scan Settled) : List String :=
  (g.placeFilters.filter (·.2 != "")).map (·.1)

/-- Some option keeps back records, which an estimate cannot take into account. -/
def keepsBackRecords (g : Scan Settled) : Bool :=
  [g.partitionList, g.nodeList, g.afterDigest, g.rackList, g.filterExpression, g.modifiedAfter,
    g.modifiedBefore].any (· != "") || g.noTtlOnly

/-- What an estimate allows: no filter, no output, and a number of samples. -/
def checkEstimate (g : Scan Settled) : Check := do
  refuseIf (g.keepsBackRecords = true) .estimateWithFilter
  refuseIf (g.outputFile ≠ "" ∨ g.transfer.directory ≠ "") .estimateWithOutput
  refuseIf (g.estimateSamples < 0) .negativeEstimateSamples

/-- The rules of a scan backup, in order. -/
def check (g : Scan Settled) : Check := do
  refuseIf (g.estimate = false ∧ g.outputFile = "" ∧ g.transfer.directory = "") .missingOutputTarget
  refuseIf (g.transfer.directory ≠ "" ∧ g.outputFile ≠ "") .outputFileWithDirectory
  (checkFilePrefix g.outputFilePrefix).mapError .filePrefix
  refuseIf (g.outputFile ≠ "" ∧ g.outputFilePrefix ≠ "") .filePrefixWithOutputFile
  refuseIf (1 < g.setPlaceFilters.length) (.multipleFilters g.setPlaceFilters)
  refuseIf (g.continueFrom ≠ "" ∧ g.stateFileDst ≠ "") .continueWithStateFile
  refuseIf (g.continueFrom ≠ "" ∧ g.removeFiles = true) .continueWithRemoveFiles
  refuseIf (g.maxRecords ≠ 0 ∧ g.transfer.parallel ≠ 1) .maxRecordsWithParallel
  if g.estimate then g.checkEstimate
  g.transfer.check

end BackupControl.Scan
