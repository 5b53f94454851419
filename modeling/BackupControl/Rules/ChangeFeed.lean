/-
# Rules of a change-feed backup

A change-feed backup takes part of its options from the scan section, and refuses those that
have a meaning for a scan only.
-/
import BackupControl.Numeric.Literal
import BackupControl.Options.Defaults
import BackupControl.Rules.Violation

namespace BackupControl

/-- The options of a scan that mean nothing to a change feed and are set, in the order in which
a refusal looks for them.  An estimate counts as set only when it is asked for. -/
def Scan.scanOnly (g : Scan Given) : List String :=
  let options : List (String × Bool) := [
    ("output-file", g.outputFile.isSome),
    ("output-file-prefix", g.outputFilePrefix.isSome),
    ("after-digest", g.afterDigest.isSome),
    ("partition-list", g.partitionList.isSome),
    ("node-list", g.nodeList.isSome),
    ("rack-list", g.rackList.isSome),
    ("prefer-racks", g.preferRacks.isSome),
    ("filter-exp", g.filterExpression.isSome),
    ("modified-before", g.modifiedBefore.isSome),
    ("modified-after", g.modifiedAfter.isSome),
    ("no-ttl-only", g.noTtlOnly.isSome),
    ("max-records", g.maxRecords.isSome),
    ("estimate", g.estimate == some true),
    ("continue", g.continueFrom.isSome),
    ("state-file-dst", g.stateFileDst.isSome)]
  (options.filter (·.2)).map (·.1)

namespace ChangeFeed

/-- The change-feed section with the options that it shares with a scan taken from the scan
section wherever it leaves them unset. -/
def inherit (g : ChangeFeed Given) (scan : Scan Given) : ChangeFeed Given :=
  { g with
    nameSpace := g.nameSpace.or scan.transfer.nameSpace
    directory := g.directory.or scan.transfer.directory
    fileLimit := g.fileLimit.or scan.fileLimit
    removeFiles := g.removeFiles.or scan.removeFiles
    infoTimeout := g.infoTimeout.or scan.transfer.infoTimeout
    infoMaxRetries := g.infoMaxRetries.or scan.transfer.infoMaxRetries
    infoRetriesMultiplier := g.infoRetriesMultiplier.or scan.transfer.infoRetriesMultiplier
    infoRetryInterval := g.infoRetryInterval.or scan.transfer.infoRetryInterval }

/-- The rewind value asks for everything, or for a positive number of seconds of sixty-four
bits. -/
def isRewind (s : String) : Bool :=
  s == rewindAll ||
    match readInteger 0 (twoTo 64 - 1) s with
    | .ok n => decide (0 < n)
    | .error _ => false

/-- The run writes backup files, rather than only tidying up after an earlier one. -/
def writesFiles (g : ChangeFeed Settled) : Bool := !g.stopXdr && !g.unblockMrt

/-- The rules of a change-feed backup, in order. -/
def check (g : ChangeFeed Settled) : Check := do
  refuseIf (g.nameSpace = "") (.required "namespace")
  refuseIf (g.stopXdr = true ∧ g.unblockMrt = true) (.exclusive "stop-xdr" "unblock-mrt")
  refuseIf (g.writesFiles = true ∧ g.directory = "") (.required "directory")
  refuseIf (g.dc = "") (.required "dc")
  refuseIf (g.localAddress = "") (.required "local address")
  refuseIf (isRewind g.rewind = false) (.unsupported "rewind value" g.rewind)
  refuseIf (g.maxConnections < 1) (.tooSmall "max connections" 1)

end ChangeFeed

end BackupControl
