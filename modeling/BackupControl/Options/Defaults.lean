/-
# Built-in values

The value of every option that no source sets.  A backup and a restore have separate values of
the options that they share, because they disagree on parallelism and timeouts.
-/
import BackupControl.Options.Layer

namespace BackupControl

open OptionGroup (blank)

/-- The rewind value that asks for the whole change feed. -/
def rewindAll : String := "all"

/-- A value for every option of the program. -/
structure Defaults where
  app : App Settled
  cluster : Cluster Settled
  scan : Scan Settled
  changeFeed : ChangeFeed Settled
  restore : Restore Settled
  compression : Compression Settled
  encryption : Encryption Settled
  secretAgent : SecretAgent Settled
  awsS3 : AwsS3 Settled
  gcpStorage : GcpStorage Settled
  azureBlob : AzureBlob Settled
  localFiles : LocalFiles Settled

namespace Usual

/-- The transfer options of a backup. -/
def transfer : Transfer Settled :=
  { (blank : Transfer Settled) with
    parallel := 1
    socketTimeout := 10000
    infoTimeout := 10000
    infoMaxRetries := 3
    infoRetriesMultiplier := (1 : Binary64)
    infoRetryInterval := 1000
    stdBufferSize := 4 }

/-- The options of a scan backup. -/
def scan : Scan Settled :=
  { (blank : Scan Settled) with
    transfer := transfer
    fileLimit := 250
    maxRetries := 5
    sleepBetweenRetries := 5
    estimateSamples := 10000
    scanPageSize := 10000 }

/-- The options of a change-feed backup; its info options are those of a scan backup. -/
def changeFeed : ChangeFeed Settled :=
  { (blank : ChangeFeed Settled) with
    fileLimit := 250
    dc := "dc1"
    localAddress := "127.0.0.1"
    localPort := 8080
    rewind := rewindAll
    readTimeout := 1000
    writeTimeout := 1000
    infoPollingPeriod := 1000
    startTimeout := 30000
    resultsQueueSize := 256
    ackQueueSize := 256
    maxConnections := 100
    infoTimeout := transfer.infoTimeout
    infoMaxRetries := transfer.infoMaxRetries
    infoRetriesMultiplier := transfer.infoRetriesMultiplier
    infoRetryInterval := transfer.infoRetryInterval }

/-- The options of a restore. -/
def restore : Restore Settled :=
  { (blank : Restore Settled) with
    transfer := { transfer with parallel := 8, totalTimeout := 10000 }
    mode := "auto"
    batchSize := 128
    maxAsyncBatches := 32
    retryBaseInterval := 1000
    retryMultiplier := (1 : Binary64)
    retryMaxAttempts := 10 }

/-- The options of every cloud store. -/
def tuning : CloudTuning Settled :=
  { (blank : CloudTuning Settled) with
    retryReadBackoff := 1000
    retryReadMultiplier := (2 : Binary64)
    retryReadMaxAttempts := 3 }

end Usual

/-- The values that the program starts from. -/
def Defaults.builtIn : Defaults where
  app := { (blank : App Settled) with logLevel := "debug" }
  cluster :=
    { (blank : Cluster Settled) with
      host := "127.0.0.1"
      port := 3000
      clientTimeout := 30000
      clientLoginTimeout := 10000 }
  scan := Usual.scan
  changeFeed := Usual.changeFeed
  restore := Usual.restore
  compression := { (blank : Compression Settled) with mode := "NONE", level := 3 }
  encryption := { (blank : Encryption Settled) with mode := "NONE" }
  secretAgent :=
    { (blank : SecretAgent Settled) with connectionType := "tcp", timeout := 1000 }
  awsS3 :=
    { (blank : AwsS3 Settled) with
      retryMaxAttempts := 100
      retryMaxBackoff := 90000
      retryBackoff := 1000
      chunkSize := 5
      uploadConcurrency := 1
      restorePollDuration := 60000
      tuning := Usual.tuning }
  gcpStorage :=
    { (blank : GcpStorage Settled) with
      retryMaxAttempts := 100
      retryBackoff := 1000
      retryBackoffMax := 90000
      retryBackoffMultiplier := (2 : Binary64)
      chunkSize := 5
      uploadConcurrency := 1
      tuning := Usual.tuning }
  azureBlob :=
    { (blank : AzureBlob Settled) with
      restorePollDuration := 60000
      retryMaxAttempts := 100
      retryDelay := 60
      retryMaxDelay := 90
      blockSize := 5
      uploadConcurrency := 1
      tuning := Usual.tuning }
  localFiles := blank

end BackupControl
