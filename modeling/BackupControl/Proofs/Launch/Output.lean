/-
# Who writes to the standard output

A backup to the standard output leaves that to the engine, as soon as it has been loaded: it is
the loaded backup that tells where the output goes.  Until then stages are shown there, so a
backup that cannot be loaded puts the name of the failed stage on the standard output.
-/
import BackupControl.Launch.Run
import BackupControl.Proofs.Service.Job
import BackupControl.Proofs.Service.Sections

namespace BackupControl

open CommandLine (Invocation)

/-! ## What the engine writes -/

/-- What the engine writes to the standard output in a call. -/
def EngineReply.output : EngineReply → String
  | .notStarted _ => ""
  | .exited _ output _ => output

/-- A call carries out a job of an operation; the others ask for secrets. -/
def EngineCall.isJob (op : Operation) (c : EngineCall) : Bool := c.arguments == [op.word]

/-- What the engine writes to the standard output in those calls that carry out a job.  What it
answers when it is asked for a secret is read by the program. -/
def Engine.jobOutput (engine : Engine) (op : Operation) (calls : List EngineCall) : String :=
  String.join ((calls.filter (·.isJob op)).map fun c => (engine c).output)

variable {engine : Engine} {op : Operation}

/-- The output of two lists of calls is that of one after the other. -/
theorem Engine.jobOutput_append (calls calls' : List EngineCall) :
    engine.jobOutput op (calls ++ calls') =
      engine.jobOutput op calls ++ engine.jobOutput op calls' := by
  rw [jobOutput, List.filter_append, List.map_append, String.join_append]
  rfl

/-- The call of a job is one that carries it out. -/
theorem Engine.jobOutput_ofJob (engine : Engine) (program : String) (op : Operation)
    (payload : Json) :
    engine.jobOutput op [EngineCall.ofJob program op payload] =
      (engine (.ofJob program op payload)).output := by
  have hjob : (EngineCall.ofJob program op payload).isJob op = true := beq_self_eq_true _
  rw [jobOutput, List.filter_cons_of_pos hjob, List.filter_nil, List.map_singleton,
    String.join_cons, String.join_nil, String.append_empty]

/-- No question for a secret carries out a job. -/
theorem Engine.filter_isJob_lookups (program : String) (lookups : List Lookup) :
    ((lookups.map (Lookup.call program)).filter engine.starts).filter (·.isJob op) = [] := by
  rw [List.filter_eq_nil_iff]
  intro call hcall
  obtain ⟨lookup, -, rfl⟩ := List.mem_map.1 (List.mem_filter.1 hcall).1
  simp [EngineCall.isJob, Lookup.call, EngineCall.ofSecret]

/-- Such questions leave no output of a job. -/
theorem Engine.jobOutput_lookups (program : String) (lookups : List Lookup) :
    engine.jobOutput op ((lookups.map (Lookup.call program)).filter engine.starts) = "" := by
  rw [jobOutput, filter_isJob_lookups, List.map_nil, String.join_nil]

/-! ## Hand-over -/

/-- The failure that ends a program is shown on the error output. -/
theorem Failure.output_report (f : Failure) : f.report.output = "" := by
  unfold report
  split <;> rfl

/-- The end of a program after a command shows what the command shows. -/
theorem Ending.output_ofOutcome (s : Session) (o : Outcome) :
    (ofOutcome s o).transcript.output = o.transcript.output := by
  unfold ofOutcome
  cases o.failure with
  | none => rfl
  | some f =>
    have happend : (o.transcript ++ f.report).output = o.transcript.output ++ f.report.output := rfl
    simp only [happend, f.output_report, String.append_empty]

/-- When the output belongs to the engine, it is what the engine writes. -/
theorem output_runInherited (engine : Engine) (program : String) (op : Operation)
    (job : Result Json) :
    (runInherited engine program op job).transcript.output =
      engine.jobOutput op (runInherited engine program op job).calls := by
  cases job with
  | error f => rfl
  | ok payload =>
    have hcall := Engine.jobOutput_ofJob engine program op payload
    cases hreply : engine (.ofJob program op payload) with
    | notStarted fault =>
      simp only [runInherited, hreply]
      rfl
    | exited success output errors =>
      rw [hreply] at hcall
      cases success <;> simp only [runInherited, hreply, hcall, EngineReply.output]

/-- What is shown on the standard output of a job that could not be prepared. -/
def configureFailure : String := "\n  ✗  Configure\n\n\n"

/-- Without a job the engine is not called, and the stage that failed is shown. -/
theorem output_runCaptured_error (engine : Engine) (program : String) (op : Operation)
    (f : Failure) :
    (runCaptured engine program op (.error f)).transcript.output = configureFailure ∧
      (runCaptured engine program op (.error f)).calls = [] := by
  cases op <;> exact ⟨rfl, rfl⟩

/-! ## Backups to the standard output -/

/-- A layer asks for a backup to the standard output. -/
def Layer.AsksForOutput (l : Layer) : Prop :=
  l.scan.bind (·.outputFile) = some BackupService.outputMark

namespace BackupService

variable {d : Defaults} {resolver : SecretResolver} {l : Layer} {s : BackupService}

/-- A backup that was loaded from a layer that asks for the standard output is a scan, for a
change feed refuses to write there. -/
theorem changeFeed_eq_none_of_load (houtput : l.AsksForOutput)
    (hload : (load d resolver l).result = .ok s) : l.changeFeed = none := by
  obtain ⟨scan, hscan, hfile⟩ := Option.bind_eq_some_iff.1 houtput
  obtain ⟨t, hlayer, -⟩ := of_load_eq_ok hload
  cases hfeed : l.changeFeed with
  | none => rfl
  | some feed =>
    obtain ⟨hscanOnly, -⟩ := ofLayer_of_changeFeed_eq_some hfeed hlayer
    simp [hscan, Scan.scanOnly, hfile] at hscanOnly

/-- A backup that was loaded from a layer that asks for the standard output is written there. -/
theorem writesToOutput_of_load (houtput : l.AsksForOutput)
    (hload : (load d resolver l).result = .ok s) : s.writesToOutput = true := by
  obtain ⟨scan, hscan, hfile⟩ := Option.bind_eq_some_iff.1 houtput
  obtain ⟨t, hlayer, hcomplete⟩ := of_load_eq_ok hload
  rw [ofLayer_of_changeFeed_eq_none (changeFeed_eq_none_of_load houtput hload)] at hlayer
  obtain rfl := Except.ok.inj hlayer
  have hsettled : (settleSection l.scan d.scan).outputFile = outputMark := by
    rw [hscan]
    exact congrArg (·.getD d.scan.outputFile) hfile
  rw [writesToOutput, (of_complete_eq_ok hcomplete).1, Option.any_some, hsettled]
  rfl

end BackupService

/-! ## Commands -/

/-- What a command hands over to the engine, once it is prepared. -/
def handOver (w : World) (i : Invocation) (l : Layer) : Outcome :=
  let p := prepare w.machine (w.engine.resolver i.engine) i.op l
  execute w.engine i.engine i.op i.globals.printConfig p.mode p.job

section Commands

variable {w : World} {i : Invocation} {l : Layer}

/-- A command looks up secrets, and then hands over its job. -/
theorem calls_runCommand (w : World) (i : Invocation) (l : Layer) :
    (runCommand w i l).calls =
      ((prepare w.machine (w.engine.resolver i.engine) i.op l).lookups.map
        (Lookup.call i.engine)).filter w.engine.starts ++ (handOver w i l).calls :=
  rfl

/-- Looking up secrets adds nothing to what is handed over. -/
theorem jobOutput_runCommand (w : World) (i : Invocation) (l : Layer) (op : Operation) :
    w.engine.jobOutput op (runCommand w i l).calls =
      w.engine.jobOutput op (handOver w i l).calls := by
  rw [calls_runCommand, Engine.jobOutput_append, Engine.jobOutput_lookups, String.empty_append]

/-- A loaded backup that is written to the standard output leaves it to the engine. -/
theorem handOver_of_load_eq_ok (hop : i.op = .backup) (hprint : i.globals.printConfig = false)
    {s : BackupService}
    (hload : (BackupService.load .builtIn (w.engine.resolver i.engine) l).result = .ok s)
    (houtput : s.writesToOutput = true) :
    handOver w i l =
      runInherited w.engine i.engine .backup ((s.job w.machine).map (·.payload)) := by
  simp only [handOver, prepare, prepareBackup, execute, hop, hprint, hload, houtput,
    Bool.false_eq_true, if_false, if_true]

/-- A backup that is not loaded shows that its stage failed. -/
theorem handOver_of_load_eq_error (hop : i.op = .backup) (hprint : i.globals.printConfig = false)
    {f : Failure}
    (hload : (BackupService.load .builtIn (w.engine.resolver i.engine) l).result = .error f) :
    handOver w i l = runCaptured w.engine i.engine .backup (.error f) := by
  simp only [handOver, prepare, prepareBackup, execute, hop, hprint, hload, Bool.false_eq_true,
    if_false]

end Commands

/-! ## Whole runs -/

/-- What a run has before its command: the layer of its config file, and a session of which the
log is open. -/
def CommandLine.Invocation.start (w : World) (i : Invocation) : Result (Layer × Session) := do
  let base ← i.baseLayer w.files
  let session ← i.session .builtIn base
  if let some path := session.logFile? then openLog w.files path
  return (base, session)

/-- A run that comes as far as its command has a backup that can be loaded. -/
def CommandLine.Invocation.LoadsBackup (w : World) (i : Invocation) : Prop :=
  ∀ base session, i.start w = .ok (base, session) →
    ∃ s, (BackupService.load .builtIn (w.engine.resolver i.engine) (i.wholeLayer base)).result =
      .ok s

section Runs

variable {w : World} {i : Invocation} {base : Layer} {session : Session}

/-- What a run has before its command begins with its config file. -/
theorem CommandLine.Invocation.baseLayer_of_start (h : i.start w = .ok (base, session)) :
    i.baseLayer w.files = .ok base := by
  obtain ⟨base', hbase, h⟩ := bind_eq_ok_iff.1 h
  obtain ⟨session', -, h⟩ := bind_eq_ok_iff.1 h
  split at h
  · obtain ⟨_, -, h⟩ := bind_eq_ok_iff.1 h
    obtain ⟨rfl, -⟩ := Prod.mk.inj (pure_eq_ok_iff.1 h)
    exact hbase
  · obtain ⟨rfl, -⟩ := Prod.mk.inj (pure_eq_ok_iff.1 h)
    exact hbase

/-- A run that starts comes to its command. -/
theorem run_eq_start (w : World) (i : Invocation) :
    Invocation.run w i =
      match i.start w with
      | .error f => .ofFailure f
      | .ok (base, session) => .ofOutcome session (runCommand w i (i.wholeLayer base)) :=
  rfl

/-- A run that ends before its command shows its failure on the error output only. -/
theorem run_of_start_eq_error {f : Failure} (h : i.start w = .error f) :
    (Invocation.run w i).transcript.output = "" ∧ (Invocation.run w i).calls = [] := by
  rw [run_eq_start, h]
  exact ⟨f.output_report, rfl⟩

/-- A run that comes to its command writes what the command hands over writes. -/
theorem run_of_start_eq_ok (h : i.start w = .ok (base, session)) :
    (Invocation.run w i).transcript.output =
        (handOver w i (i.wholeLayer base)).transcript.output ∧
      (Invocation.run w i).calls = (runCommand w i (i.wholeLayer base)).calls := by
  rw [run_eq_start, h]
  exact ⟨Ending.output_ofOutcome session _, rfl⟩

end Runs

/-- The program itself writes nothing to the standard output of a backup that goes there just if a
run that comes to its command can load the backup. -/
theorem output_run_iff {w : World} {i : Invocation} (hop : i.op = .backup)
    (hprint : i.globals.printConfig = false)
    (houtput : ∀ base, i.baseLayer w.files = .ok base → (i.wholeLayer base).AsksForOutput) :
    ((Invocation.run w i).transcript.output =
          w.engine.jobOutput .backup (Invocation.run w i).calls ↔ i.LoadsBackup w) ∧
      (¬ i.LoadsBackup w →
        (Invocation.run w i).transcript.output = configureFailure ∧
          w.engine.jobOutput .backup (Invocation.run w i).calls = "") := by
  cases hstart : i.start w with
  | error f =>
    obtain ⟨htext, hcalls⟩ := run_of_start_eq_error hstart
    have hloads : i.LoadsBackup w := by
      intro base session h
      exact absurd (hstart.symm.trans h) nofun
    rw [htext, hcalls]
    exact ⟨iff_of_true rfl hloads, fun h => absurd hloads h⟩
  | ok pair =>
    obtain ⟨base, session⟩ := pair
    obtain ⟨htext, hcalls⟩ := run_of_start_eq_ok hstart
    have hasks : (i.wholeLayer base).AsksForOutput :=
      houtput base (Invocation.baseLayer_of_start hstart)
    rw [htext, hcalls, jobOutput_runCommand]
    cases hload : (BackupService.load .builtIn (w.engine.resolver i.engine)
        (i.wholeLayer base)).result with
    | ok s =>
      have hloads : i.LoadsBackup w := by
        intro base' session' h
        obtain ⟨rfl, -⟩ := Prod.mk.inj (Except.ok.inj (hstart.symm.trans h))
        exact ⟨s, hload⟩
      have hwrites : s.writesToOutput = true := BackupService.writesToOutput_of_load hasks hload
      rw [handOver_of_load_eq_ok hop hprint hload hwrites]
      exact ⟨iff_of_true (output_runInherited _ _ _ _) hloads, fun h => absurd hloads h⟩
    | error f =>
      have hfails : ¬ i.LoadsBackup w := by
        intro hloads
        obtain ⟨s, hs⟩ := hloads base session hstart
        exact absurd (hload.symm.trans hs) nofun
      obtain ⟨hshown, hcalls⟩ := output_runCaptured_error w.engine i.engine .backup f
      have hsilent : w.engine.jobOutput .backup [] = "" := rfl
      have hshows : configureFailure ≠ "" := by
        decide
      rw [handOver_of_load_eq_error hop hprint hload, hshown, hcalls, hsilent]
      exact ⟨iff_of_false hshows hfails, fun _ => ⟨rfl, rfl⟩⟩

/-- The program runs the invocation of its arguments, which the environment completes. -/
theorem runIn_of_ofArguments {args : List String} {i : Invocation}
    (hargs : Invocation.ofArguments args = .ok i) (named : Option String) (w : World) :
    runIn named w args = Invocation.run w (i.inEnvironment named) := by
  rw [runIn, hargs]

/-- Where the environment names no engine, nothing is to be completed. -/
theorem run_of_ofArguments {args : List String} {i : Invocation}
    (hargs : Invocation.ofArguments args = .ok i) (w : World) :
    run w args = Invocation.run w i := by
  rw [run, runIn_of_ofArguments hargs, Invocation.inEnvironment, Option.or_none]

/-- Where the environment names an engine, that engine is asked for the secrets, and all else is the
same. -/
theorem output_runIn_iff {named : Option String} {w : World} {args : List String} {i : Invocation}
    (hargs : Invocation.ofArguments args = .ok i) (hop : i.op = .backup)
    (hprint : i.globals.printConfig = false)
    (houtput : ∀ base, i.baseLayer w.files = .ok base → (i.wholeLayer base).AsksForOutput) :
    ((runIn named w args).transcript.output =
          w.engine.jobOutput .backup (runIn named w args).calls ↔
        (i.inEnvironment named).LoadsBackup w) ∧
      (¬ (i.inEnvironment named).LoadsBackup w →
        (runIn named w args).transcript.output = configureFailure ∧
          w.engine.jobOutput .backup (runIn named w args).calls = "") := by
  rw [runIn_of_ofArguments hargs]
  exact output_run_iff hop hprint houtput

/-- **Who writes a backup to the standard output.**  When the options ask for the standard output
and the job is not only shown, the program itself writes nothing there just if a run that comes to
its command can load the backup.  Otherwise it shows there that the configuration failed, and the
engine is not called for a job at all. -/
theorem backup_to_output_iff {w : World} {args : List String} {i : Invocation}
    (hargs : Invocation.ofArguments args = .ok i) (hop : i.op = .backup)
    (hprint : i.globals.printConfig = false)
    (houtput : ∀ base, i.baseLayer w.files = .ok base → (i.wholeLayer base).AsksForOutput) :
    ((run w args).transcript.output = w.engine.jobOutput .backup (run w args).calls ↔
        i.LoadsBackup w) ∧
      (¬ i.LoadsBackup w →
        (run w args).transcript.output = configureFailure ∧
          w.engine.jobOutput .backup (run w args).calls = "") := by
  rw [run_of_ofArguments hargs]
  exact output_run_iff hop hprint houtput

/-- Arguments of a backup to the standard output. -/
def outputArguments : List String := ["backup", "-n", "test", "-o", "-"]

/-- A machine without files, and an engine that always writes the same. -/
def outputWorld : World :=
  ⟨BackupService.smallMachine, fun _ => .missing, fun _ => .exited true "BACKUP-DATA" ""⟩

/-- Arguments ask to carry out a backup to the standard output. -/
def askForOutput (w : World) (args : List String) : Bool :=
  (Invocation.ofArguments args).toOption.any fun i =>
    i.op == .backup && !i.globals.printConfig &&
      (i.baseLayer w.files).toOption.all fun base =>
        (i.wholeLayer base).scan.bind (·.outputFile) == some BackupService.outputMark

/-- Arguments that ask for the standard output are those of an invocation that does. -/
theorem of_askForOutput {w : World} {args : List String} (h : askForOutput w args = true) :
    ∃ i, Invocation.ofArguments args = .ok i ∧ i.op = .backup ∧ i.globals.printConfig = false ∧
      ∀ base, i.baseLayer w.files = .ok base → (i.wholeLayer base).AsksForOutput := by
  obtain ⟨i, hargs, h⟩ := (Option.any_eq_true ..).1 h
  rw [Bool.and_eq_true, Bool.and_eq_true, beq_iff_eq, Bool.not_eq_true', Option.all_eq_true] at h
  obtain ⟨⟨hop, hprint⟩, houtput⟩ := h
  refine ⟨i, toOption_eq_some_iff.1 hargs, hop, hprint, fun base hbase => ?_⟩
  exact beq_iff_eq.1 (houtput base (toOption_eq_some_iff.2 hbase))

/-- A backup of a namespace to the standard output is all that is written there. -/
theorem backup_to_output_iff_of_namespace :
    ∃ i, Invocation.ofArguments outputArguments = .ok i ∧ i.LoadsBackup outputWorld ∧
      (run outputWorld outputArguments).transcript.output =
        outputWorld.engine.jobOutput .backup (run outputWorld outputArguments).calls ∧
      (run outputWorld outputArguments).transcript.output = "BACKUP-DATA" := by
  have hasks : askForOutput outputWorld outputArguments = true := by
    decide +kernel
  have hrun : (run outputWorld outputArguments).transcript.output = "BACKUP-DATA" := by
    decide +kernel
  obtain ⟨i, hargs, hop, hprint, houtput⟩ := of_askForOutput hasks
  obtain ⟨hiff, hfails⟩ := backup_to_output_iff hargs hop hprint houtput
  have hloads : i.LoadsBackup outputWorld := by
    refine Classical.byContradiction fun h => ?_
    obtain ⟨hshown, -⟩ := hfails h
    exact absurd (hrun.symm.trans hshown) (by decide)
  exact ⟨i, hargs, hloads, hiff.2 hloads, hrun⟩

/-- Without a namespace the program writes to the standard output itself. -/
theorem failed_backup_to_output_is_shown :
    askForOutput outputWorld ["backup", "-o", "-"] = true ∧
      (run outputWorld ["backup", "-o", "-"]).calls.length = 0 ∧
      (run outputWorld ["backup", "-o", "-"]).transcript.output = configureFailure := by
  refine ⟨?_, ?_, ?_⟩ <;> decide +kernel

end BackupControl
