/-
# When the engine runs and what is told about it

There are three ways to end: the job is shown, the engine is left the terminal, or its output is
held back while stages are shown.  In all of them the engine is started for a job that is there
and not to be shown, once, and the run succeeds if the engine does.  Where its output is held back,
a success is announced just if it is one, a failure names its stage, and the lines of an engine
that failed are all repeated.
-/
import BackupControl.Proofs.Launch.Lines
import BackupControl.Proofs.Launch.Output

namespace BackupControl

open CommandLine (Invocation)

/-! ## Transcripts of lines -/

/-- The text that has a line break behind each of some lines. -/
def linesText (lines : List String) : String := String.join (lines.map (· ++ "\n"))

/-- The text of lines behind others is the one behind the other. -/
theorem linesText_append (lines lines' : List String) :
    linesText (lines ++ lines') = linesText lines ++ linesText lines' := by
  rw [linesText, List.map_append, String.join_append]
  rfl

namespace Transcript

/-- The transcript consists of lines of the standard output and lines of the error output. -/
def Shows (t : Transcript) (output errors : List String) : Prop :=
  t = ⟨linesText output, linesText errors⟩

/-- Nothing in front of a text. -/
theorem empty_append (a : Transcript) : append {} a = a := by
  rw [append, String.empty_append, String.empty_append]

/-- Nothing behind a text. -/
theorem append_empty (a : Transcript) : append a {} = a := by
  rw [append, String.append_empty, String.append_empty]

instance : Std.Associative append where
  assoc a b c := by simp only [append, String.append_assoc]

/-- Several texts are the first of them and the others after it. -/
theorem join_cons (a : Transcript) (ts : List Transcript) :
    join (a :: ts) = append a (join ts) := by
  calc join (a :: ts)
      = ts.foldl append (append a {}) := by rw [join, List.foldl_cons, empty_append, append_empty]
    _ = append a (join ts) := List.foldl_assoc

variable {a b : Transcript} {ts : List Transcript} {output output' errors errors' : List String}

/-- A text and several others show the lines of the one and of the others. -/
theorem Shows.join_cons (ha : a.Shows output errors) (hts : (join ts).Shows output' errors') :
    (join (a :: ts)).Shows (output ++ output') (errors ++ errors') := by
  rw [Shows, Transcript.join_cons, ha, hts, linesText_append, linesText_append]
  rfl

/-- No texts show no lines. -/
theorem shows_join_nil : (join []).Shows [] [] :=
  rfl

/-- A line of the standard output. -/
theorem shows_line (s : String) : (line s).Shows [s] [] := by
  rw [Shows, linesText, List.map_singleton, String.join_cons, String.join_nil, String.append_empty]
  rfl

/-- A line of the error output. -/
theorem shows_errorLine (s : String) : (errorLine s).Shows [] [s] := by
  rw [Shows, linesText, linesText, List.map_singleton, String.join_cons, String.join_nil,
    String.append_empty]
  rfl

/-- Lines of the error output. -/
theorem shows_join_errorLine (lines : List String) :
    (join (lines.map errorLine)).Shows [] lines := by
  induction lines with
  | nil => exact shows_join_nil
  | cons s lines ih => exact (shows_errorLine s).join_cons ih

end Transcript

/-! ## Stages and banners -/

open Transcript

/-- The lines under a title that repeat some lines; there is no title without any. -/
def replayLines (title : String) (lines : List String) : List String :=
  if lines = [] then []
  else ["", "  ► " ++ title ++ ":"] ++ lines.map ("    " ++ ·)

/-- A text that the engine left is repeated line by line on the error output. -/
theorem shows_replay (title s : String) :
    (replay title s).Shows [] (replayLines title (linesOf s)) := by
  have hempty : linesOf s = [] ↔ s = "" := by
    rw [(hasLines_linesOf s).eq_nil_iff, String.toList_eq_nil_iff]
  unfold replay replayLines
  split
  · rename_i hs
    rw [if_pos (hempty.2 hs)]
    exact shows_join_nil
  · rename_i hs
    rw [if_neg (mt hempty.1 hs)]
    have hlines := shows_join_errorLine ((linesOf s).map ("    " ++ ·))
    rw [List.map_map] at hlines
    exact (shows_errorLine _).join_cons ((shows_errorLine _).join_cons hlines)

/-- The error of a stage, and the texts that the engine left in it. -/
def faultLines (fault : StageFault) : List String :=
  ["", "  Error: " ++ fault.error] ++ replayLines "stdout" (linesOf fault.output) ++
    replayLines "stderr" (linesOf fault.errors)

/-- A stage that failed is shown with what is known about it. -/
theorem shows_failed (stage : Stage) (fault : StageFault) :
    (stage.failed fault).Shows ["  ✗  " ++ stage.name] (faultLines fault) := by
  have hrest := (shows_replay "stdout" fault.output).join_cons
    ((shows_replay "stderr" fault.errors).join_cons shows_join_nil)
  have hshown := (shows_line ("  ✗  " ++ stage.name)).join_cons ((shows_errorLine "").join_cons
    ((shows_errorLine ("  Error: " ++ fault.error)).join_cons hrest))
  rw [List.append_nil (replayLines "stderr" _)] at hshown
  rw [faultLines, List.append_assoc]
  exact hshown

/-- The line that announces a success. -/
def successLine (op : Operation) : String := "  ✓ " ++ op.title ++ " completed successfully."

/-- The lines that name the stage in which a run failed. -/
def failureLines (op : Operation) (stage : Stage) : List String :=
  ["  ✗  " ++ op.title ++ " failed.", "    ✗ " ++ stage.name]

/-- A success is announced on the standard output. -/
theorem shows_successBanner (op : Operation) :
    (successBanner op).Shows ["", successLine op, ""] [] :=
  (shows_line _).join_cons ((shows_line _).join_cons ((shows_line _).join_cons shows_join_nil))

/-- The stage of a failure is named on the error output. -/
theorem shows_failureBanner (op : Operation) (stage : Stage) :
    (failureBanner op stage).Shows ["", ""] (failureLines op stage) :=
  (shows_line _).join_cons ((shows_errorLine _).join_cons ((shows_errorLine _).join_cons
    ((shows_line _).join_cons shows_join_nil)))

/-! ## One job -/

section Job

variable (engine : Engine) (program : String) (op : Operation)

/-- What is shown of a run that leaves the standard output to the stages.

* The success is announced there just if the run succeeds.
* A run that fails ends its messages with the stage that failed.
* If the engine fails, each line that it wrote is repeated in order, first those of its standard
  output. -/
structure Reported (job : Result Json) (o : Outcome) : Prop where
  announced : ∃ output errors, o.transcript.Shows output errors ∧
    (∀ line ∈ output, '\n' ∉ line.toList) ∧ (successLine op ∈ output ↔ o.failure = none)
  named : o.failure ≠ none → ∃ output errors, o.transcript.Shows output
    (errors ++ failureLines op (if job.isOk then .engine else .configure))
  repeated : ∀ payload output errors, job = .ok payload →
    engine (.ofJob program op payload) = .exited false output errors →
    ∃ shown outputLines errorLines, HasLines output.toList outputLines ∧
      HasLines errors.toList errorLines ∧
      o.transcript.Shows shown (
        ["", "  Error: command exited non-zero: " ++ program ++ " " ++ op.word] ++
          replayLines "stdout" outputLines ++ replayLines "stderr" errorLines ++
          failureLines op .engine)

/-- What is shown of a run in which the engine fails. -/
theorem shows_engineFailure (fault : StageFault) :
    (Transcript.join ([.line "", Stage.configure.succeeded] ++
      [Stage.engine.failed fault, failureBanner op .engine])).Shows
        ["", "  ✓  Configure", "  ✗  Engine", "", ""] (faultLines fault ++ failureLines op .engine) :=
  (shows_line _).join_cons ((shows_line _).join_cons ((shows_failed .engine fault).join_cons
    ((shows_failureBanner op .engine).join_cons shows_join_nil)))

/-- A run in which the engine fails is reported, if what the engine wrote is known to its stage. -/
theorem reported_of_engineFailure {payload : Json} {o : Outcome} {fault : StageFault}
    (hfailure : o.failure ≠ none)
    (ht : o.transcript = Transcript.join ([.line "", Stage.configure.succeeded] ++
      [Stage.engine.failed fault, failureBanner op .engine]))
    (hfault : ∀ output errors, engine (.ofJob program op payload) = .exited false output errors →
      fault = {
        error := "command exited non-zero: " ++ program ++ " " ++ op.word
        output := output
        errors := errors }) :
    Reported engine program op (.ok payload) o where
  announced := by
    refine ⟨_, _, ht ▸ shows_engineFailure op fault, by decide, iff_of_false ?_ hfailure⟩
    cases op <;> decide
  named := fun _ => ⟨_, _, ht ▸ shows_engineFailure op fault⟩
  repeated := by
    rintro payload' output errors hjob hreply
    obtain rfl := Except.ok.inj hjob
    obtain rfl := hfault output errors hreply
    exact ⟨_, _, _, hasLines_linesOf output, hasLines_linesOf errors,
      ht ▸ shows_engineFailure op _⟩

/-- A run in which the engine succeeds is reported, if its success is announced. -/
theorem reported_of_engineSuccess {payload : Json} {o : Outcome} {output errors : String}
    (hreply : engine (.ofJob program op payload) = .exited true output errors)
    (hfailure : o.failure = none)
    (ht : o.transcript = Transcript.join ([.line "", Stage.configure.succeeded] ++
      [Stage.engine.succeeded, successBanner op])) :
    Reported engine program op (.ok payload) o where
  announced := by
    have hshown : (Transcript.join ([.line "", Stage.configure.succeeded] ++
        [Stage.engine.succeeded, successBanner op])).Shows
          ["", "  ✓  Configure", "  ✓  Engine", "", successLine op, ""] [] :=
      (shows_line _).join_cons ((shows_line _).join_cons ((shows_line _).join_cons
        ((shows_successBanner op).join_cons shows_join_nil)))
    exact ⟨_, _, ht ▸ hshown, by cases op <;> decide, iff_of_true (by simp) hfailure⟩
  named := fun h => absurd hfailure h
  repeated := by
    rintro payload' output' errors' hjob hreply'
    obtain rfl := Except.ok.inj hjob
    rw [hreply] at hreply'
    cases hreply'

/-- A run that shows its stages is reported. -/
theorem reported_runCaptured (job : Result Json) :
    Reported engine program op job (runCaptured engine program op job) := by
  cases job with
  | error f =>
    have hshown : (runCaptured engine program op (.error f)).transcript.Shows
        ["", "  ✗  Configure", "", ""] (faultLines { error := f.message } ++
          failureLines op .configure) :=
      (shows_line _).join_cons ((shows_failed .configure _).join_cons
        ((shows_failureBanner op .configure).join_cons shows_join_nil))
    exact {
      announced := ⟨_, _, hshown, by decide,
        iff_of_false (by cases op <;> decide) (Option.some_ne_none _)⟩
      named := fun _ => ⟨_, _, hshown⟩
      repeated := by rintro _ _ _ ⟨⟩ }
  | ok payload =>
    cases hreply : engine (.ofJob program op payload) with
    | notStarted fault =>
      simp only [runCaptured, hreply]
      refine reported_of_engineFailure engine program op (Option.some_ne_none _) rfl ?_
      intro output errors h
      rw [hreply] at h
      cases h
    | exited success output errors =>
      cases success with
      | true =>
        simp only [runCaptured, hreply]
        exact reported_of_engineSuccess engine program op hreply rfl rfl
      | false =>
        simp only [runCaptured, hreply]
        refine reported_of_engineFailure engine program op (Option.some_ne_none _) rfl ?_
        intro output' errors' h
        rw [hreply] at h
        cases h
        rfl

/-- A job was handed over to the engine: the engine was started for it, if it could be, and the run
succeeds just if the engine does. -/
structure HandedOver (call : EngineCall) (o : Outcome) : Prop where
  calls : o.calls = [call].filter engine.starts
  events : o.events = [.starting]
  failure : o.failure = none ↔ ∃ output errors, engine call = .exited true output errors

/-- A job for which the engine could not be started was handed over in vain. -/
theorem HandedOver.of_notStarted {call : EngineCall} {o : Outcome} {fault : FileFault}
    (hreply : engine call = .notStarted fault) (hcalls : o.calls = [])
    (hevents : o.events = [.starting]) (hfailure : o.failure ≠ none) :
    HandedOver engine call o where
  calls := by simp [hcalls, Engine.starts, hreply]
  events := hevents
  failure := iff_of_false hfailure (by simp [hreply])

/-- A job for which the engine was started was handed over. -/
theorem HandedOver.of_exited {call : EngineCall} {o : Outcome} {success : Bool}
    {output errors : String} (hreply : engine call = .exited success output errors)
    (hcalls : o.calls = [call]) (hevents : o.events = [.starting])
    (hfailure : o.failure = none ↔ success = true) : HandedOver engine call o where
  calls := by simp [hcalls, Engine.starts, hreply]
  events := hevents
  failure := by simp [hfailure, hreply]

/-- A job is handed over when the engine is left the terminal. -/
theorem handedOver_runInherited (payload : Json) :
    HandedOver engine (.ofJob program op payload)
      (runInherited engine program op (.ok payload)) := by
  cases hreply : engine (.ofJob program op payload) with
  | notStarted fault =>
    simp only [runInherited, hreply]
    exact .of_notStarted engine hreply rfl rfl (Option.some_ne_none _)
  | exited success output errors =>
    cases success <;> simp only [runInherited, hreply]
    · exact .of_exited engine hreply rfl rfl
        (iff_of_false (Option.some_ne_none _) Bool.false_ne_true)
    · exact .of_exited engine hreply rfl rfl (iff_of_true rfl rfl)

/-- A job is handed over when its stages are shown. -/
theorem handedOver_runCaptured (payload : Json) :
    HandedOver engine (.ofJob program op payload)
      (runCaptured engine program op (.ok payload)) := by
  cases hreply : engine (.ofJob program op payload) with
  | notStarted fault =>
    simp only [runCaptured, hreply]
    exact .of_notStarted engine hreply rfl rfl (Option.some_ne_none _)
  | exited success output errors =>
    cases success <;> simp only [runCaptured, hreply]
    · exact .of_exited engine hreply rfl rfl
        (iff_of_false (Option.some_ne_none _) Bool.false_ne_true)
    · exact .of_exited engine hreply rfl rfl (iff_of_true rfl rfl)

/-- What becomes of a job.

* The engine is started for a job that is there and not to be shown, in one call, and for nothing
  else; what it answers elsewhere has no influence.
* The run succeeds just if there is a job that is only to be shown, or the engine succeeds.
* A job that is to be shown is printed. -/
structure Executed (printConfig : Bool) (mode : OutputMode) (job : Result Json) : Prop where
  started : ∀ payload, job = .ok payload → printConfig = false →
    (execute engine program op printConfig mode job).calls =
        [EngineCall.ofJob program op payload].filter engine.starts ∧
      (execute engine program op printConfig mode job).events = [.starting]
  unstarted : printConfig = true ∨ (∃ f, job = .error f) →
    (execute engine program op printConfig mode job).calls = [] ∧
      (execute engine program op printConfig mode job).events = []
  asked : ∀ other : Engine, (∀ payload, job = .ok payload → printConfig = false →
      other (.ofJob program op payload) = engine (.ofJob program op payload)) →
    execute other program op printConfig mode job = execute engine program op printConfig mode job
  succeeds : (execute engine program op printConfig mode job).failure = none ↔
    ∃ payload, job = .ok payload ∧ (printConfig = true ∨
      ∃ output errors, engine (.ofJob program op payload) = .exited true output errors)
  printed : ∀ payload, job = .ok payload → printConfig = true →
    (execute engine program op printConfig mode job).transcript = .line payload.pretty
  reported : mode = .captured → printConfig = false →
    Reported engine program op job (execute engine program op printConfig mode job)

/-- A job that is not only to be shown is handed over in either mode. -/
theorem handedOver_execute (mode : OutputMode) (payload : Json) :
    HandedOver engine (.ofJob program op payload)
      (execute engine program op false mode (.ok payload)) := by
  cases mode with
  | captured => exact handedOver_runCaptured engine program op payload
  | inherited => exact handedOver_runInherited engine program op payload

/-- A job that is executed succeeds just if it is there and is only to be shown, or the engine
succeeds with it. -/
theorem failure_execute_eq_none_iff (printConfig : Bool) (mode : OutputMode) (job : Result Json) :
    (execute engine program op printConfig mode job).failure = none ↔
      ∃ payload, job = .ok payload ∧ (printConfig = true ∨
        ∃ output errors, engine (.ofJob program op payload) = .exited true output errors) := by
  cases job with
  | error f =>
    have hnone : ¬ ∃ payload, (Except.error f : Result Json) = .ok payload ∧
        (printConfig = true ∨ ∃ output errors,
          engine (.ofJob program op payload) = .exited true output errors) := by simp
    cases printConfig <;> cases mode <;> exact iff_of_false (Option.some_ne_none _) hnone
  | ok payload =>
    cases printConfig with
    | true => exact iff_of_true rfl ⟨payload, rfl, .inl rfl⟩
    | false =>
      rw [(handedOver_execute engine program op mode payload).failure]
      constructor
      · exact fun h => ⟨payload, rfl, .inr h⟩
      · rintro ⟨payload', h, hprint | hreply⟩
        · exact absurd hprint Bool.false_ne_true
        · obtain rfl := Except.ok.inj h
          exact hreply

/-- Every job is executed in this way. -/
theorem executed (printConfig : Bool) (mode : OutputMode) (job : Result Json) :
    Executed engine program op printConfig mode job where
  started := by
    rintro payload rfl rfl
    have h := handedOver_execute engine program op mode payload
    exact ⟨h.calls, h.events⟩
  unstarted := by
    rintro (rfl | ⟨f, rfl⟩)
    · cases job <;> exact ⟨rfl, rfl⟩
    · cases printConfig <;> cases mode <;> exact ⟨rfl, rfl⟩
  asked := by
    intro other hother
    cases printConfig with
    | true => rfl
    | false =>
      cases job with
      | error f => cases mode <;> rfl
      | ok payload =>
        have hreply := hother payload rfl rfl
        cases mode <;> simp only [execute, runCaptured, runInherited, hreply]
  succeeds := failure_execute_eq_none_iff engine program op printConfig mode job
  printed := by
    rintro payload rfl rfl
    rfl
  reported := by
    rintro rfl rfl
    exact reported_runCaptured engine program op job

end Job

/-! ## Commands -/

/-- The invocation that only shows its job. -/
def CommandLine.Invocation.printing (i : Invocation) : Invocation :=
  { i with globals := { i.globals with printConfig := true } }

/-- The job of a command. -/
def preparedJob (w : World) (i : Invocation) (l : Layer) : Result Json :=
  (prepare w.machine (w.engine.resolver i.engine) i.op l).job

/-- The job of a backup is that of the backup that its options load. -/
theorem preparedJob_of_backup {w : World} {i : Invocation} (hop : i.op = .backup) (l : Layer) :
    preparedJob w i l =
      (BackupService.load .builtIn (w.engine.resolver i.engine) l).result.bind fun s =>
        (s.job w.machine).map (·.payload) := by
  rw [preparedJob, hop, prepare, prepareBackup]
  cases (BackupService.load .builtIn (w.engine.resolver i.engine) l).result <;> rfl

/-- The job of a restore is that of the restore that its options load. -/
theorem preparedJob_of_restore {w : World} {i : Invocation} (hop : i.op = .restore) (l : Layer) :
    preparedJob w i l =
      (RestoreService.load .builtIn (w.engine.resolver i.engine) l).result.bind fun s =>
        s.job.map (·.payload) := by
  rw [preparedJob, hop, prepare, prepareRestore]
  cases (RestoreService.load .builtIn (w.engine.resolver i.engine) l).result <;> rfl

/-- What a command does with its job.

* The engine carries out the job that is there and not to be shown, and no other; besides, it is
  asked for secrets only.
* The command succeeds just if there is a job that is only to be shown, or the engine succeeds.
* It is the same job that the command shows if it is only to be shown. -/
structure Commanded (w : World) (i : Invocation) (l : Layer) : Prop where
  calls : (runCommand w i l).calls.filter (·.isJob i.op) =
    if i.globals.printConfig then []
    else ((preparedJob w i l).toOption.toList.map (EngineCall.ofJob i.engine i.op)).filter
      w.engine.starts
  succeeds : (runCommand w i l).failure = none ↔
    ∃ payload, preparedJob w i l = .ok payload ∧ (i.globals.printConfig = true ∨
      ∃ output errors, w.engine (.ofJob i.engine i.op payload) = .exited true output errors)
  printed : ∀ payload, preparedJob w i l = .ok payload →
    (runCommand w i.printing l).transcript = .line payload.pretty ∧
      (runCommand w i.printing l).failure = none

/-- Every command treats its job in this way. -/
theorem commanded (w : World) (i : Invocation) (l : Layer) : Commanded w i l where
  calls := by
    have h := executed w.engine i.engine i.op i.globals.printConfig
      (prepare w.machine (w.engine.resolver i.engine) i.op l).mode (preparedJob w i l)
    have hhandOver : handOver w i l = execute w.engine i.engine i.op i.globals.printConfig
      (prepare w.machine (w.engine.resolver i.engine) i.op l).mode (preparedJob w i l) := rfl
    rw [calls_runCommand, List.filter_append, Engine.filter_isJob_lookups, List.nil_append,
      hhandOver]
    split
    · rename_i hprint
      rw [(h.unstarted (.inl hprint)).1, List.filter_nil]
    · rename_i hprint
      cases hjob : preparedJob w i l with
      | error f =>
        rw [hjob] at h
        rw [(h.unstarted (.inr ⟨f, rfl⟩)).1]
        rfl
      | ok payload =>
        rw [hjob] at h
        rw [(h.started payload rfl (Bool.eq_false_iff.2 hprint)).1]
        have hkept : ∀ call ∈ [EngineCall.ofJob i.engine i.op payload].filter w.engine.starts,
            call.isJob i.op = true := by
          intro call hcall
          rw [List.mem_singleton.1 (List.mem_filter.1 hcall).1]
          exact beq_self_eq_true _
        exact List.filter_eq_self.2 hkept
  succeeds := (executed w.engine i.engine i.op i.globals.printConfig _ (preparedJob w i l)).succeeds
  printed := by
    intro payload hjob
    have h := executed w.engine i.engine i.op true
      (prepare w.machine (w.engine.resolver i.engine) i.op l).mode (preparedJob w i l)
    exact ⟨h.printed payload hjob rfl, h.succeeds.2 ⟨payload, hjob, .inl rfl⟩⟩

/-- An engine that fails has its lines repeated, those of its standard output first. -/
example : (runCaptured (fun _ => .exited false "a\r\nb" "c\n") "engine" .backup
    (.ok .null)).transcript.errors =
      "\n  Error: command exited non-zero: engine backup\n" ++
      "\n  ► stdout:\n    a\n    b\n" ++ "\n  ► stderr:\n    c\n" ++
      "  ✗  Backup failed.\n    ✗ Engine\n" := by
  decide +kernel

end BackupControl
