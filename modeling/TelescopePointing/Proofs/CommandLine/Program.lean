import TelescopePointing.CommandLine.Program
import TelescopePointing.Decimal.Text
import TelescopePointing.Proofs.Run.Deletion

namespace TelescopePointing

open Disk (ChangesOnly)

variable {α : Type} [Scalar α] [NumberText α]

inductive Arguments.Refused (a : Arguments α) (d : Disk) : Prop
  | file (path : String) (cause : PointingError) (hpath : a.config = some path)
      (hfile : (RunConfig.ofFile d path : Except _ (RunConfig α)) = .error cause)
  | options (config : RunConfig α) (cause : PointingError) (hconfig : a.runConfig d = .ok config)
      (hcheck : config.check .standard = .error cause)

/-- A program that was asked for deletions has its options and its log, but one deletion fails. -/
structure FailedDeletion (a : Arguments α) (d : Disk) where
  config : RunConfig α
  opened : Disk
  fault : RunError
  configured : a.runConfig d = .ok config
  checked : config.check .standard = .ok ()
  logged : Program.openLog a config.basePath d = .ok opened
  failed : ((PointingRun.make config .standard).deleteEntries opened a.delete).result = .error fault

namespace FailedDeletion

variable {a : Arguments α} {d : Disk} (f : FailedDeletion a d)

/-- What the deletions leave, the last one of which has failed. -/
def left : Disk := ((PointingRun.make f.config .standard).deleteEntries f.opened a.delete).disk

def logPath : String := Path.join f.config.basePath Program.logName

end FailedDeletion

namespace Program

omit [Scalar α] [NumberText α] in
theorem openLog_changes {a : Arguments α} {basePath : String} {d opened : Disk}
    (h : openLog a basePath d = .ok opened) :
    d.ChangesOnly [Path.join basePath logName] opened := by
  unfold openLog at h
  split at h
  · obtain rfl := Except.ok.inj h
    exact .refl _ d
  · obtain ⟨made, hmade, hwrite⟩ := bind_eq_ok h
    exact ((ChangesOnly.createFolder hmade).mono (List.nil_subset _)).trans (.write hwrite)

omit [Scalar α] [NumberText α] in
/-- The log is all that is written when a program ends. -/
theorem closeLog_spec (a : Arguments α) (basePath : String) (ending : ProgramEnd)
    (records : List LogRecord) :
    let closed := closeLog a basePath ending records
    closed.exitCode = ending.exitCode ∧ closed.output = ending.output ∧
      (closed.disk = ending.disk ∨
        ∃ text, ending.disk.write (Path.join basePath logName) text = .ok closed.disk) := by
  unfold closeLog
  dsimp only
  split
  · exact ⟨rfl, rfl, .inl rfl⟩
  · split
    next disk hwrite => exact ⟨rfl, rfl, .inr ⟨_, hwrite⟩⟩
    next => exact ⟨rfl, rfl, .inl rfl⟩

theorem start_of_refused {a : Arguments α} {d : Disk} (h : a.Refused d) :
    ∃ text, start a d = failure d text := by
  unfold start
  cases h with
  | file path cause hpath hfile =>
    have hconfig : a.runConfig d = .error cause := by
      unfold Arguments.runConfig
      simp only [hpath, hfile]
      rfl
    rw [hconfig]
    exact ⟨_, rfl⟩
  | options config cause hconfig hcheck =>
    have hrun : (PointingRun.make config .standard).check = .error ⟨.configuration, cause⟩ :=
      congrArg RunStage.configuration.attempt hcheck
    simp only [hconfig, hrun]
    exact ⟨_, rfl⟩

theorem start_of_failedDeletion {a : Arguments α} {d : Disk} (f : FailedDeletion a d) :
    ∃ text records, start a d = closeLog a f.config.basePath (failure f.left text) records := by
  have hrun : (PointingRun.make f.config .standard).check = .ok () :=
    congrArg RunStage.configuration.attempt f.checked
  -- If nothing is asked for, no deletion fails.
  have hids : a.delete.isEmpty = false := by
    rw [List.isEmpty_eq_false_iff]
    intro hnone
    have hfailed := f.failed
    rw [hnone, PointingRun.deleteEntries, hrun] at hfailed
    cases hfailed
  have hwork : ∃ text records, work (.make f.config .standard) a.delete f.opened =
      (failure f.left text, records) := by
    simp only [work, hids, Bool.false_eq_true, if_false, f.failed]
    exact ⟨_, _, rfl⟩
  obtain ⟨text, records, hwork⟩ := hwork
  refine ⟨text, records, ?_⟩
  unfold start
  simp only [f.configured, hrun, f.logged, hwork]

/-- The log has another name than any table. -/
theorem place_table_ne {d : Disk} {basePath : String} {r : Report α}
    {t : String × List (List String)} (ht : t ∈ r.tables) {p q : List String}
    (hp : d.place (Path.join basePath t.1) = .ok p)
    (hq : d.place (Path.join basePath logName) = .ok q) : p ≠ q := by
  have htable : ∃ stem, t.1 = stem ++ ".csv" := by
    simp only [Report.tables, List.mem_cons, List.not_mem_nil, or_false] at ht
    rcases ht with rfl | rfl | rfl <;> exact ⟨_, rfl⟩
  obtain ⟨stem, hstem⟩ := htable
  have hlog : logName = "pointfit" ++ ".log" := by decide
  rw [hstem] at hp
  rw [hlog] at hq
  obtain ⟨name, hplast⟩ := Disk.place_join_getLast? hp (by decide) (by decide)
  obtain ⟨name', hqlast⟩ := Disk.place_join_getLast? hq (by decide) (by decide)
  -- Whatever the folder and the name, the endings are not the same.
  rintro rfl
  rw [hplast, Option.some.injEq, String.ofList_inj] at hqlast
  have hending := (List.append_inj' hqlast (by decide)).2
  exact absurd hending (by decide)

end Program

namespace FailedDeletion

variable {a : Arguments α} {d : Disk} (f : FailedDeletion a d)

theorem left_changes :
    d.ChangesOnly (f.logPath :: ObservationFile.deletionPaths f.config.observationPath) f.left :=
  ((Program.openLog_changes f.logged).mono (by simp [logPath])).trans
    ((PointingRun.deleteEntries_changes _ f.opened a.delete).mono (List.subset_cons_self _ _))

structure Ends (ending : ProgramEnd) : Prop where
  exitCode : ending.exitCode = 1
  output : ending.output = []
  log : ending.disk = f.left ∨ ∃ text, f.left.write f.logPath text = .ok ending.disk
  changes : d.ChangesOnly (f.logPath :: ObservationFile.deletionPaths f.config.observationPath)
    ending.disk
  tables : ∀ (r : Report α), ∀ t ∈ r.tables, ∀ q,
    ending.disk.place (Path.join f.config.basePath t.1) = .ok q →
      ending.disk.node? q = f.left.node? q

theorem start_ends : f.Ends (Program.start a d) := by
  obtain ⟨text, records, hstart⟩ := Program.start_of_failedDeletion f
  obtain ⟨hexit, houtput, hlog⟩ :=
    Program.closeLog_spec a f.config.basePath (Program.failure f.left text) records
  rw [← hstart] at hexit houtput hlog
  refine ⟨hexit, houtput, hlog, ?_, fun r t ht q hq => ?_⟩
  · rcases hlog with hsame | ⟨log, hwrite⟩
    · rw [hsame]
      exact f.left_changes
    · exact f.left_changes.trans ((ChangesOnly.write hwrite).mono (by simp [logPath]))
  · rcases hlog with hsame | ⟨log, hwrite⟩
    · rw [hsame]
      rfl
    · obtain ⟨p, hp, hn, -, hput⟩ := Disk.write_eq_ok_iff.mp hwrite
      rw [hput] at hq ⊢
      exact Disk.node?_put_of_ne _ _
        (Program.place_table_ne ht hq ((Disk.KeepsFolders.put hn _).place hp))

end FailedDeletion

/-- Where a command line cannot be carried out, nothing is done by halves. Options that cannot be
had or are inconsistent leave the disk as it is, whatever else is asked for. After a deletion that
fails only the log is still written, and no table of any report comes to be or is replaced. -/
theorem run_stops (words : List String) (d : Disk) :
    (∀ stop, (CommandLine.parse words : Except _ (Arguments α)) = .error stop →
      (Program.run α words d).disk = d) ∧
    ∀ a : Arguments α, CommandLine.parse words = .ok a →
      (a.Refused d → ∃ text, Program.run α words d = ⟨1, [], [text], d⟩) ∧
      ∀ f : FailedDeletion a d, f.Ends (Program.run α words d) := by
  refine ⟨fun stop hstop => ?_, fun a ha => ⟨fun hrefused => ?_, fun f => ?_⟩⟩
  · rw [Program.run, hstop]
    cases stop <;> rfl
  · rw [Program.run, ha]
    exact Program.start_of_refused hrefused
  · rw [Program.run, ha]
    exact f.start_ends

omit [NumberText α] in
theorem standard_observationPath :
    (RunConfig.standard (α := α)).observationPath = "/tmp/u_point/analyzed_positions.anl" := by
  have hrelative : "analyzed_positions.anl".startsWith "/" = false :=
    Path.startsWith_slash_eq_false (by decide)
  have hempty : "/tmp/u_point/".isEmpty = false := by decide
  have hslash : "/tmp/u_point/".endsWith "/" = true := by
    rw [Path.endsWith_iff]
    decide
  change Path.join "/tmp/u_point/" "analyzed_positions.anl" = _
  rw [Path.join, hrelative, hempty, hslash]
  decide

theorem delete_of_empty : ObservationFile.delete ⟨[], []⟩ "/tmp/u_point/analyzed_positions.anl" 7 =
    (.error (ObservationFile.unavailable "/tmp/u_point/analyzed_positions.anl"
      DiskFault.notFound.message), ⟨[], []⟩) := by
  have hcheck : Disk.checkPath "/tmp/u_point/analyzed_positions.anl" = .ok () :=
    Disk.checkPath_eq_ok (by decide) (by decide)
  have hnames : Path.components "/tmp/u_point/analyzed_positions.anl" =
      ["tmp", "u_point", "analyzed_positions.anl"] := by
    rw [Path.components_eq]
    decide
  have hslash : "/tmp/u_point/analyzed_positions.anl".startsWith "/" = true :=
    (Path.startsWith_iff _ _).mpr (by decide)
  have hread : Disk.read ⟨[], []⟩ "/tmp/u_point/analyzed_positions.anl" = .error .notFound := by
    unfold Disk.read Disk.place Disk.origin
    rw [hcheck, hnames, hslash]
    rfl
  simp only [ObservationFile.delete, hread]

theorem run_stops_seven :
    let conflicting := ["--fit-eq", "--fit-plus-poly", "--delete", "7"]
    let missing := ["--toconsole", "--delete", "7"]
    let d : Disk := ⟨[], []⟩
    (∃ a : Arguments Float, CommandLine.parse conflicting = .ok a ∧ a.Refused d ∧
      ∃ text, Program.run Float conflicting d = ⟨1, [], [text], d⟩) ∧
    ∃ a : Arguments Float, CommandLine.parse missing = .ok a ∧
      ∃ f : FailedDeletion a d, f.Ends (Program.run Float missing d) := by
  intro conflicting missing d
  have hdelete : "--delete".startsWith "--" = true := by decide +kernel
  have hseven : CommandLine.isOptionWord "7" = false := by decide +kernel
  constructor
  · let a : Arguments Float :=
      { Arguments.standard with equatorialFit := true, harmonics := true, delete := [7] }
    have hequatorial : "--fit-eq".startsWith "--" = true := by decide +kernel
    have hharmonics : "--fit-plus-poly".startsWith "--" = true := by decide +kernel
    have ha : CommandLine.parse conflicting = .ok a := by
      simp only [conflicting, CommandLine.parse, CommandLine.parseWords, CommandLine.takeWord,
        CommandLine.takeOption, hequatorial, hharmonics, hdelete, hseven, if_true]
      rfl
    have hconflict : (a.override .standard).check .standard = .error (.configurationConflict
        "fit_eq (or t_point) and fit_plus_poly are mutually exclusive") := if_pos rfl
    have hrefused : a.Refused d := .options _ _ rfl hconflict
    exact ⟨a, ha, hrefused, ((run_stops conflicting d).2 a ha).1 hrefused⟩
  · let a : Arguments Float := { Arguments.standard with toConsole := true, delete := [7] }
    have hconsole : "--toconsole".startsWith "--" = true := by decide +kernel
    have ha : CommandLine.parse missing = .ok a := by
      simp only [missing, CommandLine.parse, CommandLine.parseWords, CommandLine.takeWord,
        CommandLine.takeOption, hconsole, hdelete, hseven, if_true]
      rfl
    have hcheck : (RunConfig.standard (α := Float)).check .standard = .ok () := rfl
    have hfails : ∃ fault, ((PointingRun.make (α := Float) .standard .standard).deleteEntries d
        [7]).result = .error fault := by
      have hrun : (PointingRun.make (α := Float) .standard .standard).check = .ok () :=
        congrArg RunStage.configuration.attempt hcheck
      have hpath : (PointingRun.make (α := Float) .standard .standard).config.observationPath = _ :=
        standard_observationPath
      rw [PointingRun.deleteEntries, hrun, hpath]
      dsimp only [Deletion.ofFile]
      rw [delete_of_empty]
      exact ⟨_, rfl⟩
    obtain ⟨fault, hfailed⟩ := hfails
    let f : FailedDeletion a d := ⟨.standard, d, fault, rfl, hcheck, rfl, hfailed⟩
    exact ⟨a, ha, f, ((run_stops missing d).2 a ha).2 f⟩

end TelescopePointing
