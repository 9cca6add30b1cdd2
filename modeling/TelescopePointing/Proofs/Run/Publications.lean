import TelescopePointing.Proofs.LeastSquares.History
import TelescopePointing.Proofs.Model.Registry
import TelescopePointing.Proofs.Report.Publication
import TelescopePointing.Proofs.Run.Cost
import TelescopePointing.Proofs.Run.Effects

namespace TelescopePointing

variable {σ α : Type} [Scalar α]

def FittedModel.IsFull (f : FittedModel α) : Prop :=
  f.parameters.length = f.model.parameterNames.length

theorem ModelFit.onPairs_isFull (pairs : List (StarPair α)) (m : PointingModel α)
    (settings : LeastSquares.Settings α) : (onPairs pairs m settings).IsFull := by
  obtain ⟨x, hx, iterations, status, hr⟩ := LeastSquares.minimize_evaluated
    (residuals m (pairs.map StarPair.rawOffset)) m.start settings
  change (LeastSquares.minimize _ m.start settings).parameters.length = _
  rw [hr]
  exact hx.length.trans (List.length_map _)

theorem mountModels_tags (siteLatitude : α) :
    (mountModels siteLatitude).map (·.tag) = ["condon1992", "c_plus_poly", "buie2003"] := rfl

variable [NumberText α]

namespace PointingRun

variable {run : PointingRun α} {store : ObservationStore α}

namespace Preparation

variable (p : run.Preparation store)

theorem tags_sublist (all : FitOutcome α) :
    (p.tags all).Sublist (["", "_selected", "_dropped"].map (p.tag ++ ·)) := by
  have hrefit : ∀ indices subset,
      (p.refitTag indices subset).toList.Sublist [p.tag ++ ("_" ++ subset)] := by
    intro indices subset
    unfold refitTag
    split
    · change [p.tag ++ "_" ++ subset].Sublist _
      rw [String.append_assoc]
    · exact List.nil_sublist _
  have hfirst : [p.tag].Sublist [p.tag ++ ""] := by rw [String.append_empty]
  exact (hfirst.append (hrefit _ _)).append (hrefit _ _)

theorem nodup_tags (all : FitOutcome α) : (p.tags all).Nodup := by
  have hendings : ["", "_selected", "_dropped"].Nodup := by decide
  refine List.Nodup.sublist (p.tags_sublist all) (hendings.map fun ending other h => ?_)
  exact (String.append_right_inj p.tag).mp h

theorem slash_not_mem_tag (h : run.registry = .standard) : '/' ∉ p.tag.toList := by
  have hmodel : '/' ∉ p.model.tag.toList := by
    have hplain : ∀ tag ∈ ["condon1992", "c_plus_poly", "buie2003"], '/' ∉ tag.toList := by decide
    have hcreate := (RunConfig.pointingModel_eq_ok p.configured).1
    rw [h] at hcreate
    have hm := (mem_mountModels_iff _ p.model).mpr ⟨_, hcreate⟩
    refine hplain _ ?_
    rw [← mountModels_tags run.config.site.latitudeAngle]
    exact List.mem_map_of_mem hm
  have hstrategy : '/' ∉ run.config.strategy.tag.toList := by
    cases run.config.strategy <;> decide
  change '/' ∉ (p.model.tag ++ "_" ++ run.config.strategy.tag).toList
  simp [hmodel, hstrategy]

theorem slash_not_mem_of_mem_tags (h : run.registry = .standard) {all : FitOutcome α}
    {tag : String} (htag : tag ∈ p.tags all) : '/' ∉ tag.toList := by
  have hendings : ∀ ending ∈ ["", "_selected", "_dropped"], '/' ∉ ending.toList := by decide
  obtain ⟨ending, hending, rfl⟩ := List.mem_map.mp ((p.tags_sublist all).mem htag)
  simp [p.slash_not_mem_tag h, hendings ending hending]

end Preparation

omit [NumberText α] in
theorem isFull_of_reports {model : PointingModel α} {qs : List (FitRequest α)}
    {reports : List (Report α × Bool)} (h : List.Forall₂ (run.Reports model) qs reports) :
    ∀ x ∈ reports, x.1.fitted.IsFull := by
  induction h with
  | nil => exact nofun
  | @cons q x qs reports hx _ ih =>
    obtain ⟨r, taken⟩ := x
    obtain ⟨o, ho, rfl⟩ := hx
    obtain ⟨_, -, rfl⟩ := FitOutcome.ofFit_eq_ok_iff.mp ho
    exact List.forall_mem_cons.mpr ⟨ModelFit.onPairs_isFull _ _ _, ih⟩

variable (run) in
structure Reporting (reports : List (Report α)) : Prop where
  keys : (reports.map Report.key).Nodup
  full : ∀ r ∈ reports, r.fitted.IsFull
  tags : run.registry = .standard → ∀ r ∈ reports, '/' ∉ r.tag.toList

theorem Preparation.Reported.reporting {p : run.Preparation store} {sink : Sink σ α} {before : σ}
    {all : FitOutcome α} {result : Except RunError (RunSummary α)}
    {reports : List (Report α × Bool)} (h : p.Reported sink before all result reports) :
    run.Reporting (reports.map (·.1)) := by
  obtain ⟨done, left, -, hreports⟩ := h.contents
  constructor
  case keys =>
    have htags := (p.nodup_tags all).sublist h.tags.sublist
    refine List.Nodup.of_map Prod.snd ?_
    rwa [List.map_map, List.map_map]
  case full => exact List.forall_mem_map.mpr (isFull_of_reports hreports)
  case tags =>
    intro hstandard
    refine List.forall_mem_map.mpr fun x hx => ?_
    exact p.slash_not_mem_of_mem_tags hstandard (h.tags.subset (List.mem_map_of_mem hx))

theorem run_reporting (run : PointingRun α) (store : ObservationStore α) (sink : Sink σ α)
    (s : Session σ α) : ∃ events, ((run.run store sink).run s).2.events = s.events ++ events ∧
      run.Reporting ((publications events).map (·.1)) := by
  obtain ⟨events, happended, hcourse⟩ := run.run_course store sink s
  refine ⟨events, happended, ?_⟩
  rcases hcourse.effects.reported with ⟨-, hnone⟩ | ⟨p, all, rest, -, rfl, hpreamble, hreported⟩
  · rw [hnone]
    exact ⟨.nil, nofun, fun _ => nofun⟩
  · rw [publications_append, hpreamble, List.nil_append]
    exact hreported.reporting

end PointingRun

/-- A folder of tables loses and overwrites nothing that it takes, when the reports differ in their
frames or tags and no tag holds a slash; and it takes everything that it has room for. The reports
of a run are such reports, with a value for every parameter of its model. -/
theorem reports_kept :
    (∀ (s s' : TableSink) (reports : List (Report α)), s.Publishes reports s' →
      (∀ r ∈ reports, '/' ∉ r.tag.toList) → (reports.map Report.key).Nodup →
        s.Collects reports s' ∧
        ∀ r : Report α, '/' ∉ r.tag.toList → r.key ∉ reports.map Report.key →
          s'.Preserves reports (TableSink.publish r s').sink) ∧
    (∀ (s : TableSink) (reports : List (Report α)),
      s.HasRoom (reports.flatMap Report.tableNames) → ∃ s', s.Publishes reports s') ∧
    ∀ {σ : Type} (run : PointingRun α) (store : ObservationStore α) (sink : Sink σ α)
      (s : Session σ α), ∃ events, ((run.run store sink).run s).2.events = s.events ++ events ∧
        run.Reporting ((publications events).map (·.1)) := by
  refine ⟨fun s s' reports h htags hkeys => ⟨h.collects htags hkeys, fun r htag hkey =>
    h.preserves htags hkeys htag hkey⟩, fun s reports h => ?_, fun run => run.run_reporting⟩
  exact h.publishes fun r hr n hn => List.mem_flatMap.mpr ⟨r, hr, hn⟩

section Example

/-- A folder that has three folders in it, each named like the beginning of a table. -/
def crowdedSink : TableSink :=
  .make "out" ⟨[], [(["out"], .folder), (["out", "residual_az_alt_d"], .folder),
    (["out", "projection_az_alt_d"], .folder), (["out", "parameters_az_alt_d"], .folder)]⟩ .standard

noncomputable def starReport (tag : String) (parameters : List ℝ) : Report ℝ where
  tag := tag
  fitted := ⟨AltAzimuth.basic, parameters, .converged, 1, 0, 1⟩
  points := [⟨measured.catalog, measured.mount, 0, 0, 0, 0, 1, none⟩]
  selection := ⟨[0], []⟩
  projections := []
  frame := .horizon

def crowdedPlaces : List (String × List String) :=
  (["a", "b"].flatMap fun tag => Artifact.tableKinds.map fun kind =>
    let name := Artifact.tableName kind FitFrame.horizon.axes tag
    (name, ["out", name])) ++
  Artifact.tableKinds.map fun kind =>
    (Artifact.tableName kind FitFrame.horizon.axes "d/../x", ["out", "x.csv"])

theorem crowdedSink_join : ∀ e ∈ crowdedPlaces,
    Path.join crowdedSink.folder e.1 = "out/" ++ e.1 := by
  have hstart : ∀ e ∈ crowdedPlaces, e.1.toList.head? ≠ some '/' := by decide
  have hfolder : "out".endsWith "/" = false := by
    rw [Bool.eq_false_iff, ne_eq, Path.endsWith_iff]
    decide
  intro e he
  change Path.join "out" e.1 = _
  rw [Path.join, Path.startsWith_slash_eq_false (hstart e he), hfolder]
  rfl

theorem crowdedSink_place : ∀ e ∈ crowdedPlaces,
    crowdedSink.disk.place ("out/" ++ e.1) = .ok e.2 ∧ crowdedSink.disk.node? e.2 = none := by
  have hzero : ∀ e ∈ crowdedPlaces, '\x00' ∉ ("out/" ++ e.1).toList := by decide
  have hsize : ∀ e ∈ crowdedPlaces, ("out/" ++ e.1).utf8ByteSize < 4096 := by decide
  intro e he
  have hrelative : ("out/" ++ e.1).startsWith "/" = false :=
    Path.startsWith_slash_eq_false (by simp)
  unfold Disk.place Disk.origin
  rw [Disk.checkPath_eq_ok (hzero e he) (hsize e he), hrelative, Path.components_eq]
  clear hrelative
  revert e
  simp only [crowdedPlaces, Artifact.tableKinds, List.flatMap_cons, List.flatMap_nil,
    List.map_cons, List.map_nil, List.forall_mem_cons, List.forall_mem_append,
    List.not_mem_nil, false_implies, implies_true, and_true]
  and_intros <;> rfl

theorem crowdedSink_hasRoom : crowdedSink.HasRoom (crowdedPlaces.map Prod.fst) := by
  constructor
  case folder =>
    refine ⟨Disk.checkPath_eq_ok (by decide) (by decide), ["out"], ?_⟩
    have hrelative : crowdedSink.folder.startsWith "/" = false :=
      Path.startsWith_slash_eq_false (by decide)
    rw [Disk.origin, hrelative, Path.components_eq]
    rfl
  case files =>
    have hpoint : ∀ e ∈ crowdedPlaces, ((((("out/" ++ e.1).toList.splitOn '/').map
      String.ofList).filter (· != "")).getLast? == some ".") = false := by decide
    have hslash : ∀ e ∈ crowdedPlaces, ¬ "/".toList <:+ ("out/" ++ e.1).toList := by decide
    refine List.forall_mem_map.mpr fun e he => ?_
    obtain ⟨hplace, hnode⟩ := crowdedSink_place e he
    rw [crowdedSink_join e he]
    constructor
    case free =>
      refine ⟨e.2, hplace, ?_⟩
      rw [hnode]
      exact (Option.some_ne_none _).symm
    case names =>
      constructor
      · rw [Path.components_eq]
        exact hpoint e he
      · rw [Bool.eq_false_iff, ne_eq, Path.endsWith_iff]
        exact hslash e he

theorem crowdedSink_leads {s : TableSink} {names : List String} (h : crowdedSink.Writes names s)
    {name : String} {p : List String} (hmem : (name, p) ∈ crowdedPlaces) :
    s.disk.place (Path.join s.folder name) = .ok p := by
  have hplace := (crowdedSink_place _ hmem).1
  rw [← crowdedSink_join _ hmem] at hplace
  rw [h.folder]
  exact h.changes.toKeepsFolders.place hplace

theorem starReport_names {tag : String} (htag : tag ∈ ["a", "b", "d/../x"]) (parameters : List ℝ) :
    (starReport tag parameters).tableNames ⊆ crowdedPlaces.map Prod.fst := by
  have hall : ∀ tag ∈ ["a", "b", "d/../x"], Artifact.tableKinds.map (fun kind =>
      Artifact.tableName kind FitFrame.horizon.axes tag) ⊆ crowdedPlaces.map Prod.fst := by decide
  exact hall tag htag

theorem starReport_refused [NumberText ℝ] {s : TableSink} (h : s.disk.HasFolder s.folder)
    (parameters : List ℝ) :
    ∃ cause, (TableSink.publish (starReport "\x00" parameters) s).result = .error cause := by
  have hzero : '\x00' ∈ (Path.join s.folder
      (Artifact.tableName "residual" FitFrame.horizon.axes "\x00")).toList := by
    obtain ⟨start, hstart⟩ := Path.join_eq_append s.folder
      (Artifact.tableName "residual" FitFrame.horizon.axes "\x00")
    have hname : '\x00' ∈ (Artifact.tableName "residual" FitFrame.horizon.axes "\x00").toList := by
      decide
    rw [hstart, String.toList_append]
    exact List.mem_append_right _ hname
  unfold TableSink.publish
  rw [h.createFolder]
  simp only [Report.tables, TableSink.write, starReport, Disk.write_of_zero hzero]
  exact ⟨_, rfl⟩

theorem reports_kept_two : letI := roundedText
    let reports := [starReport "a" (List.replicate 8 0), starReport "b" (List.replicate 8 1)]
    let refused := starReport "\x00" []
    (crowdedSink.HasRoom (reports.flatMap Report.tableNames) ∧
      ∃ s', crowdedSink.Publishes reports s' ∧ crowdedSink.Collects reports s' ∧
        (∃ cause, (TableSink.publish refused s').result = .error cause) ∧
        s'.Preserves reports (TableSink.publish refused s').sink) ∧
    ∃ events, ((refitting.run (.ofList [measuredStar]) tagSink).run (.start [])).2.events = events ∧
      ∀ r ∈ (publications events).map (·.1), '/' ∉ r.tag.toList := by
  let := roundedText
  intro reports refused
  obtain ⟨hkept, htakes, hrun⟩ := reports_kept (α := ℝ)
  constructor
  · have hroom : crowdedSink.HasRoom (reports.flatMap Report.tableNames) := by
      have hnames : ∀ r ∈ reports, r.tableNames ⊆ crowdedPlaces.map Prod.fst := by
        rw [List.forall_mem_cons, List.forall_mem_singleton]
        exact ⟨starReport_names (by decide) _, starReport_names (by decide) _⟩
      refine crowdedSink_hasRoom.mono fun n hn => ?_
      obtain ⟨r, hr, hn⟩ := List.mem_flatMap.mp hn
      exact hnames r hr hn
    obtain ⟨s', hpublishes⟩ := htakes crowdedSink reports hroom
    obtain ⟨hcollects, hpreserves⟩ :=
      hkept crowdedSink s' reports hpublishes (by decide) (by decide)
    refine ⟨hroom, s', hpublishes, hcollects, starReport_refused ?_ [],
      hpreserves refused (by decide) (by decide)⟩
    have hwrites := (hpublishes.writes (by decide) (by decide)).1
    exact hwrites.folder ▸ hroom.folder.mono hwrites.changes.toKeepsFolders
  · obtain ⟨events, hevents, hreporting⟩ :=
      hrun refitting (.ofList [measuredStar]) tagSink (.start [])
    exact ⟨events, hevents, hreporting.tags rfl⟩

/-- A tag with a slash can lead all tables of a report into one file, and a parameter that the fit
has no value for has no row. -/
theorem reports_lost : letI := roundedText
    (let r := starReport "d/../x" (List.replicate 8 0)
      ∃ s', crowdedSink.Publishes [r] s' ∧ ¬ s'.Keeps r) ∧
    let r := starReport "a" [1, 2]
    ∃ s', crowdedSink.Publishes [r] s' ∧ r.fitted.model.parameterNames.length = 8 ∧
      ∃ residual projection parameters : String,
        (s'.paths r).map s'.disk.read = [.ok residual, .ok projection, .ok parameters] ∧
          (Table.ofText parameters).rows.length = 2 := by
  let := roundedText
  constructor
  · intro r
    obtain ⟨hok, hwrites, -⟩ :=
      crowdedSink_hasRoom.publish (r := r) (starReport_names (by decide) _)
    refine ⟨_, .next hok (.done _), ?_⟩
    rintro ⟨residual, projection, parameters, hreads, htables⟩
    have hplace : ∀ kind ∈ Artifact.tableKinds, (TableSink.publish r crowdedSink).sink.disk.place
        (Path.join (TableSink.publish r crowdedSink).sink.folder
          (Artifact.tableName kind FitFrame.horizon.axes "d/../x")) = .ok ["out", "x.csv"] := by
      intro kind hkind
      exact crowdedSink_leads hwrites (List.mem_append_right _ (List.mem_map_of_mem hkind))
    simp only [TableSink.paths, Report.tableNames, Artifact.tableKinds, List.map_cons,
      List.map_nil, List.cons.injEq, and_true] at hreads
    obtain ⟨hresidual, -, hparameters⟩ := hreads
    have hsame : residual = parameters := by
      refine Disk.read_unique ?_ hresidual hparameters
      exact (hplace "residual" (by decide)).trans (hplace "parameters" (by decide)).symm
    have hrows : 1 = 8 := calc
      1 = (Table.ofText residual).rows.length := htables.length_residual.symm
      _ = (Table.ofText parameters).rows.length := by rw [hsame]
      _ = 8 := htables.length_parameters
    exact absurd hrows (by decide)
  · intro r
    obtain ⟨hok, -, -⟩ :=
      crowdedSink_hasRoom.publish (r := r) (starReport_names (by decide) _)
    have hpublishes : crowdedSink.Publishes [r] _ := .next hok (.done _)
    have hkept := hpublishes.collects (by decide) (List.nodup_singleton _)
    obtain ⟨residual, projection, parameters, hreads, htables⟩ := hkept.tables r (by simp)
    exact ⟨_, hpublishes, rfl, _, _, _, hreads, htables.length_parameters⟩

end Example

end TelescopePointing
