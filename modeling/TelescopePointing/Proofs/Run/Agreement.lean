import TelescopePointing.Proofs.Alike
import TelescopePointing.Run.Fitting

namespace TelescopePointing

namespace Running

variable {σ α β γ δ ζ : Type}

theorem run_bind (x : Running σ α β) (f : β → Running σ α γ) (s : Session σ α) :
    (x >>= f).run s = match x.run s with
      | (.ok a, t) => (f a).run t
      | (.error e, t) => (.error e, t) := by
  change ExceptT.bindCont f (x.run s).1 (x.run s).2 = _
  rcases x.run s with ⟨_ | _, t⟩ <;> rfl

theorem attempt_ok_bind (stage : RunStage) (b : β) (f : β → Running σ α γ) :
    attempt stage (.ok b) >>= f = f b :=
  pure_bind b f

/-- From related sinks, two runs have related results or related errors, and leave related sinks.
Their records may differ. -/
def AgreeUpTo (E : RunError → RunError → Prop) (R : σ → σ → Prop) (Q : β → γ → Prop)
    (x : Running σ α β) (y : Running σ α γ) : Prop :=
  ∀ s t : Session σ α, R s.sink t.sink →
    AlikeUpTo E Q (x.run s).1 (y.run t).1 ∧ R (x.run s).2.sink (y.run t).2.sink

namespace AgreeUpTo

variable {E : RunError → RunError → Prop} {R : σ → σ → Prop} {Q : β → γ → Prop} {T : δ → ζ → Prop}

theorem bind {x : Running σ α β} {y : Running σ α γ} (h : AgreeUpTo E R Q x y)
    {f : β → Running σ α δ} {g : γ → Running σ α ζ}
    (hfg : ∀ a b, Q a b → AgreeUpTo E R T (f a) (g b)) :
    AgreeUpTo E R T (x >>= f) (y >>= g) := by
  intro s t hsink
  obtain ⟨halike, hafter⟩ := h s t hsink
  rw [run_bind, run_bind]
  generalize x.run s = p at halike hafter
  generalize y.run t = q at halike hafter
  obtain ⟨p, s'⟩ := p
  obtain ⟨q, t'⟩ := q
  cases halike with
  | ok hab => exact hfg _ _ hab s' t' hafter
  | error he => exact ⟨.error he, hafter⟩

theorem attempt {E' : PointingError → PointingError → Prop} (stage : RunStage)
    (hE : ∀ c c', E' c c' → E ⟨stage, c⟩ ⟨stage, c'⟩) {x : Except PointingError β}
    {y : Except PointingError γ} (h : AlikeUpTo E' Q x y) :
    AgreeUpTo (α := α) E R Q (attempt stage x) (attempt stage y) := by
  cases h with
  | ok h => exact fun _ _ hsink => ⟨.ok h, hsink⟩
  | error h => exact fun _ _ hsink => ⟨.error (hE _ _ h), hsink⟩

end AgreeUpTo

def Agree (R : σ → σ → Prop) (Q : β → γ → Prop) (x : Running σ α β) (y : Running σ α γ) : Prop :=
  ∀ s t : Session σ α, R s.sink t.sink →
    Alike Q (x.run s).1 (y.run t).1 ∧ R (x.run s).2.sink (y.run t).2.sink

theorem agree_iff {R : σ → σ → Prop} {Q : β → γ → Prop} {x : Running σ α β} {y : Running σ α γ} :
    Agree R Q x y ↔ AgreeUpTo Eq R Q x y := by
  simp only [Agree, AgreeUpTo, AlikeUpTo.alike_iff]

namespace Agree

variable {R : σ → σ → Prop} {Q : β → γ → Prop} {T : δ → ζ → Prop}

theorem pure {a : β} {b : γ} (h : Q a b) : Agree (α := α) R Q (pure a) (pure b) :=
  fun _ _ hsink => ⟨.ok h, hsink⟩

theorem throw (e : RunError) : Agree (α := α) R Q (throw e) (throw e) :=
  fun _ _ hsink => ⟨.error e, hsink⟩

theorem bind {x : Running σ α β} {y : Running σ α γ} (h : Agree R Q x y)
    {f : β → Running σ α δ} {g : γ → Running σ α ζ} (hfg : ∀ a b, Q a b → Agree R T (f a) (g b)) :
    Agree R T (x >>= f) (y >>= g) := by
  rw [agree_iff] at h ⊢
  exact h.bind fun a b hab => agree_iff.mp (hfg a b hab)

theorem upTo {E : RunError → RunError → Prop} (hE : ∀ e, E e e) {x : Running σ α β}
    {y : Running σ α γ} (h : Agree R Q x y) : AgreeUpTo E R Q x y := by
  intro s t hsink
  obtain ⟨halike, hafter⟩ := agree_iff.mp h s t hsink
  exact ⟨halike.mono (fun e _ he => he ▸ hE e) fun _ _ h => h, hafter⟩

theorem logged (records records' : List LogRecord) :
    Agree (α := α) R (fun _ _ => True) (logged records) (logged records') :=
  fun _ _ hsink => ⟨.ok trivial, hsink⟩

theorem opened (description : String) :
    Agree (α := α) R (fun _ _ => True) (opened description) (opened description) :=
  fun _ _ hsink => ⟨.ok trivial, hsink⟩

theorem attempt (stage : RunStage) {x : Except PointingError β} {y : Except PointingError γ}
    (h : Alike Q x y) : Agree (α := α) R Q (attempt stage x) (attempt stage y) := by
  cases h with
  | ok h => exact .pure h
  | error e => exact .throw ⟨stage, e⟩

end Agree

end Running

/-- A sink answers related reports alike, and related states of it stay related. -/
def Sink.Indifferent {σ α : Type} (sink : Sink σ α) (R : σ → σ → Prop)
    (P : Report α → Report α → Prop) : Prop :=
  ∀ r r', P r r' → ∀ s s', R s s' →
    (sink.publish r s).result = (sink.publish r' s').result ∧
      R (sink.publish r s).sink (sink.publish r' s').sink

theorem Running.run_publish {σ α : Type} (sink : Sink σ α) (r : Report α) (s : Session σ α) :
    ∃ events, (Running.publish sink r).run s =
      (Running.attempt .output (sink.publish r s.sink).result).run
        ⟨(sink.publish r s.sink).sink, events⟩ :=
  ⟨_, rfl⟩

theorem Running.Agree.publish {σ α : Type} {R : σ → σ → Prop} {P : Report α → Report α → Prop}
    {sink : Sink σ α} (hsink : sink.Indifferent R P) {r r' : Report α} (h : P r r') :
    Agree R (fun _ _ => True) (Running.publish sink r) (Running.publish sink r') := by
  intro s t hst
  obtain ⟨hresult, hafter⟩ := hsink r r' h s.sink t.sink hst
  obtain ⟨events, hs⟩ := run_publish sink r s
  obtain ⟨events', ht⟩ := run_publish sink r' t
  rw [hs, ht, ← hresult]
  exact Agree.attempt .output (Alike.refl (fun _ => trivial) _) _ _ hafter

namespace PointingRun

open Running

variable {σ α : Type} [Scalar α] [NumberText α] {R : σ → σ → Prop} {sink : Sink σ α}
  {model : PointingModel α} {pairs pairs' : List (StarPair α)}
  {Q T : FitOutcome α → FitOutcome α → Prop} (run : PointingRun α)

theorem analyse_agree_of {F : FittedModel α → FittedModel α → Prop} (tag : String)
    (hfit : Alike F (ModelFit.fit pairs (List.range pairs.length) model run.solver)
      (ModelFit.fit pairs' (List.range pairs'.length) model run.solver))
    (houtcome : ∀ f g, F f g →
      Alike Q (FitOutcome.ofFit tag pairs f run.config.bins run.config.thresholdAngle)
        (FitOutcome.ofFit tag pairs' g run.config.bins run.config.thresholdAngle)) :
    Agree R Q (run.analyse model pairs tag) (run.analyse model pairs' tag) := by
  unfold analyse
  dsimp only
  refine (Agree.logged _ _).bind fun _ _ _ => ?_
  refine (Agree.attempt _ hfit).bind fun f g hfg => ?_
  refine (Agree.attempt _ (houtcome f g hfg)).bind fun o o' ho => ?_
  exact (Agree.logged _ _).bind fun _ _ _ => .pure ho

theorem analyseAndPublish_agree_of {P : Report α → Report α → Prop}
    (hsink : sink.Indifferent R P)
    (hreport : ∀ o o', Q o o' →
      P { o with frame := run.config.frame } { o' with frame := run.config.frame })
    {tag : String} (h : Agree R Q (run.analyse model pairs tag) (run.analyse model pairs' tag)) :
    Agree R Q (run.analyseAndPublish sink model pairs tag)
      (run.analyseAndPublish sink model pairs' tag) := by
  unfold analyseAndPublish
  refine h.bind fun o o' ho => ?_
  exact (Agree.publish hsink (hreport o o' ho)).bind fun _ _ _ => .pure ho

theorem refit_agree_of {indices indices' : List Nat} (hempty : indices'.isEmpty = indices.isEmpty)
    (hQ : ∀ o o', Q o o' → T o o') (tag subset : String)
    (h : Agree R Q
      (run.analyseAndPublish sink model (indices.filterMap fun i => pairs[i]?) s!"{tag}_{subset}")
      (run.analyseAndPublish sink model (indices'.filterMap fun i => pairs'[i]?)
        s!"{tag}_{subset}")) :
    Agree R (Option.Rel T) (run.refit sink model pairs indices tag subset)
      (run.refit sink model pairs' indices' tag subset) := by
  unfold refit
  rw [hempty]
  split
  · exact (Agree.logged _ _).bind fun _ _ _ => .pure .none
  · exact h.bind fun o o' ho => .pure (.some (hQ o o' ho))

end PointingRun

end TelescopePointing
