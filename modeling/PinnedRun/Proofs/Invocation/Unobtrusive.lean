import PinnedRun.Proofs.Invocation.ExitCode
import PinnedRun.Proofs.Run.Bare

/-!
# Telemetry does not show in an invocation

As long as no exporter fails, two runs whose settings differ in the telemetry only do the same work
and end alike, and so do two invocations in environments that differ in the variables of the
telemetry only (`Invocation.unobtrusive`). Both are compared with the run that knows no telemetry.
-/

namespace PinnedRun

open PinnedRun.Action

/-- The variables that the settings of the telemetry are read from. -/
def TelemetrySettings.variables : List String :=
  ["OTEL_ENABLED", "OTEL_SERVICE_NAME", "OTEL_EXPORTER_OTLP_ENDPOINT", "OTEL_RESOURCE_ATTRIBUTES",
    "OTEL_INSTRUMENT_REQUESTS", "OTEL_EXPORTER_OTLP_INSECURE"]

/-- Two environments that differ in variables of the telemetry only, as far as settings are read
from them. -/
def Environment.AgreeOnWork (e other : Environment) : Prop :=
  ∀ name ∈ Settings.variables, name ∉ TelemetrySettings.variables → e name = other name

instance (e other : Environment) : Decidable (e.AgreeOnWork other) :=
  inferInstanceAs (Decidable (∀ name ∈ _, _))

variable {e other : Environment} {a : Options.Arguments} {s : Settings} {p : Plan}
  {t : TelemetrySettings}

/-! ### Settings and plans -/

theorem Settings.ofEnvironment_of_agree (h : e.AgreeOnWork other) :
    Settings.ofEnvironment other =
      (Settings.ofEnvironment e).map ({ · with telemetry := .ofEnvironment other }) := by
  simp only [Environment.AgreeOnWork, Settings.variables, List.forall_mem_cons] at h
  obtain ⟨h₁, h₂, h₃, h₄, h₅, h₆, h₇, h₈, -⟩ := h
  have hcommand : e "TEST_COMMAND" = other "TEST_COMMAND" := h₇ (by decide)
  have hfetch : FetchSettings.ofEnvironment e = .ofEnvironment other := by
    simp only [FetchSettings.ofEnvironment, h₁ (by decide), h₂ (by decide), h₃ (by decide),
      h₄ (by decide), h₅ (by decide), h₆ (by decide)]
  unfold Settings.ofEnvironment
  rw [hcommand, hfetch, h₈ (by decide)]
  cases readCommand (other "TEST_COMMAND") with
  | error reason => rfl
  | ok command => simp only [Except.map]

theorem Settings.resolve_of_agree (h : e.AgreeOnWork other) :
    Settings.resolve other a =
      (Settings.resolve e a).map ({ · with telemetry := .ofEnvironment other }) := by
  unfold Settings.resolve
  rw [Settings.ofEnvironment_of_agree h]
  cases Settings.ofEnvironment e with
  | error reason => rfl
  | ok s => simp only [Except.map, Settings.override]

/-- The plan does not depend on the telemetry. -/
theorem Plan.ofSettings_withTelemetry :
    Plan.ofSettings { s with telemetry := t } = Plan.ofSettings s := rfl

namespace Invocation

theorem planned_of_agree (h : e.AgreeOnWork other) :
    planned other a =
      (planned e a).map fun (s, p) => ({ s with telemetry := .ofEnvironment other }, p) := by
  unfold planned
  rw [Settings.resolve_of_agree h]
  cases Settings.resolve e a with
  | error reason => rfl
  | ok s =>
    simp only [Except.map, bind, Except.bind, Plan.ofSettings_withTelemetry]
    cases Plan.ofSettings s <;> rfl

/-! ### Whole invocations -/

theorem lockstep_carryOut :
    Lockstep SameWork (carryOut s p) (carryOut { s with telemetry := t } p) := by
  intro w v h
  have hstart : w.work.reading = v.work.reading := by rw [h.1]
  have hs : (Run.ofPlan p w).summary = (Run.ofPlan p v).summary :=
    congrArg (Summary.mk p.remote.url p.destination · [] none) hstart
  obtain ⟨he, hw, -⟩ := Run.lockstep_run_withTelemetry (s := s) (p := p) (t := t)
    (.ofPlan p w) (.ofPlan p v) ⟨h, hs⟩
  rw [carryOut_apply, carryOut_apply]
  exact ⟨he, hw⟩

theorem lockstep_attempt (h : e.AgreeOnWork other) :
    Lockstep SameWork (attempt e a) (attempt other a) := by
  have h' := planned_of_agree (a := a) h
  cases hp : planned e a with
  | error reason =>
    rw [hp] at h'
    rw [attempt_of_unusable hp, attempt_of_unusable h']
    exact lockstep_fail _
  | ok sp =>
    obtain ⟨s, p⟩ := sp
    rw [hp] at h'
    rw [attempt_of_planned hp, attempt_of_planned h']
    exact lockstep_carryOut

theorem lockstep_adjustLog :
    Lockstep SameWork (change (adjustLog a)) (change (adjustLog a)) := by
  rintro w v ⟨hw, hq⟩
  unfold change adjustLog
  dsimp only
  split
  · have h := congrArg (fun w : World => { w with threshold := .debug }) hw
    exact ⟨rfl, h, hq⟩
  · exact ⟨rfl, hw, hq⟩

theorem lockstep_perform (h : e.AgreeOnWork other) :
    Lockstep SameWork (perform e a) (perform other a) :=
  lockstep_adjustLog.bind fun _ =>
    (lockstep_attempt h).handle (lockstep_concludeFault coupling_sameWork)

/-- **Working telemetry does not show.** As long as no exporter fails, what the settings say about
telemetry, and what the variables for it are set to, makes no difference to how a run or an
invocation ends, to the summary, and to the work: the calls, the volume, what is printed, the time
taken, the replies left, and the log records of everything but telemetry. -/
theorem unobtrusive {w v : World} (hw : w.work = v.work) (hq : w.Quiet) :
    (∀ s t p summary,
      let r := Run.run s p ⟨w, summary⟩
      let r' := Run.run { s with telemetry := t } p ⟨v, summary⟩
      r.1 = r'.1 ∧ r.2.summary = r'.2.summary ∧ r.2.world.work = r'.2.world.work) ∧
    ∀ e other : Environment, e.AgreeOnWork other → ∀ commandLine,
      let i := invoke e commandLine w
      let i' := invoke other commandLine v
      i.ending = i'.ending ∧ i.errorText = i'.errorText ∧ i.world.work = i'.world.work := by
  have h : SameWork w v := ⟨hw, World.quiet_iff.mp hq⟩
  refine ⟨fun s t p summary => ?_, fun e other he commandLine => ?_⟩
  · obtain ⟨hend, ⟨hwork, -⟩, hsummary⟩ :=
      Run.lockstep_run_withTelemetry (s := s) (p := p) (t := t) ⟨w, summary⟩ ⟨v, summary⟩ ⟨h, rfl⟩
    exact ⟨hend, hsummary, hwork⟩
  · unfold invoke
    cases Options.read commandLine with
    | rejected reason => exact ⟨rfl, rfl, hw⟩
    | help =>
      -- the text is long, and what it says does not matter
      generalize Options.helpText = text
      have h := congrArg (fun w : World => { w with printed := w.printed ++ text }) hw
      exact ⟨rfl, rfl, h⟩
    | accepted a =>
      obtain ⟨hend, hwork, -⟩ := lockstep_perform (a := a) he w v h
      dsimp only
      generalize perform e a w = q, perform other a v = q' at *
      exact ⟨hend, rfl, hwork⟩

/-- Telemetry that exports, or none, where the session cannot be closed, so that a fault passes
through the span of the fetch. -/
theorem unobtrusive_of_broken_session :
    let w : World := { replies := { closing := some (.runtime "reset") } }
    let e := (Environment.set (fun _ => none) "OTEL_ENABLED" "on").set
      "OTEL_EXPORTER_OTLP_ENDPOINT" "http://collector:4317"
    w.Quiet ∧ e.AgreeOnWork (fun _ => none) ∧
      (TelemetrySettings.ofEnvironment e).enabled = true ∧
      (invoke e ["-v"] w).ending = (invoke (fun _ => none) ["-v"] w).ending ∧
      (invoke e ["-v"] w).world.work = (invoke (fun _ => none) ["-v"] w).world.work := by
  intro w e
  have hq : w.Quiet := ⟨fun _ => rfl, fun _ => rfl⟩
  have he : e.AgreeOnWork (fun _ => none) := by decide
  obtain ⟨-, h⟩ := unobtrusive (w := w) (v := w) rfl hq
  obtain ⟨hend, -, hwork⟩ := h e (fun _ => none) he ["-v"]
  exact ⟨hq, he, by decide, hend, hwork⟩

end Invocation

end PinnedRun
