import PinnedRun.Proofs.Invocation.ExitCode
import PinnedRun.Proofs.Settings.Completeness

/-!
# Invocations that are configured wrongly

An invocation whose command line is accepted can be configured wrongly in two ways: the test command
of the environment does not split into words, or the file path leads to no local name
(`Invocation.configuration_error_cases`). Either way it ends with 1 before it has done anything: a
log record is all that comes of it (`Invocation.invoke_of_unusable`).
-/

namespace PinnedRun.Invocation

open PinnedRun.Action

variable {e : Environment} {a : Options.Arguments} {reason : Unusable} {commandLine : List String}

theorem planned_eq_error_iff :
    planned e a = .error reason ↔ Settings.resolve e a = .error reason ∨
      ∃ s, Settings.resolve e a = .ok s ∧ Plan.ofSettings s = .error reason := by
  unfold planned
  cases hs : Settings.resolve e a with
  | error other => simp [bind, Except.bind]
  | ok s =>
    cases hp : Plan.ofSettings s with
    | error other => simp [bind, Except.bind, hp]
    | ok p => simp [bind, Except.bind, hp, pure, Except.pure]

/-- A wrong configuration is reported, and nothing else is done. -/
theorem invoke_of_unusable (h : Options.read commandLine = .accepted a)
    (hp : planned e a = .error reason) (w : World) :
    invoke e commandLine w =
      ⟨.ok 1, "",
        (adjustLog a w).report .error .runner ("Configuration error: " ++ reason.message)⟩ := by
  have hf : attempt e a (adjustLog a w) = (.error ⟨.unusable reason, none⟩, adjustLog a w) := by
    rw [attempt_of_unusable hp, fail_apply]
  have hc : conduct e a (adjustLog a w) = concludeFault ⟨.unusable reason, none⟩ (adjustLog a w) :=
    handle_of_error hf
  rw [invoke_of_accepted h, hc]
  rfl

theorem adjustLog_eq_or (w : World) :
    adjustLog a w = w ∨ adjustLog a w = { w with threshold := .debug } := by
  unfold adjustLog
  split
  · exact .inr rfl
  · exact .inl rfl

/-- **The two ways to configure an invocation wrongly, and that they do no harm.** The settings
cannot be read exactly if the test command of the environment is not blank and does not split. If
they can be read, they lack nothing, and there is no plan for them exactly if the output is missing
and the file path ends with a slash. In both cases the invocation ends with 1, no request, close or
launch has been made, the volume and the telemetry are as before, and nothing has been printed. -/
theorem configuration_error_cases (h : Options.read commandLine = .accepted a) (w : World) :
    (∀ reason, Settings.resolve e a = .error reason ↔
      ∃ line fault, e "TEST_COMMAND" = some line ∧ Text.isBlankText line = false ∧
        Shell.Words.split line = .error fault ∧ reason = .unsplittable fault) ∧
    (∀ s, Settings.resolve e a = .ok s → s.Complete ∧
      ∀ reason, Plan.ofSettings s = .error reason ↔
        s.fetch.LacksOutput ∧ s.fetch.EndsWithSlash ∧
          reason = .noLocalName s.fetch.filePath) ∧
    ∀ reason, (Settings.resolve e a = .error reason ∨
        ∃ s, Settings.resolve e a = .ok s ∧ Plan.ofSettings s = .error reason) →
      (invoke e commandLine w).ending = .ok 1 ∧
        (invoke e commandLine w).world.calls = w.calls ∧
        (invoke e commandLine w).world.volume = w.volume ∧
        (invoke e commandLine w).world.telemetry = w.telemetry ∧
        (invoke e commandLine w).world.printed = w.printed := by
  refine ⟨fun reason => ?_, fun s hs => ?_, fun reason hr => ?_⟩
  · rw [Settings.resolve_eq_error_iff, readCommand_eq_error_iff]
  · have hc := Settings.complete_of_resolve hs
    exact ⟨hc, fun reason => Plan.ofSettings_eq_error_iff hc⟩
  · rw [invoke_of_unusable h (planned_eq_error_iff.mpr hr)]
    obtain ha | ha := adjustLog_eq_or (a := a) w <;> simp [ha]

/-- A file path that is a directory, given in the environment. -/
theorem configuration_error_cases_of_directory :
    let e := Environment.set (fun _ => none) "TOOLCHAIN_FILE" "toolchains/"
    let a : Options.Arguments := { branch := some (.text "dev") }
    let s : Settings := { fetch := { branch := "dev", filePath := "toolchains/" } }
    Options.read ["--branch", "dev"] = .accepted a ∧ Settings.resolve e a = .ok s ∧
      Plan.ofSettings s = .error (.noLocalName "toolchains/") ∧
      (invoke e ["--branch", "dev"] {}).ending = .ok 1 ∧
      (invoke e ["--branch", "dev"] {}).world.calls = [] := by
  intro e a s
  have hr : Options.read ["--branch", "dev"] = .accepted a := by decide +kernel
  have hs : Settings.resolve e a = .ok s := eq_ok_of_toOption (by decide +kernel)
  obtain ⟨-, hplan, hharm⟩ := configuration_error_cases (e := e) hr {}
  have hp : Plan.ofSettings s = .error (.noLocalName "toolchains/") :=
    ((hplan s hs).2 _).mpr ⟨rfl, by decide +kernel, rfl⟩
  obtain ⟨hcode, hcalls, -⟩ := hharm _ (.inr ⟨s, hs, hp⟩)
  exact ⟨hr, hs, hp, hcode, hcalls⟩

end PinnedRun.Invocation
