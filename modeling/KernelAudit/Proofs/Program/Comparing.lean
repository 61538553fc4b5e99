import KernelAudit.Proofs.Program.Saving
import KernelAudit.Program.Run

/-! Runs that are compared with a baseline and saved as one. The report is saved before the baseline is
    loaded. So it is compared with what the baseline's path held before the run, unless both paths lead to
    the same file, by the same name or by another one: then that is lost, and the report is compared with
    itself. -/

namespace KernelAudit

namespace World

section
variable {w w' : World} (h : w.site = w'.site) (path : Text.Raw)
include h

theorem read_congr : w.read path = w'.read path := by rw [read, read, h]

theorem leadsTo?_congr : w.leadsTo? path = w'.leadsTo? path := by rw [leadsTo?, leadsTo?, h]

theorem loadBaseline_congr {result : Except Baseline.LoadProblem Report}
    (hload : (system.loadBaseline path).run w = (result, w)) :
    (system.loadBaseline path).run w' = (result, w') := by
  rw [run_loadBaseline] at hload ⊢
  rw [← read_congr h, (Prod.mk.inj hload).1]

end

/-- The machine with another host and other kernels; its files are the same. -/
def systemWith (host : Host (StateM World)) (kernels : Backend → Except Error (KernelSet (StateM World))) :
    System (StateM World) :=
  { system with host, kernels }

/-- A baseline is still there after a report has been saved, unless the report was saved in its place. -/
theorem load_after_save {w saved : World} {path place : Text.Raw} {baseline report : Report}
    (hload : (system.loadBaseline path).run w = (.ok baseline, w))
    (hsave : (system.saveBaseline report place).run w = (.ok (), saved)) :
    (system.loadBaseline path).run saved =
      (.ok (if w.leadsTo? path = w.leadsTo? place then report else baseline), saved) := by
  obtain ⟨kept, hread, hkept, hbaseline⟩ := read_of_loadBaseline hload
  rw [run_loadBaseline, read_after_write (run_saveBaseline hsave) hread hkept]
  split
  · rw [Baseline.load_encode]
  · rw [hbaseline]

end World

namespace Program

variable (sys : System (StateM World)) (env : Environment) (globals : Globals) (options : CheckOptions)

/-- What the checks of a run give, unless what a kernel leaves behind unwinds it, and the machine after them. -/
def checked (w : World) : Except Fault (Except Error Report) × World :=
  ((options.config globals).runFrom sys.host sys.kernels).run.run w

/-- The machine after a report has been printed. -/
def printed (report : Report) (w : World) : World := ((printReport sys env globals report).run.run w).2

section
variable {sys env globals options} {w : World}

/-- A report that has been made is printed, saved and compared, in this order. -/
theorem run_runCheck {report : Report} {made shown saved compared : World}
    (hmade : checked sys globals options w = (.ok (.ok report), made))
    (hprint : (printReport sys env globals report).run.run made = (.ok (), shown))
    (hsave : (saveReport sys report options.saveBaseline).run shown = (.ok (), saved))
    (hcompare : (compareReport sys report options.baseline).run.run saved = (.ok (.ok ()), compared)) :
    (runCheck sys env globals options).run.run w = (.ok (summaryExit report), compared) := by
  rw [runCheck, run_bind_of_ok hmade, run_bind_of_ok hprint, run_bind_of_ok (run_lift_of_run hsave),
    run_bind_of_ok hcompare]
  rfl

/-- An end that is complained of has its own exit code, unless the complaint is refused. -/
theorem eq_of_run_complain {text : String} {code code' : UInt8}
    (h : ((complain sys text >>= fun _ => pure code : Faulty (StateM World) UInt8).run.run w).1 = .ok code') :
    code' = code := by
  rcases hsay : (complain sys text).run.run w with ⟨refused | _, said⟩
  · rw [run_bind_of_error hsay] at h
    cases h
  · rw [run_bind_of_ok hsay] at h
    exact (Except.ok.inj h).symm

/-- A run that comes to its end, and not with an error, has made a report, and could print, save and compare it. -/
theorem of_runCheck {code : UInt8} (h : ((runCheck sys env globals options).run.run w).1 = .ok code)
    (hcode : code ≠ runtimeError) :
    ∃ report made shown saved compared,
      checked sys globals options w = (.ok (.ok report), made) ∧
      (printReport sys env globals report).run.run made = (.ok (), shown) ∧
      (saveReport sys report options.saveBaseline).run shown = (.ok (), saved) ∧
      (compareReport sys report options.baseline).run.run saved = (.ok (.ok ()), compared) := by
  rcases hmade : checked sys globals options w with ⟨raised | e | report, made⟩
  · rw [runCheck, run_bind_of_error hmade] at h
    cases h
  · rw [runCheck, run_bind_of_ok hmade] at h
    exact absurd (eq_of_run_complain h) hcode
  rcases hprint : (printReport sys env globals report).run.run made with ⟨refused | _, shown⟩
  · rw [runCheck, run_bind_of_ok hmade, run_bind_of_error hprint] at h
    cases h
  rw [runCheck, run_bind_of_ok hmade, run_bind_of_ok hprint] at h
  rcases hsave : (saveReport sys report options.saveBaseline).run shown with ⟨e | _, saved⟩
  · rw [run_bind_of_ok (run_lift_of_run hsave)] at h
    exact absurd (eq_of_run_complain h) hcode
  rw [run_bind_of_ok (run_lift_of_run hsave)] at h
  rcases hcompare : (compareReport sys report options.baseline).run.run saved with ⟨refused | e | _, compared⟩
  · rw [run_bind_of_error hcompare] at h
    cases h
  · rw [run_bind_of_ok hcompare] at h
    exact absurd (eq_of_run_complain h) hcode
  exact ⟨report, made, shown, saved, compared, rfl, hprint, hsave, hcompare⟩

end

section
variable {host : Host (StateM World)} {kernels : Backend → Except Error (KernelSet (StateM World))}
  {env : Environment} {globals : Globals} {options : CheckOptions} {w : World}

theorem run_printReport (report : Report) :
    (printReport (World.systemWith host kernels) env globals report).run.run w =
      (.ok (), printed (World.systemWith host kernels) env globals report w) := rfl

theorem run_complain (text : String) :
    (complain (World.systemWith host kernels) text).run.run w = (.ok (), { w with stderr := w.stderr ++ text }) := rfl

theorem run_compareReport {path : Text.Raw} {report baseline : Report}
    (h : (World.system.loadBaseline path).run w = (.ok baseline, w)) :
    (compareReport (World.systemWith host kernels) report (some path)).run.run w =
      (.ok (.ok ()), { w with stderr := w.stderr ++ ((Comparison.ofReports report baseline).text ++ "\n") }) := by
  have h : ((World.systemWith host kernels).loadBaseline path).run w = (.ok baseline, w) := h
  rw [compareReport, run_bind_of_ok (run_lift_of_run h)]
  dsimp only
  rw [run_bind_of_ok (run_complain _)]
  rfl

section
variable {path place : Text.Raw} {baseline : Report} (hpath : options.baseline = some path)
  (hplace : options.saveBaseline = some place)
  (hload : (World.system.loadBaseline path).run w = (.ok baseline, w))
include hpath hplace hload

theorem run_runCheck_saved {report : Report} {made saved : World}
    (hmade : checked (World.systemWith host kernels) globals options w = (.ok (.ok report), made))
    (hfiles : made.site = w.site)
    (hsave : (World.system.saveBaseline report place).run
      (printed (World.systemWith host kernels) env globals report made) = (.ok (), saved)) :
    (runCheck (World.systemWith host kernels) env globals options).run.run w =
      (.ok (summaryExit report), { saved with stderr := saved.stderr ++
        ((Comparison.ofReports report
          (if w.leadsTo? path = w.leadsTo? place then report else baseline)).text ++ "\n") }) := by
  have hsite : (printed (World.systemWith host kernels) env globals report made).site = w.site := hfiles
  have hafter := World.load_after_save (World.loadBaseline_congr hsite.symm path hload) hsave
  rw [World.leadsTo?_congr hsite, World.leadsTo?_congr hsite] at hafter
  have hsave : (saveReport (World.systemWith host kernels) report options.saveBaseline).run
      (printed (World.systemWith host kernels) env globals report made) = (.ok (), saved) := by
    rw [hplace]
    exact hsave
  refine run_runCheck hmade (run_printReport report) hsave ?_
  rw [hpath]
  exact run_compareReport hafter

/-- A report that is saved and compared with a baseline, by a run that ends without an error, is compared
    with what the baseline's path held before the run if the two paths lead to different files, and with
    itself if they lead to the same one. The checks may do anything but change the files. -/
theorem compares_after_saving
    (hfiles : (checked (World.systemWith host kernels) globals options w).2.site = w.site) {code : UInt8}
    (hend : ((runCheck (World.systemWith host kernels) env globals options).run.run w).1 = .ok code)
    (hcode : code ≠ runtimeError) :
    ∃ report made saved,
      checked (World.systemWith host kernels) globals options w = (.ok (.ok report), made) ∧
      (World.system.saveBaseline report place).run
        (printed (World.systemWith host kernels) env globals report made) = (.ok (), saved) ∧
      (runCheck (World.systemWith host kernels) env globals options).run.run w =
        (.ok (summaryExit report), { saved with stderr := saved.stderr ++
          ((Comparison.ofReports report
            (if w.leadsTo? path = w.leadsTo? place then report else baseline)).text ++ "\n") }) := by
  obtain ⟨report, made, shown, saved, -, hmade, hprint, hsave, -⟩ := of_runCheck hend hcode
  obtain rfl : printed (World.systemWith host kernels) env globals report made = shown := congrArg Prod.snd hprint
  rw [hplace] at hsave
  rw [hmade] at hfiles
  exact ⟨report, made, saved, hmade, hsave, run_runCheck_saved hpath hplace hload hmade hfiles hsave⟩

end

end

/-! ### A run of a single check -/

/-- The report of an earlier run in which the sweep of the Fibonacci kernel failed. -/
def failingReport : Report :=
  ⟨0, "h", "reference", [⟨"NUM-002", "Fibonacci", .numeric, "", some (.fail "fib differs" "" 1)⟩], 3⟩

/-- The machine on which the failing report has been saved. -/
def withFailing : World := ((World.system.saveBaseline failingReport (.ofString "b")).run World.withNull).2

def sweepGlobals : Globals := ⟨.text, false, false, false, .reference⟩

/-- Runs the sweep, compares the report with the earlier one and saves it. -/
def sweepOptions (place : String) : CheckOptions :=
  { CheckOptions.default with
    only := ["NUM-002"], baseline := some (.ofString "b"), saveBaseline := some (.ofString place) }

/-- The report of the sweep of a machine whose clock stands still. -/
def sweepReport (elapsedMs : UInt64) : Report :=
  ⟨0, "localhost", "reference",
    [⟨"NUM-002", "Fibonacci Reference Sequence", .numeric,
      "Compare fib(0..10) with 1, 1, 2, 3, 5, 8, 13, 21, 34, 55",
      some (.pass "fib matches at all 10 indices" elapsedMs)⟩], elapsedMs⟩

theorem checked_sweep (place : String) (w : World) :
    checked World.system sweepGlobals (sweepOptions place) w = (.ok (.ok (sweepReport 0)), w) := by
  have horder : Check.order (Builtin.checks World.host Reference.kernels .default) ["NUM-002"] = ["NUM-002"] := by
    simp [Check.order, dependencyOrder, Order.walk, Check.dependenciesOf, Check.find?, Builtin.checks,
      Builtin.numericChecks, Builtin.sortChecks, Builtin.check]
  have hrun : checked World.system sweepGlobals (sweepOptions place) w =
      (Except.ok <$> runChecks World.host.faulty ⟨false, 30000, "reference"⟩
        (Builtin.checks World.host Reference.kernels .default) (.only ["NUM-002"])).run.run w := rfl
  rw [hrun, runChecks, Check.plan, Selection.ids, horder, ← UInt64.sub_self 0]
  rfl

theorem load_failing :
    (World.system.loadBaseline (.ofString "b")).run withFailing = (.ok failingReport, withFailing) := by
  have hsaved : ((World.system.saveBaseline failingReport (.ofString "b")).run World.withNull).1 = .ok () :=
    eq_ok_of_isOk (by decide +kernel)
  exact World.load_saved (Prod.ext hsaved rfl) (by decide +kernel)

theorem run_sweep (place : String) {saved : World}
    (hsave : (World.system.saveBaseline (sweepReport 0) (.ofString place)).run
      (printed World.system (fun _ => none) sweepGlobals (sweepReport 0) withFailing) = (.ok (), saved)) :
    (runCheck World.system (fun _ => none) sweepGlobals (sweepOptions place)).run.run withFailing =
      (.ok (summaryExit (sweepReport 0)), { saved with stderr := saved.stderr ++
        ((Comparison.ofReports (sweepReport 0)
          (if withFailing.leadsTo? (.ofString "b") = withFailing.leadsTo? (.ofString place) then sweepReport 0
            else failingReport)).text ++ "\n") }) := by
  have hpath : (sweepOptions place).baseline = some (.ofString "b") := rfl
  exact run_runCheck_saved hpath rfl load_failing (checked_sweep place withFailing) rfl hsave

/-- The report is saved beside the earlier one, and compared with it. -/
theorem compares_after_saving_sample :
    let options := sweepOptions "c"
    let ended := (runCheck World.system (fun _ => none) sweepGlobals options).run.run withFailing
    options.baseline = some (.ofString "b") ∧ options.saveBaseline = some (.ofString "c") ∧
      (World.system.loadBaseline (.ofString "b")).run withFailing = (.ok failingReport, withFailing) ∧
      (checked World.system sweepGlobals options withFailing).2.site = withFailing.site ∧
      ended.1 = .ok 0 ∧ 0 ≠ runtimeError ∧
      ended.2.stderr = (Comparison.ofReports (sweepReport 0) failingReport).text ++ "\n" := by
  intro options ended
  have hmade : checked World.system sweepGlobals options withFailing = (.ok (.ok (sweepReport 0)), withFailing) :=
    checked_sweep "c" withFailing
  have hsaved : ((World.system.saveBaseline (sweepReport 0) (.ofString "c")).run
      (printed World.system (fun _ => none) sweepGlobals (sweepReport 0) withFailing)).1 = .ok () :=
    eq_ok_of_isOk (by decide +kernel)
  have hfiles : (checked World.system sweepGlobals options withFailing).2.site = withFailing.site := by rw [hmade]
  have hend : ended.1 = .ok 0 := congrArg Prod.fst (run_sweep "c" (Prod.ext hsaved rfl))
  have hcode : (0 : UInt8) ≠ runtimeError := by decide
  have hpath : options.baseline = some (.ofString "b") := rfl
  obtain ⟨report, made, saved, hmade', hsave, hrun⟩ := compares_after_saving hpath rfl load_failing hfiles hend hcode
  obtain ⟨⟨⟩, rfl⟩ := Prod.mk.inj (hmade.symm.trans hmade')
  have hsame : saved = _ := (congrArg Prod.snd hsave).symm
  refine ⟨rfl, rfl, load_failing, hfiles, hend, hcode, ?_⟩
  rw [show ended = _ from hrun, hsame]
  decide +kernel

/-- The report is saved over the earlier one, and nothing is said of what that one held. -/
theorem not_compares_with_earlier :
    let ended := (runCheck World.system (fun _ => none) sweepGlobals (sweepOptions "b")).run.run withFailing
    (World.system.loadBaseline (.ofString "b")).run withFailing = (.ok failingReport, withFailing) ∧
      checked World.system sweepGlobals (sweepOptions "b") withFailing = (.ok (.ok (sweepReport 0)), withFailing) ∧
      ended.1 = .ok 0 ∧ 0 ≠ runtimeError ∧
      (Comparison.ofReports (sweepReport 0) failingReport).text =
        "Baseline comparison:\n  Resolved: NUM-002\n  Unchanged: 0" ∧
      ended.2.stderr = "Baseline comparison:\n  Unchanged: 1\n" := by
  intro ended
  have hsaved : ((World.system.saveBaseline (sweepReport 0) (.ofString "b")).run
      (printed World.system (fun _ => none) sweepGlobals (sweepReport 0) withFailing)).1 = .ok () :=
    eq_ok_of_isOk (by decide +kernel)
  have hrun : ended = _ := run_sweep "b" (Prod.ext hsaved rfl)
  refine ⟨load_failing, checked_sweep "b" withFailing, congrArg Prod.fst hrun, by decide, by decide +kernel, ?_⟩
  rw [hrun]
  decide +kernel

end Program

end KernelAudit
