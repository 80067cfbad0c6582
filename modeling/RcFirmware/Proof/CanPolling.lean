import RcFirmware.CanHandler
import RcFirmware.Lib.Changes

/-!
# What the polling thread reports

After an iteration the locals hold the sample it was delivered: either they were assigned, field by
field, or no field differed. So what an iteration compares its sample with is the sample before, and
the thread reports the changes of the sequence, each once.
-/

namespace RcFirmware.CanHandler

open Changes

def Sample.initial : Sample := ⟨.errorActive, ⟨0, 0⟩⟩

def Sample.line (sample : Sample) : Line :=
  ⟨stateToStr sample.state, sample.errCnt.rxErrCnt, sample.errCnt.txErrCnt⟩

/-- The locals that hold a sample. -/
def Sample.locals (sample : Sample) : Locals := ⟨sample.errCnt, sample.state⟩

def Iteration.lines (iteration : Iteration) : List Line :=
  iteration.calls.filterMap fun
    | .printk line => some line
    | .kSleep _ => none

def Iteration.Sleeps (iteration : Iteration) : Prop :=
  ∃ milliseconds, .kSleep milliseconds ∈ iteration.calls

/-- The samples of the iterations that print. -/
def reports (iterations : List Iteration) : List Sample :=
  (iterations.filter fun iteration => iteration.lines ≠ []).map Iteration.sample

/-- What one iteration comes to. -/
def Sample.iteration (before sample : Sample) : Iteration :=
  ⟨sample, if sample ≠ before then [.printk sample.line] else [.kSleep 100]⟩

/-- At most one of the states delivered is one that `state_to_str` does not name. -/
def OneUnnamed (samples : List Sample) : Prop :=
  ∀ sample ∈ samples, ∀ sample' ∈ samples, ∀ number number',
    sample.state = .other number → sample'.state = .other number' → number = number'

/-- A sequence of samples is reported by its changes. The sequence is any prefix of what the endless
loop is delivered, and what is done in it stays when more is delivered. -/
structure ReportsChanges (samples : List Sample) : Prop where
  iterations : pollStateThread .start samples
    = List.zipWith Sample.iteration (.initial :: samples) samples
  reported : reports (pollStateThread .start samples) = changes .initial samples
  differ : (Sample.initial :: reports (pollStateThread .start samples)).IsChain (· ≠ ·)
  latest : (reports (pollStateThread .start samples)).getLastD .initial
    = samples.getLastD .initial
  sleeps_iff : ∀ iteration ∈ pollStateThread .start samples,
    iteration.Sleeps ↔ iteration.lines = []
  lines : (pollStateThread .start samples).flatMap Iteration.lines
    = (reports (pollStateThread .start samples)).map Sample.line
  linesDiffer : OneUnnamed samples →
    ((pollStateThread .start samples).flatMap Iteration.lines).IsChain (· ≠ ·)
  stays : ∀ more, pollStateThread .start samples <+: pollStateThread .start (samples ++ more)

/-! ### One iteration -/

theorem locals_ne_iff (before sample : Sample) :
    (sample.errCnt.txErrCnt ≠ before.locals.errCntPrev.txErrCnt
        ∨ sample.errCnt.rxErrCnt ≠ before.locals.errCntPrev.rxErrCnt
        ∨ before.locals.statePrev ≠ sample.state)
      ↔ sample ≠ before := by
  obtain ⟨state, tx, rx⟩ := sample
  obtain ⟨state', tx', rx'⟩ := before
  simp only [Sample.locals, ne_eq, Sample.mk.injEq, CanBusErrCnt.mk.injEq, eq_comm (a := state')]
  tauto

theorem iteration_of_ne {before sample : Sample} (hne : sample ≠ before) :
    before.iteration sample = ⟨sample, [.printk sample.line]⟩ := by
  rw [Sample.iteration, if_pos hne]

theorem iteration_self (sample : Sample) : sample.iteration sample = ⟨sample, [.kSleep 100]⟩ := by
  rw [Sample.iteration, if_neg (not_not.mpr rfl)]

/-- Whether it prints or not, an iteration leaves its sample in the locals. -/
theorem iterate_eq (before sample : Sample) :
    before.locals.iterate sample = (sample.locals, (before.iteration sample).calls) := by
  by_cases hsame : sample = before
  · rw [hsame, iteration_self]
    exact if_neg ((locals_ne_iff before before).not.mpr (not_not.mpr rfl))
  · rw [iteration_of_ne hsame]
    exact if_pos ((locals_ne_iff before sample).mpr hsame)

/-! ### The run -/

theorem pollStateThread_cons (before sample : Sample) (samples : List Sample) :
    pollStateThread before.locals (sample :: samples)
      = before.iteration sample :: pollStateThread sample.locals samples := by
  rw [pollStateThread, iterate_eq]
  rfl

theorem iteration_sleeps_iff (before sample : Sample) :
    (before.iteration sample).Sleeps ↔ (before.iteration sample).lines = [] := by
  rw [Iteration.Sleeps, Iteration.lines]
  by_cases hsame : sample = before
  · simp [hsame, iteration_self]
  · simp [iteration_of_ne hsame]

theorem reports_cons_of_ne {before sample : Sample} (hne : sample ≠ before)
    (iterations : List Iteration) :
    reports (before.iteration sample :: iterations) = sample :: reports iterations := by
  simp [reports, Iteration.lines, iteration_of_ne hne]

theorem reports_cons_self (sample : Sample) (iterations : List Iteration) :
    reports (sample.iteration sample :: iterations) = reports iterations := by
  simp [reports, Iteration.lines, iteration_self]

/-- The samples printed are those the locals told from the sample before. -/
theorem reports_pollStateThread (before : Sample) (samples : List Sample) :
    reports (pollStateThread before.locals samples) = changes before samples := by
  induction samples generalizing before with
  | nil => rfl
  | cons sample samples ih =>
      rw [pollStateThread_cons]
      by_cases hsame : sample = before
      · rw [hsame, reports_cons_self, changes_cons_self, ih]
      · rw [reports_cons_of_ne hsame, changes_cons_of_ne hsame, ih]

theorem lines_pollStateThread (before : Sample) (samples : List Sample) :
    (pollStateThread before.locals samples).flatMap Iteration.lines
      = (changes before samples).map Sample.line := by
  induction samples generalizing before with
  | nil => rfl
  | cons sample samples ih =>
      rw [pollStateThread_cons, List.flatMap_cons, ih]
      by_cases hsame : sample = before
      · rw [hsame, iteration_self, changes_cons_self]
        rfl
      · rw [iteration_of_ne hsame, changes_cons_of_ne hsame]
        rfl

theorem pollStateThread_eq_zipWith (before : Sample) (samples : List Sample) :
    pollStateThread before.locals samples
      = List.zipWith Sample.iteration (before :: samples) samples := by
  induction samples generalizing before with
  | nil => rfl
  | cons sample samples ih => rw [pollStateThread_cons, ih, List.zipWith_cons_cons]

theorem sleeps_iff_of_mem (before : Sample) (samples : List Sample) :
    ∀ iteration ∈ pollStateThread before.locals samples,
      iteration.Sleeps ↔ iteration.lines = [] := by
  induction samples generalizing before with
  | nil => simp [pollStateThread]
  | cons sample samples ih =>
      rw [pollStateThread_cons, List.forall_mem_cons]
      exact ⟨iteration_sleeps_iff before sample, ih sample⟩

/-- Delivered more, the loop goes on from the last sample. -/
theorem pollStateThread_append (before : Sample) (samples more : List Sample) :
    pollStateThread before.locals (samples ++ more)
      = pollStateThread before.locals samples
        ++ pollStateThread (samples.getLastD before).locals more := by
  induction samples generalizing before with
  | nil => rfl
  | cons sample samples ih =>
      rw [List.cons_append, pollStateThread_cons, pollStateThread_cons, ih, List.getLastD_cons,
        List.cons_append]

/-! ### The lines -/

theorem stateToStr_inj {state state' : CanState} (htext : stateToStr state = stateToStr state')
    (hother : ∀ number number', state = .other number → state' = .other number' →
      number = number') : state = state' := by
  cases state <;> cases state' <;> simp_all [stateToStr]

theorem line_inj {samples : List Sample} (hunnamed : OneUnnamed samples) {sample sample' : Sample}
    (hmem : sample ∈ samples) (hmem' : sample' ∈ samples) (hline : sample.line = sample'.line) :
    sample = sample' := by
  rw [Sample.line, Sample.line, Line.mk.injEq] at hline
  obtain ⟨htext, hrx, htx⟩ := hline
  have hstate := stateToStr_inj htext (hunnamed sample hmem sample' hmem')
  obtain ⟨state, tx, rx⟩ := sample
  obtain ⟨state', tx', rx'⟩ := sample'
  rw [Sample.mk.injEq, CanBusErrCnt.mk.injEq]
  exact ⟨hstate, htx, hrx⟩

theorem lines_isChain (before : Sample) {samples : List Sample} (hunnamed : OneUnnamed samples) :
    ((pollStateThread before.locals samples).flatMap Iteration.lines).IsChain (· ≠ ·) := by
  have hsublist := changes_sublist before samples
  rw [lines_pollStateThread, List.isChain_map]
  apply (isChain_cons_changes before samples).tail.imp_of_mem_imp
  intro sample sample' hmem hmem' hne hline
  exact hne (line_inj hunnamed (hsublist.subset hmem) (hsublist.subset hmem') hline)

/-- **Polling.** Whatever samples are delivered, the thread reports each change among them once and
nothing else, and it sleeps in the iterations in which it reports nothing. -/
theorem polling_reports_changes (samples : List Sample) : ReportsChanges samples := by
  have hreports : reports (pollStateThread .start samples) = changes .initial samples :=
    reports_pollStateThread .initial samples
  refine ⟨pollStateThread_eq_zipWith .initial samples, hreports, ?_, ?_,
    sleeps_iff_of_mem .initial samples, ?_, lines_isChain .initial, ?_⟩
  · rw [hreports]
    exact isChain_cons_changes .initial samples
  · rw [hreports]
    exact getLastD_changes .initial samples
  · rw [hreports]
    exact lines_pollStateThread .initial samples
  · intro more
    exact ⟨_, (pollStateThread_append .initial samples more).symm⟩

end RcFirmware.CanHandler
