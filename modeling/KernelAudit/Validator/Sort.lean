import KernelAudit.Error
import KernelAudit.Random.Generator
import KernelAudit.Validator.Verdict

/-! The sort validator and the search for lost elements. Both run a number of trials; each trial fills
    a fresh buffer with drawn values and has the kernel sort it. The validator looks for the first
    adjacent pair out of order, the search compares what went in with what came out. Between trials
    nothing is kept but the state of the kernel and the source of the values. -/

namespace KernelAudit.Sorting

/-- The settings of a run; without a seed the values differ from run to run. -/
structure Config where
  trials : Nat
  bufferLen : Nat
  seed : Option UInt64
  deriving DecidableEq, Repr

namespace Config

def default : Config := ⟨10, 15, none⟩

/-- The largest length whose indices fit the kernels' thirty-two bits. -/
def maxLength : Nat := 2147483647

def validate (c : Config) : Except Error Unit :=
  if c.bufferLen > maxLength then
    .error (.invalidConfig
      s!"buffer length {c.bufferLen} exceeds the largest sortable length {maxLength}")
  else .ok ()

/-- The source of values of one run. Without a seed its key is what the machine gives for one. -/
def generator (c : Config) (entropy : Key) : Generator :=
  match c.seed with
  | some seed => .ofSeed seed
  | none => .ofKey entropy

end Config

/-- An adjacent pair out of order: `left` stands at `index`, the smaller `right` behind it. -/
structure Descent where
  index : Nat
  left : Int32
  right : Int32
  deriving DecidableEq, Repr

def Descent.text (d : Descent) : String :=
  s!"arr[{d.index}] = {d.left.toInt} > arr[{d.index + 1}] = {d.right.toInt}"

/-- The first descent of a list whose first element has the given index. -/
def firstDescentFrom (index : Nat) : List Int32 → Option Descent
  | left :: right :: rest =>
    if right < left then some ⟨index, left, right⟩
    else firstDescentFrom (index + 1) (right :: rest)
  | _ => none

def firstDescent (buffer : Buffer) : Option Descent := firstDescentFrom 0 buffer.toList

/-- A descent and the trial in which it was found. -/
structure Violation where
  trial : Nat
  descent : Descent
  deriving DecidableEq, Repr

/-- `trialsRun` counts the trials that were started. -/
structure Outcome where
  trialsRun : Nat
  violation : Option Violation
  deriving DecidableEq, Repr

def Outcome.verdict (o : Outcome) : Verdict := .ofPassed o.violation.isNone

/-- A trial whose output is no rearrangement of its input. -/
structure Loss where
  trial : Nat
  input : List Int32
  output : List Int32
  deriving DecidableEq, Repr

/-- A list of values as it is reported. -/
def listText (values : List Int32) : String :=
  "[" ++ ", ".intercalate (values.map fun v => toString v.toInt) ++ "]"

def Loss.text (l : Loss) : String := s!"input {listText l.input}, output {listText l.output}"

/-- The values of a list in increasing order. -/
def ordered (values : List Int32) : List Int32 := values.mergeSort fun a b => decide (a ≤ b)

/-- A buffer of drawn values, and the source that is left. -/
def fill [Source ρ] (length : Nat) (source : ρ) : Buffer × ρ :=
  let (values, source) := Source.take length source
  ((values.map Subtype.val).toArray, source)

section
variable {m : Type → Type} [Monad m] {ρ : Type} [Source ρ]

/-- The next `remaining` trials, the first of them having the number `trial`. -/
def runTrials (kernel : SortKernel m) (length : Nat) :
    (remaining trial : Nat) → ρ → Faulty m (Outcome × ρ)
  | 0, trial, source => pure (⟨trial, none⟩, source)
  | remaining + 1, trial, source => do
    let (input, source) := fill length source
    let output ← kernel.sortBuffer input
    match firstDescent output with
    | some descent => pure (⟨trial + 1, some ⟨trial, descent⟩⟩, source)
    | none => runTrials kernel length remaining (trial + 1) source

/-- One run of the sort validator on a given source, which it leaves changed. -/
def validate (kernel : SortKernel m) (config : Config) (source : ρ) : Faulty m (Outcome × ρ) :=
  runTrials kernel config.bufferLen config.trials 0 source

/-- One run on the source that the settings describe. -/
def validateSeeded (kernel : SortKernel m) (config : Config) (entropy : Key) : Faulty m Outcome :=
  Prod.fst <$> validate kernel config (config.generator entropy)

/-- The verdict of one run on the source that the settings describe. -/
def verdict (kernel : SortKernel m) (config : Config) (entropy : Key) : Faulty m Verdict :=
  Verdict.guarded (Outcome.verdict <$> validateSeeded kernel config entropy)

/-- The next `remaining` trials of the search, the first of them having the number `trial`. -/
def searchTrials (kernel : SortKernel m) (length : Nat) :
    (remaining trial : Nat) → ρ → Faulty m (Option Loss × ρ)
  | 0, _, source => pure (none, source)
  | remaining + 1, trial, source => do
    let (input, source) := fill length source
    let output ← kernel.sortBuffer input
    if ordered input.toList = ordered output.toList then
      searchTrials kernel length remaining (trial + 1) source
    else pure (some ⟨trial, input.toList, output.toList⟩, source)

/-- The first trial that does not keep its elements. -/
def findLoss (kernel : SortKernel m) (config : Config) (source : ρ) : Faulty m (Option Loss × ρ) :=
  searchTrials kernel config.bufferLen config.trials 0 source

end

end KernelAudit.Sorting
