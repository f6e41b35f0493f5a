import IrExcerpt.Cache
import IrExcerpt.Excerpt
import IrExcerpt.Extraction.Request
import IrExcerpt.Report
import IrExcerpt.Selection.Direct
import IrExcerpt.Selection.Expansion
import IrExcerpt.Storage.Replace

/-!
# Sessions

A session runs extractions with one configuration. It keeps the documents it
has loaded, and it keeps a log. Nothing is written before everything that can
be checked has been checked: the report is staged before the excerpt is
written, and moved into place after it.
-/

namespace IrExcerpt

/-- A configuration, the documents loaded so far, and the log. -/
structure Session where
  config : Config
  cache : Cache
  /-- What happened, the first event first. -/
  events : List Event

/-- A session in which nothing has happened. -/
def Session.ofConfig (config : Config) : Session := ⟨config, Cache.empty, []⟩

/-- What an extraction is about to write. -/
structure Draft where
  output : Path
  /-- The excerpt. -/
  text : String
  /-- Where the report goes and what it says, if one is asked for. -/
  report : Option (Path × String)
  /-- What will have been done. -/
  outcome : Outcome
deriving DecidableEq, Repr

/-- Something a session does that may fail with `ε`. What the session has
loaded and told stays, whether it fails or not. -/
abbrev Task (m : Type → Type) (ε : Type) := ExceptT ε (StateT Session m)

namespace Session

variable [Monad m] [FileAccess m]

/-- Asks something of the file system. -/
def ask (action : m α) : Task m ε α :=
  ExceptT.lift (StateT.lift action)

/-- Adds to the log. -/
def tell (events : List Event) : Task m ε Unit :=
  modify fun s => { s with events := s.events ++ events }

/-- The value of a computation, or its error as a failure. -/
def settle (asFailure : δ → Failure) : Except δ α → Task m Failure α
  | .ok a => pure a
  | .error e => throw (asFailure e)

/-- Loads the document at a path. -/
def load (input : Path) : Task m Failure Loaded := do
  let text ← settle .io (← ask (FileAccess.readText input))
  let (loaded, cache) ← settle .parse ((← get).cache.load text)
  modify fun s => { s with cache }
  return loaded

/-- Selects what the criteria ask for. -/
def select (criteria : Criteria) (loaded : Loaded) : Task m Failure Selection := do
  let (direct, events) := criteria.select loaded.document (← get).config.defaults.listLimit
  tell events
  return direct

/-- Selects along calls as well, up to a depth. What has been learnt of the calls
is kept. -/
def expand (criteria : Criteria) (loaded : Loaded) (direct : Selection) (depth : Nat) :
    Task m Failure Selection := do
  let grown := criteria.expand loaded.graph direct depth
  tell grown.events
  modify fun s => { s with cache := s.cache.update loaded.digest grown.graph }
  return grown.selection

/-- Words the report on an extraction, if one is asked for. -/
def draftReport (r : Request) (output : Path) (loaded : Loaded) (depth : Nat) (s : Selection) :
    Task m Failure (Option (Path × String)) := do
  match r.report with
  | none => return none
  | some path =>
    let time ← ask FileAccess.now
    match (Report.ofSelection r.input output loaded.digest time depth loaded.document s).text? with
    | none => throw .pathNotText
    | some text => return some (path, text)

/-- Works out an extraction and writes nothing yet. -/
def draft (r : Request) : Task m Failure Draft := do
  let defaults := (← get).config.defaults
  let depth ← settle .config (r.depthWith defaults)
  let output := r.outputWith defaults
  let criteria ← settle (.config ∘ .criteria) (r.criteriaWith defaults)
  let loaded ← load r.input
  let direct ← select criteria loaded
  let selection ← (if depth > 0 then expand criteria loaded direct depth else pure direct)
  if selection.isEmpty then
    if r.failOnEmptyWith defaults then throw .emptySelection
    tell [.nothingSelected]
  let report ← draftReport r output loaded depth selection
  return {
    output
    text := Excerpt.render loaded.document selection
    report
    outcome := {
      count := selection.size
      output
      figures := {
        parsed := loaded.document.functionCount
        selected := direct.size
        expanded := selection.size - direct.size
        external := selection.external.length } } }

/-- Stages a report, if there is one. -/
def stageReport : Option (Path × String) → Task m Failure (Option Staged)
  | none => return none
  | some (path, text) => do return some (← settle .io (← ask (stage path text)))

/-- Moves a staged report into place, if there is one. -/
def commitReport : Option Staged → Task m Failure Unit
  | none => pure ()
  | some staged => do settle .io (← ask staged.commit)

/-- Removes a staged report, if there is one. -/
def dropReport : Option Staged → Task m Failure Unit
  | none => pure ()
  | some staged => ask (FileAccess.discard staged.temp)

/-- Ends an extraction whose excerpt has been written, or could not be. -/
def conclude (d : Draft) (report : Option Staged) : Except IoError Unit → Task m Failure Outcome
  | .error e => do
    dropReport report
    throw (.io e)
  | .ok () => do
    commitReport report
    return d.outcome

/-- Writes what has been worked out. -/
def publish (d : Draft) : Task m Failure Outcome := do
  let report ← stageReport d.report
  let (written, events) ← ask (replaceFile d.output d.text)
  tell events
  conclude d report written

/-- Runs an extraction. -/
def extract (r : Request) : Task m Failure Outcome := do
  publish (← draft r)

/-! ## Jobs -/

/-- The jobs to run: all, or the one with a name. -/
def jobs (c : Config) : Option String → Except ConfigFault (List Job)
  | none => if c.jobs.isEmpty then .error .noJobs else .ok c.jobs
  | some name =>
    match c.job? name with
    | some job => .ok [job]
    | none => .error (.noSuchJob name)

/-- Runs a job. -/
def runJob (job : Job) : Task m Abort Outcome := do
  match Request.ofJob job with
  | .error fault => throw (.of (.config fault))
  | .ok request => (extract request).adapt (.during (.runningJob job.name))

/-- Runs all jobs, or the one with a name, up to the first that fails. -/
def runJobs (only : Option String) : Task m Abort (List Outcome) := do
  match jobs (← get).config only with
  | .error fault => throw (.of (.config fault))
  | .ok jobs => jobs.mapM runJob

/-! ## Listings -/

/-- A call site in a listing. -/
def siteLine (doc : Document) (site : CallSite) : String :=
  "    -> " ++ site.callee ++ " (line " ++ toString site.line ++ ", " ++ site.kind.label ++ ")"
    ++ (if doc.contains site.callee then "" else " [external]") ++ "\n"

/-- A function in a listing: its level, its name and its call sites. -/
def functionLines (doc : Document) (s : Selection) (name : String) : String :=
  match doc.find? name, s.depth? name with
  | some d, some level =>
    "[" ++ toString level ++ "] " ++ name ++ "\n" ++ String.join ((CallSite.ofDefinition doc d).map (siteLine doc))
  | _, _ => ""

/-- The selected functions in document order, with their call sites. -/
def listing (doc : Document) (s : Selection) : String :=
  String.join ((s.inDocumentOrder doc).map (functionLines doc s))

/-- Lists the functions that can be reached from some names. -/
def graph (input : Path) (names : List String) (depth : Nat) : Task m Failure String := do
  let criteria ← settle (.config ∘ .criteria) (Criteria.ofTexts names [] [] [])
  let loaded ← load input
  let direct ← select criteria loaded
  let selection ← expand criteria loaded direct depth
  return listing loaded.document selection

end Session

end IrExcerpt
