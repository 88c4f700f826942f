import LiveAssert.Scenario

/-!
Scenarios in progress.

The documents that a scenario reads change while it runs, at the times of a script; reads take the
time and fail in the ways that are queued for them. A running step sees the documents as they are
when a read comes back, and what the script has for later than the end of the step never happens.
-/

namespace LiveAssert

structure Read where
  delay : Duration
  error : Option FetchError

def Read.immediate : Read := ⟨.zero, none⟩

structure Session where
  scenario : Scenario
  documents : Documents
  reads : List Read
  clock : Nat

namespace Session

def new (scenario : Scenario) : Session := ⟨scenario, [], [], 0⟩

def queue (s : Session) (reads : List Read) : Session := { s with reads := s.reads ++ reads }

/-- Reads documents as the queued reads say and as the script has changed them when the read comes
back. After the queue every read is immediate. -/
def resolver (s : Session) (script : Script) : Resolver := fun n time o =>
  let read := s.reads[n]?.getD .immediate
  let document := match read.error with
    | some e => .error e
    | none => (script.documents s.documents (time + read.delay.millisUp)).resolve o
  ⟨document, read.delay⟩

def cancelAt (s : Session) (script : Script) : Option Nat := script.cancelAt s.scenario.token

/-- The session after a run: every call has used up a read, and what the script has for later
never happens. -/
def after (s : Session) (script : Script) (run : Run AssertionError) : Session where
  scenario := { s.scenario with token := script.token s.scenario.token run.elapsed }
  documents := script.documents s.documents run.elapsed
  reads := s.reads.drop run.calls.length
  clock := s.clock + run.elapsed

@[simp] theorem registry_after (s : Session) (script : Script) (run : Run AssertionError) :
    (s.after script run).scenario.registry = s.scenario.registry := rfl

@[simp] theorem token_after (s : Session) (script : Script) (run : Run AssertionError) :
    (s.after script run).scenario.token = script.token s.scenario.token run.elapsed := rfl

@[simp] theorem documents_after (s : Session) (script : Script) (run : Run AssertionError) :
    (s.after script run).documents = script.documents s.documents run.elapsed := rfl

@[simp] theorem clock_after (s : Session) (script : Script) (run : Run AssertionError) :
    (s.after script run).clock = s.clock + run.elapsed := rfl

def assertObject (s : Session) (script : Script) (reference path phrase : String)
    (spec : PollSpec) : Run AssertionError × Session :=
  let run := s.scenario.assertObject (s.resolver script) (s.cancelAt script) reference path phrase spec
  (run, s.after script run)

def runStep (s : Session) (script : Script) (text : String) : Run AssertionError × Session :=
  let run := s.scenario.runStep (s.resolver script) (s.cancelAt script) text
  (run, s.after script run)

def change (s : Session) (c : Change) : Session :=
  { s with
    documents := c.onDocuments s.documents
    scenario := { s.scenario with token := c.onToken s.scenario.token } }

end Session

end LiveAssert
