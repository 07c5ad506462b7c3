import JobDispatch.Handler.Registry

/-! From an event to the jobs it triggers. A bus message whose topic nobody consumes is dropped. Any
other event is recognized, the configuration of its project is fetched, and the jobs declared for
its trigger are run in order, until one fails. -/

namespace JobDispatch

open Log.Record

structure Classified where
  trigger : Trigger
  package : PackageConfig
  project : Project

structure Dispatcher (X : Extras) where
  config : ServiceConfig
  registry : Registry X

variable {X : Extras}

def Recognized.classify (r : Recognized) (side kind : Side) : Job X Classified := do
  let project : Project := ⟨r.owner, r.repo, kind⟩
  let package ← Job.askForge side (.packageConfig project r.ref)
  match r.url? with
  | some url => return ⟨r.trigger, { package with upstreamProjectUrl := some url }, project⟩
  | none =>
    Job.log (debug .recognition "Event has no repository URL, keeping the configured upstream URL"
      [("project", project.text)])
    return ⟨r.trigger, package, project⟩

def Event.classify (e : Event) : Job X (Option Classified) := do
  match ← Job.tell e.recognized with
  | none => return none
  | some r =>
    let kind ← Job.reach r.side
    let c ← r.classify r.side kind
    Job.log (info .dispatch "Event classified"
      [("trigger", c.trigger.name), ("project", c.project.text),
        ("jobs", toString c.package.jobs.length)])
    return some c

namespace Dispatcher

def context (d : Dispatcher X) (c : Classified) (e : Event) (job : JobConfig) : Context where
  config := d.config
  package := c.package
  event := e
  project := c.project
  job := job
  trigger := c.trigger

def runJob (d : Dispatcher X) (c : Classified) (e : Event) (job : JobConfig) : Job X Unit :=
  let fields := [("job", job.job.name), ("trigger", c.trigger.name)]
  match d.registry.handler? job.job with
  | none => Job.log (warn .dispatch "There is no handler for job" fields)
  | some h =>
    if c.trigger ∉ h.triggers then
      Job.log (warn .dispatch "Handler does not support this trigger" fields)
    else do
      Job.log (info .dispatch "Running job" [("job", job.job.name), ("project", c.project.text)])
      h.run (d.context c e job)

def runAll (d : Dispatcher X) (c : Classified) (e : Event) : List JobConfig → Job X Unit
  | [] => pure ()
  | job :: jobs => do
    d.runJob c e job
    d.runAll c e jobs

def runJobs (d : Dispatcher X) (c : Classified) (e : Event) : Job X Unit :=
  d.runAll c e (c.package.declaredFor c.trigger)

def drops (d : Dispatcher X) (topic : Option String) : Bool :=
  topic.any fun t => !d.registry.consumes t

def dispatch (d : Dispatcher X) (e : Event) (topic : Option String) : Job X Unit := do
  if d.drops topic then
    Job.log (debug .dispatch "No handler consumes this topic" [("topic", topic.getD "")])
  else
    match ← e.classify with
    | none => Job.log (debug .dispatch "Event is not processed")
    | some c => d.runJobs c e

end Dispatcher

end JobDispatch
