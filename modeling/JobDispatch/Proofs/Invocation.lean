import JobDispatch.Proofs.Calls
import JobDispatch.Proofs.Origin
import JobDispatch.Proofs.Registration
import JobDispatch.Proofs.Turn

/-! The invocations of handlers. A program cannot see which handler it runs, so that the handlers of
a dispatcher are made to note when they begin, and in which context. The notes change nothing else:
without them the program is the one that was to be observed. -/

namespace JobDispatch

variable {X : Extras} {σ α β : Type}

structure Invocation (X : Extras) where
  handler : Handler X
  context : Context

abbrev Extras.observed (X : Extras) : Extras where
  Act := X.Act ⊕ Invocation X
  Answer
    | .inl a => X.Answer a
    | .inr _ => Unit

namespace Program

def lift : Program X α → Program X.observed α
  | .done a => .done a
  | .log r next => .log r next.lift
  | .reach side next => .reach side fun x => (next x).lift
  | .askForge side call next => .askForge side call fun x => (next x).lift
  | .askPackaging call next => .askPackaging call fun x => (next x).lift
  | .act a next => .act (.inl a) fun x => (next x).lift

def erase : Program X.observed α → Program X α
  | .done a => .done a
  | .log r next => .log r next.erase
  | .reach side next => .reach side fun x => (next x).erase
  | .askForge side call next => .askForge side call fun x => (next x).erase
  | .askPackaging call next => .askPackaging call fun x => (next x).erase
  | .act (.inl a) next => .act a fun x => (next x).erase
  | .act (.inr _) next => (next ()).erase

lemma erase_lift (p : Program X α) : p.lift.erase = p := by
  induction p with
  | done a => rfl
  | log r next ih => simp [lift, erase, ih]
  | reach side next ih => simp [lift, erase, ih]
  | askForge side call next ih => simp [lift, erase, ih]
  | askPackaging call next ih => simp [lift, erase, ih]
  | act a next ih => simp [lift, erase, ih]

lemma erase_bind (p : Program X.observed α) (f : α → Program X.observed β) :
    (p.bind f).erase = p.erase.bind fun a => (f a).erase := by
  induction p with
  | done a => rfl
  | log r next ih => simp [erase, ih]
  | reach side next ih => simp [erase, ih]
  | askForge side call next ih => simp [erase, ih]
  | askPackaging call next ih => simp [erase, ih]
  | act a next ih =>
    cases a with
    | inl a => simp [erase, ih]
    | inr i => exact ih ()

lemma erase_write (rs : List Log.Record) :
    (write rs : Program X.observed Unit).erase = write rs := by
  induction rs with
  | nil => rfl
  | cons r rs ih => simp [write, erase, ih]

end Program

namespace Job

def erase (j : Job X.observed α) : Job X α :=
  ExceptT.mk j.run.erase

lemma erase_bind (j : Job X.observed α) (f : α → Job X.observed β) :
    (j >>= f).erase = j.erase >>= fun a => (f a).erase := by
  change ExceptT.mk ((j.run.bind _).erase) = ExceptT.mk (j.run.erase.bind _)
  rw [Program.erase_bind]
  congr 2
  funext x
  cases x <;> rfl

lemma erase_tell (x : Logged α) : (tell x : Job X.observed α).erase = tell x := by
  simp [tell, ofProgram, erase, Program.ofLogged, Program.erase_bind, Program.erase_write,
    Program.erase]

end Job

def Handler.observed (h : Handler X) : Handler X.observed where
  job := h.job
  triggers := h.triggers
  topic := h.topic
  run c := do
    Job.act (X := X.observed) (.inr ⟨h, c⟩)
    ExceptT.mk (h.run c).run.lift

def Registry.observed (r : Registry X) : Registry X.observed :=
  ⟨fun j => (r.handler? j).map Handler.observed⟩

lemma Registry.topics_observed (r : Registry X) : r.observed.topics = r.topics := by
  simp only [topics, handlers, List.filterMap_filterMap]
  congr 1
  funext j
  cases hj : r.handler? j <;> simp [observed, hj, Handler.observed]

lemma Handler.erase_run (h : Handler X) (c : Context) : (h.observed.run c).erase = h.run c :=
  congrArg ExceptT.mk (h.run c).run.erase_lift

lemma Recognized.erase_classify (r : Recognized) (side kind : Side) :
    (r.classify side kind : Job X.observed Classified).erase = r.classify side kind := by
  rw [classify, classify, Job.erase_bind]
  congr 1
  funext package
  cases r.url? with
  | some url => rfl
  | none => rfl

lemma Event.erase_classify (e : Event) :
    (e.classify : Job X.observed (Option Classified)).erase = e.classify := by
  rw [classify, classify, Job.erase_bind, Job.erase_tell]
  congr 1
  funext r?
  cases r? with
  | none => rfl
  | some r =>
    simp only [Job.erase_bind, r.erase_classify]
    rfl

namespace Dispatcher

def observed (d : Dispatcher X) : Dispatcher X.observed :=
  ⟨d.config, d.registry.observed⟩

variable {d : Dispatcher X} {c : Classified} {e : Event}

lemma drops_observed (d : Dispatcher X) (topic : Option String) :
    d.observed.drops topic = d.drops topic := by
  simp only [drops, Registry.consumes, observed, Registry.topics_observed]

lemma erase_runJob (d : Dispatcher X) (c : Classified) (e : Event) (job : JobConfig) :
    (d.observed.runJob c e job).erase = d.runJob c e job := by
  cases hj : d.registry.handler? job.job with
  | none => simp only [runJob, observed, Registry.observed, hj]; rfl
  | some h =>
    simp only [runJob, observed, Registry.observed, hj, Option.map_some, Handler.observed]
    by_cases ht : c.trigger ∈ h.triggers
    · simp only [ht, not_true, if_false]
      rw [Job.erase_bind]
      congr 1
      funext u
      exact h.erase_run _
    · simp only [ht, not_false_eq_true, if_true]
      rfl

lemma erase_runAll (d : Dispatcher X) (c : Classified) (e : Event) (jobs : List JobConfig) :
    (d.observed.runAll c e jobs).erase = d.runAll c e jobs := by
  induction jobs with
  | nil => rfl
  | cons job jobs ih =>
    rw [runAll, runAll, Job.erase_bind, erase_runJob]
    congr 1
    funext u
    exact ih

lemma erase_dispatch (d : Dispatcher X) (e : Event) (topic : Option String) :
    (d.observed.dispatch e topic).erase = d.dispatch e topic := by
  rw [dispatch, dispatch, drops_observed]
  split_ifs
  · rfl
  · rw [Job.erase_bind, e.erase_classify]
    congr 1
    funext c?
    cases c? with
    | none => rfl
    | some c => exact d.erase_runAll c e _

end Dispatcher

section Runs

def Collaborators.observed (k : Collaborators X (StateM σ)) :
    Collaborators X.observed (StateM σ) where
  upstream := k.upstream
  downstream := k.downstream
  packaging := k.packaging
  act
    | .inl a => k.act a
    | .inr _ => pure ()

def Entry.plain? : Entry X.observed → Option (Entry X)
  | .logged r => some (.logged r)
  | .attempted side outcome => some (.attempted side outcome)
  | .askedForge side call => some (.askedForge side call)
  | .askedPackaging call => some (.askedPackaging call)
  | .acted (.inl a) => some (.acted a)
  | .acted (.inr _) => none

structure Outcome.Observes (o : Outcome X.observed (StateM σ) α) (o' : Outcome X (StateM σ) α) :
    Prop where
  value : o.value = o'.value
  collaborators : o.collaborators = o'.collaborators.observed
  transcript : o.transcript.filterMap Entry.plain? = o'.transcript

lemma Collaborators.link_observed (k : Collaborators X (StateM σ)) (side : Side) :
    k.observed.link side = k.link side := by
  cases side <;> rfl

lemma Collaborators.contacts_observed (k : Collaborators X (StateM σ)) :
    k.observed.contacts = k.contacts := by
  funext side
  rw [contacts, contacts, link_observed]

lemma Collaborators.setLink_observed (k : Collaborators X (StateM σ)) (side : Side)
    (l : Link (StateM σ) (Forge (StateM σ))) :
    k.observed.setLink side l = (k.setLink side l).observed := by
  cases side <;> rfl

lemma filterMap_plain_logged (rs : List Log.Record) :
    (rs.map Entry.logged).filterMap Entry.plain? = (rs.map Entry.logged : List (Entry X)) := by
  induction rs with
  | nil => rfl
  | cons r rs ih => exact congrArg (Entry.logged r :: ·) ih

lemma Use.filterMap_plain_entries {φ : Type} (u : Use (StateM σ) φ) (side : Side) :
    (u.entries side).filterMap Entry.plain? = (u.entries side : List (Entry X)) := by
  rw [entries, entries, List.filterMap_append, filterMap_plain_logged]
  cases hu : u.attempt with
  | none => rfl
  | some outcome => rfl

lemma Outcome.Observes.after {o : Outcome X.observed (StateM σ) α} {o' : Outcome X (StateM σ) α}
    (h : o.Observes o') {es : List (Entry X.observed)} {es' : List (Entry X)}
    (hes : es.filterMap Entry.plain? = es') : (o.after es).Observes (o'.after es') :=
  ⟨h.value, h.collaborators, by simp [hes, h.transcript]⟩

lemma Program.run_observed (p : Program X.observed α) (k : Collaborators X (StateM σ)) (s : σ) :
    (p.run k.observed s).1.Observes (p.erase.run k s).1 ∧
      (p.run k.observed s).2 = (p.erase.run k s).2 := by
  -- The programs make the same calls, one by one, except at a note, which leaves all as it was.
  induction p generalizing k s with
  | done a => exact ⟨⟨rfl, rfl, rfl⟩, rfl⟩
  | log r next ih =>
    obtain ⟨ho, hs⟩ := ih k s
    exact ⟨ho.after rfl, hs⟩
  | reach side next ih =>
    simp only [run, erase, stateM_bind, stateM_pure, k.link_observed, k.setLink_observed]
    obtain ⟨ho, hs⟩ := ih (((k.link side).use s).1.result.map Forge.kind)
      (k.setLink side ((k.link side).use s).1.link) ((k.link side).use s).2
    exact ⟨ho.after (Use.filterMap_plain_entries _ _), hs⟩
  | askForge side call next ih =>
    simp only [run, erase, stateM_bind, k.link_observed, k.setLink_observed]
    generalize (k.link side).use s = us
    obtain ⟨u, s₁⟩ := us
    cases hu : u.result with
    | error err =>
      obtain ⟨ho, hs⟩ := ih (.error err) (k.setLink side u.link) s₁
      simp only [stateM_bind, stateM_pure]
      exact ⟨ho.after (Use.filterMap_plain_entries _ _), hs⟩
    | ok f =>
      obtain ⟨ho, hs⟩ := ih (f.ask call s₁).1.value (k.setLink side u.link) (f.ask call s₁).2
      simp only [stateM_bind, stateM_pure]
      refine ⟨ho.after ?_, hs⟩
      rw [List.filterMap_append, Use.filterMap_plain_entries]
      exact congrArg (u.entries side ++ Entry.askedForge side call :: ·) (filterMap_plain_logged _)
  | askPackaging call next ih =>
    simp only [run, erase, stateM_bind, stateM_pure]
    obtain ⟨ho, hs⟩ := ih (k.packaging.ask call s).1.value k (k.packaging.ask call s).2
    refine ⟨ho.after ?_, hs⟩
    exact congrArg (Entry.askedPackaging call :: ·) (filterMap_plain_logged _)
  | act a next ih =>
    cases a with
    | inl a =>
      obtain ⟨ho, hs⟩ := ih (k.act a s).1 k (k.act a s).2
      exact ⟨ho.after rfl, hs⟩
    | inr i =>
      obtain ⟨ho, hs⟩ := ih () k s
      exact ⟨ho.after rfl, hs⟩

end Runs

section Notes

lemma Program.Path.no_note {p : Program X α} {κ κ' : Contacts} {ss : List (Step X.observed)} {a : α}
    (h : Path κ p.lift ss a κ') (i : Invocation X) : .acted (.inr i) () ∉ ss := by
  intro hm
  induction p generalizing κ ss with
  | done a =>
    cases h
    cases hm
  | log r next ih =>
    cases h with
    | log h => exact ih h ((List.mem_cons.mp hm).resolve_left (by simp))
  | reach side next ih =>
    cases h with
    | reach hr h =>
      rcases List.mem_append.mp hm with hm | hm
      · obtain ⟨_, _, hs⟩ := hr.attempted hm
        cases hs
      · exact ih _ h hm
  | askForge side call next ih =>
    cases h with
    | unreached hr h =>
      rcases List.mem_append.mp hm with hm | hm
      · obtain ⟨_, _, hs⟩ := hr.attempted hm
        cases hs
      · exact ih _ h hm
    | askForge x log hr h =>
      rcases List.mem_append.mp hm with hm | hm
      · obtain ⟨_, _, hs⟩ := hr.attempted hm
        cases hs
      · exact ih _ h ((List.mem_cons.mp hm).resolve_left (by simp))
  | askPackaging call next ih =>
    cases h with
    | askPackaging x log h => exact ih _ h ((List.mem_cons.mp hm).resolve_left (by simp))
  | act a next ih =>
    cases h with
    | act x h => exact ih _ h ((List.mem_cons.mp hm).resolve_left (by simp))

lemma Handler.note_eq {h : Handler X} {c : Context} {κ κ' : Contacts}
    {ss : List (Step X.observed)} {r : Except JobError Unit} {i : Invocation X}
    (hp : Program.Path κ (h.observed.run c).run ss r κ') (hm : .acted (.inr i) () ∈ ss) :
    i = ⟨h, c⟩ := by
  cases hp with
  | act x hp =>
    rcases List.mem_cons.mp hm with hs | hm
    · cases hs
      rfl
    · exact absurd hm (Program.Path.no_note (p := (h.run c).run) hp i)

end Notes

namespace Dispatcher

lemma dispatch_observes (d : Dispatcher X) (e : Event) (topic : Option String)
    (k : Collaborators X (StateM σ)) (s : σ) :
    let o := (d.observed.dispatch e topic).run.run k.observed s
    let o' := (d.dispatch e topic).run.run k s
    o.1.Observes o'.1 ∧ o.2 = o'.2 := by
  have h := (d.observed.dispatch e topic).run.run_observed k s
  rwa [show (d.observed.dispatch e topic).run.erase = (d.dispatch e topic).run from
    d.erase_dispatch e topic] at h

lemma afterAll_observed (d : Dispatcher X) (ms : List (Event × Option String))
    (k : Collaborators X (StateM σ)) (s : σ) :
    d.observed.afterAll ms k.observed s =
      ((d.afterAll ms k s).1.observed, (d.afterAll ms k s).2) := by
  induction ms generalizing k s with
  | nil => rfl
  | cons m ms ih =>
    obtain ⟨ho, hs⟩ := d.dispatch_observes m.1 m.2 k s
    simp only [afterAll, ho.collaborators, hs]
    exact ih _ _

end Dispatcher

structure Invocation.Justified (i : Invocation X) (hs : List (Handler X)) (e : Event)
    (r : Recognized) (kind : Side) (package : PackageConfig) : Prop where
  offered : i.handler ∈ hs
  job : i.handler.job = i.context.job.job
  accepted : i.context.trigger ∈ i.handler.triggers
  declared : i.context.job ∈ package.jobs
  declaredFor : i.context.job.trigger = i.context.trigger
  trigger : i.context.trigger = r.trigger
  project : i.context.project = ⟨r.owner, r.repo, kind⟩
  event : i.context.event = e

namespace Dispatcher

theorem dispatch_invocations (config : ServiceConfig) (hs : List (Handler X))
    (ms : List (Event × Option String)) (e : Event) (topic : Option String)
    (k : Collaborators X (StateM σ)) (s : σ) :
    let d : Dispatcher X := ⟨config, .offered hs⟩
    let now := d.afterAll ms k s
    let o := (d.observed.dispatch e topic).run.run now.1.observed now.2
    let o' := (d.dispatch e topic).run.run now.1 now.2
    let steps := (d.observed.dispatch e topic).run.steps now.1.observed now.2
    d.observed.afterAll ms k.observed s = (now.1.observed, now.2) ∧
      o.1.Observes o'.1 ∧ o.2 = o'.2 ∧ o.1.transcript = steps.flatMap Step.entries ∧
      ∀ i, .acted (.inr i) () ∈ steps → ∃ r kind package before fetched after,
        e.recognized.value = some r ∧
        steps = before ++ .askedForge r.side (r.configCall kind) (.ok package) fetched :: after ∧
        calls before = [] ∧ .acted (.inr i) () ∈ after ∧
        o'.1.collaborators.contacts r.side = some kind ∧ i.Justified hs e r kind package := by
  intro d now o o' steps
  obtain ⟨ho, hs'⟩ := d.dispatch_observes e topic now.1 now.2
  obtain ⟨hp, ht⟩ := (d.observed.dispatch e topic).run.run_path now.1.observed now.2
  refine ⟨d.afterAll_observed ms k s, ho, hs', ht, fun i hm => ?_⟩
  obtain ⟨before, after, hsplit⟩ := List.append_of_mem hm
  obtain ⟨r, hr, horigin⟩ := (path_dispatch hp).origin hsplit (by simp)
  cases horigin with
  | reached _ _ h => cases h
  | fetched _ _ _ _ h => cases h
  | @taken kind rs between since _ _ _ _ package fetched job h _ hx hk hb hjob hjt hj htrig hrun =>
    obtain ⟨h, hregistered, rfl⟩ := Option.map_eq_some_iff.mp hj
    obtain ⟨hoff, hserves⟩ := Registry.handler?_offered hregistered
    obtain rfl := Handler.note_eq hrun (List.mem_append_right _ (List.mem_cons_self ..))
    have hkind : o'.1.collaborators.contacts r.side = some kind := by
      rwa [ho.collaborators, Collaborators.contacts_observed] at hk
    refine ⟨r, kind, package, records e.recognized.log ++ rs, fetched, _, hr,
      hsplit.trans (by rw [hb, List.append_assoc, List.cons_append]),
      hx.calls_records_append _, by simp, hkind, ?_⟩
    exact ⟨hoff, hserves, htrig, hjob, hjt, rfl, rfl, rfl⟩

example :
    let k : Collaborators Extras.none (StateM Unit) := .granting builtAndProposed
    ((standard.observed.dispatch published none).run.steps k.observed ()).countP
      (fun | .acted (.inr _) _ => true | _ => false) = 2 := by
  decide +kernel

end Dispatcher

end JobDispatch
