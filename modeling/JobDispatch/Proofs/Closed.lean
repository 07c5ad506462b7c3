import JobDispatch.Proofs.Builtins

namespace JobDispatch

variable {X : Extras}

structure Job.Closed (P : (α : Type) → Job X α → Prop) : Prop where
  done : ∀ {α : Type} (a : α), P α (pure a)
  fail : ∀ {α : Type} err, P α (Job.fail err)
  log : ∀ rec, P Unit (Job.log rec)
  tell : ∀ {α : Type} (x : Logged α), P α (Job.tell x)
  reach : ∀ side, P Side (Job.reach side)
  askForge : ∀ side call, P call.Result (Job.askForge side call)
  askPackaging : ∀ call, P call.Result (Job.askPackaging call)
  bind : ∀ {α β : Type} {j : Job X α} {f : α → Job X β}, P α j → (∀ a, P β (f a)) → P β (j >>= f)

namespace Job.Closed

open Handler

variable {P : (α : Type) → Job X α → Prop} {c : Context}

lemma requireText (h : Closed P) (c : Context) (path : List String) : P _ (c.requireText path) := by
  rw [Context.requireText]
  cases c.event.text? path with
  | none => exact h.fail _
  | some s => exact h.done s

lemma requireNatural (h : Closed P) (c : Context) (path : List String) :
    P _ (c.requireNatural path) := by
  rw [Context.requireNatural]
  cases c.event.natural? path with
  | none => exact h.fail _
  | some n => exact h.done n

lemma sourceOf (h : Closed P) (url : Option String) : P _ (Handler.sourceOf url) := by
  cases url with
  | none => exact h.fail _
  | some url =>
    rw [Handler.sourceOf]
    cases Address.ownerAndRepo? url with
    | none => exact h.fail _
    | some source => exact h.done source

lemma submit (h : Closed P) (c : Context) (committish cloneUrl : String) :
    P _ (Handler.submit c committish cloneUrl) := by
  apply iteInduction (motive := P _)
  · intro _
    exact h.fail _
  · intro _
    refine h.bind (h.log _) fun _ => h.bind (h.askPackaging _) fun build => ?_
    exact h.bind (h.log _) fun _ => h.done build

lemma proposeDownstream (h : Closed P) (c : Context) : P _ (Handler.proposeDownstream.run c) :=
  h.bind (h.requireText c _) fun _ => h.bind (h.log _) fun _ =>
    h.askPackaging (.proposeRelease _ _ _ _)

lemma checkDownstream (h : Closed P) (c : Context) : P _ (Handler.checkDownstream.run c) :=
  h.bind (h.requireNatural c _) fun _ => h.bind (h.log _) fun _ =>
    h.askPackaging (.checkPullRequest _ _ _ _)

lemma syncFromDownstream (h : Closed P) (c : Context) : P _ (Handler.syncFromDownstream.run c) := by
  refine h.bind (h.requireText c _) fun branch => h.bind (h.askPackaging _) fun url => ?_
  refine h.bind (h.sourceOf url) ?_
  rintro ⟨owner, repo⟩
  refine h.bind (h.reach _) fun _ => h.bind (h.log _) fun _ => ?_
  exact h.askPackaging (.carryBack _ _ _ _)

lemma buildRelease (h : Closed P) (c : Context) : P _ (Handler.buildRelease c) := by
  rw [Handler.buildRelease_eq]
  refine h.bind (h.requireText c _) fun url => h.bind (h.requireText c _) fun tag => ?_
  refine h.bind (h.reach _) fun _ => h.bind (h.submit c tag url) fun build => ?_
  exact h.bind (h.askForge _ _) fun sha => h.askForge _ (.comment _ _ _)

lemma buildPullRequest (h : Closed P) (c : Context) : P _ (Handler.buildPullRequest c) := by
  rw [Handler.buildPullRequest_eq]
  refine h.bind (h.requireText c _) fun url => h.bind (h.requireText c _) fun sha => ?_
  refine h.bind (h.requireNatural c _) fun number => h.bind (h.requireText c _) fun owner => ?_
  refine h.bind (h.requireText c _) fun repo => h.bind (h.reach _) fun kind => ?_
  refine h.bind (h.submit c sha url) fun build => h.bind (h.log _) fun _ => ?_
  exact h.askForge _ (.comment _ _ _)

lemma coprBuild (h : Closed P) (c : Context) : P _ (Handler.coprBuild.run c) := by
  cases ht : c.trigger with
  | pullRequest =>
    simp only [Handler.coprBuild, ht]
    exact h.buildPullRequest c
  | release =>
    simp only [Handler.coprBuild, ht]
    exact h.buildRelease c
  | commit =>
    simp only [Handler.coprBuild, ht]
    exact h.log _

lemma builtin (h : Closed P) {t : Trigger} {j : JobType} {handler : Handler X}
    (hb : Builtin t j handler) (c : Context) : P _ (handler.run c) := by
  cases hb with
  | proposeDownstream => exact h.proposeDownstream c
  | buildRelease | buildPullRequest => exact h.coprBuild c
  | checkDownstream => exact h.checkDownstream c
  | syncFromDownstream => exact h.syncFromDownstream c

lemma classify (h : Closed P) (e : Event) : P _ e.classify := by
  refine h.bind (h.tell _) ?_
  rintro (_ | r)
  · exact h.done _
  refine h.bind (h.reach _) fun kind => h.bind ?_ fun c => h.bind (h.log _) fun _ => h.done _
  refine h.bind (h.askForge _ _) fun package => ?_
  cases hu : r.url? with
  | some url => exact h.done _
  | none => exact h.bind (h.log _) fun _ => h.done _

variable {d : Dispatcher X}

lemma runAll (h : Closed P) (hd : Registry.standard.value = .ok d.registry) (c : Classified)
    (e : Event) (jobs : List JobConfig) : P _ (d.runAll c e jobs) := by
  induction jobs with
  | nil => exact h.done _
  | cons job jobs ih =>
    refine h.bind ?_ fun _ => ih
    rw [Dispatcher.runJob_eq]
    cases hf : d.registry.fate c.trigger job with
    | skip warning => exact h.log _
    | run job' handler =>
      obtain ⟨rfl, hj, ht⟩ := Registry.fate_eq_run_iff.mp hf
      exact h.bind (h.log _) fun _ => h.builtin (Registry.standard_builtin hd hj ht) _

lemma dispatch (h : Closed P) (hd : Registry.standard.value = .ok d.registry) (e : Event)
    (topic : Option String) : P _ (d.dispatch e topic) := by
  by_cases ht : d.drops topic = true
  · rw [Dispatcher.dispatch, if_pos ht]
    exact h.log _
  rw [Dispatcher.dispatch, if_neg ht]
  refine h.bind (h.classify e) ?_
  rintro (_ | c)
  · exact h.log _
  · exact h.runAll hd c e _

end Job.Closed

end JobDispatch
