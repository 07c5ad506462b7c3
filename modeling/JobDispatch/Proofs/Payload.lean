import JobDispatch.Proofs.Calls
import JobDispatch.Proofs.Edit
import JobDispatch.Proofs.Turn

/-! What a dispatch reads of a payload. Events that agree on these fields are dispatched in the same
way, whatever else they hold: the checks that look at whole subtrees make no difference. -/

namespace JobDispatch

variable {X : Extras} {σ α : Type}

namespace Event

def textFields : List (List String) :=
  [["action"],
    ["topic"],
    ["release", "tag_name"],
    ["repository", "owner", "login"],
    ["repository", "name"],
    ["repository", "html_url"],
    ["repository", "clone_url"],
    ["pull_request", "head", "repo", "owner", "login"],
    ["pull_request", "head", "repo", "name"],
    ["pull_request", "head", "ref"],
    ["pull_request", "head", "repo", "clone_url"],
    ["pull_request", "head", "sha"],
    ["pull_request", "base", "repo", "owner", "login"],
    ["pull_request", "base", "repo", "name"],
    ["msg", "commit", "namespace"],
    ["msg", "commit", "repo"],
    ["msg", "commit", "branch"]]

structure Agree (e e' : Event) : Prop where
  text : ∀ path ∈ textFields, e.text? path = e'.text? path
  number : e.natural? ["number"] = e'.natural? ["number"]

variable {e e' : Event}

namespace Agree

lemma symm (h : e.Agree e') : e'.Agree e :=
  ⟨fun path hp => (h.text path hp).symm, h.number.symm⟩

lemma hasText (h : e.Agree e') {path : List String} {s : String} (hs : e.HasText path s)
    (hp : path ∈ textFields) : e'.HasText path s := by
  rw [← text?_eq_some_iff] at hs ⊢
  rw [← h.text path hp, hs]

lemma isRelease (h : e.Agree e') {owner repo tag : String} (hr : e.IsRelease owner repo tag) :
    e'.IsRelease owner repo tag where
  action := h.hasText hr.action (by simp [textFields])
  owner := h.hasText hr.owner (by simp [textFields])
  repo := h.hasText hr.repo (by simp [textFields])
  tag := h.hasText hr.tag (by simp [textFields])

lemma isPullRequest (h : e.Agree e') {owner repo headRef : String} {n : UInt64}
    (hr : e.IsPullRequest owner repo headRef n) : e'.IsPullRequest owner repo headRef n where
  action := by
    obtain ⟨action, hm, ha⟩ := hr.action
    exact ⟨action, hm, h.hasText ha (by simp [textFields])⟩
  number := by
    rw [← natural?_eq_some_iff]
    exact h.number.symm.trans (natural?_eq_some_iff.mpr hr.number)
  number_ne_zero := hr.number_ne_zero
  owner := h.hasText hr.owner (by simp [textFields])
  repo := h.hasText hr.repo (by simp [textFields])
  headRef := h.hasText hr.headRef (by simp [textFields])

lemma isDistGitCommit (h : e.Agree e') {owner repo branch : String}
    (hr : e.IsDistGitCommit owner repo branch) : e'.IsDistGitCommit owner repo branch where
  topic := h.hasText hr.topic (by simp [textFields])
  owner := h.hasText hr.owner (by simp [textFields])
  repo := h.hasText hr.repo (by simp [textFields])
  branch := h.hasText hr.branch (by simp [textFields])

lemma url (h : e.Agree e') {u : Option String}
    (hu : ∀ s, u = some s ↔ e.HasText ["repository", "html_url"] s) (s : String) :
    u = some s ↔ e'.HasText ["repository", "html_url"] s := by
  have hm : ["repository", "html_url"] ∈ textFields := by simp [textFields]
  exact (hu s).trans ⟨fun hs => h.hasText hs hm, fun hs => h.symm.hasText hs hm⟩

lemma describes (h : e.Agree e') {r : Recognized} (hr : e.Describes r) : e'.Describes r := by
  cases hr with
  | release hr hu => exact .release (h.isRelease hr) (h.url hu)
  | pullRequest hr hu => exact .pullRequest (h.isPullRequest hr) (h.url hu)
  | distGitCommit hr hnr hnp =>
    refine .distGitCommit (h.isDistGitCommit hr) ?_ ?_
    · rintro ⟨owner, repo, tag, hr'⟩
      exact hnr ⟨owner, repo, tag, h.symm.isRelease hr'⟩
    · rintro ⟨owner, repo, headRef, n, hr'⟩
      exact hnp ⟨owner, repo, headRef, n, h.symm.isPullRequest hr'⟩

lemma recognized (h : e.Agree e') : e.recognized.value = e'.recognized.value := by
  rw [Option.ext_iff]
  intro r
  rw [recognized_eq_some_iff, recognized_eq_some_iff]
  exact ⟨h.describes, h.symm.describes⟩

end Agree

lemma agree_of_edit {f : Option Json → Option Json} {places : List Json.Place}
    (hp : ∀ path ∈ ["number"] :: textFields, ¬ places <+: path.map .member)
    (he : Json.edit f places (some e.payload) = some e'.payload) : e.Agree e' := by
  have hleaf : ∀ path ∈ ["number"] :: textFields,
      (e'.payload.at? path).filter Json.isScalar = (e.payload.at? path).filter Json.isScalar := by
    intro path hm
    have h := Json.at?_edit (hp path hm) (f := f) (some e.payload)
    rwa [he] at h
  constructor
  · intro path hm
    have h := hleaf path (List.mem_cons_of_mem _ hm)
    rw [text?, text?, at?, at?, ← Json.bind_asText?_filter (e.payload.at? path), ← h,
      Json.bind_asText?_filter]
  · have h := hleaf ["number"] (List.mem_cons_self ..)
    rw [natural?, natural?, at?, at?, ← Json.bind_asNatural?_filter (e.payload.at? ["number"]), ← h,
      Json.bind_asNatural?_filter]

end Event

section Handlers

open Handler

variable {c : Context} {e : Event}

lemma Context.requireText_agree (h : c.event.Agree e) {path : List String}
    (hp : path ∈ Event.textFields) :
    (c.requireText path : Job X String) = { c with event := e }.requireText path := by
  rw [requireText, requireText, h.text path hp]

lemma Context.requireNatural_agree (h : c.event.Agree e) :
    (c.requireNatural ["number"] : Job X UInt64) =
      { c with event := e }.requireNatural ["number"] := by
  rw [requireNatural, requireNatural, h.number]

namespace Handler

lemma proposeDownstream_agree (h : c.event.Agree e) :
    (proposeDownstream : Handler X).run c = proposeDownstream.run { c with event := e } := by
  have htag : (c.requireText ["release", "tag_name"] : Job X String) =
      { c with event := e }.requireText ["release", "tag_name"] :=
    c.requireText_agree h (by simp [Event.textFields])
  simp only [proposeDownstream, htag]

lemma checkDownstream_agree (h : c.event.Agree e) :
    (checkDownstream : Handler X).run c = checkDownstream.run { c with event := e } := by
  have hnumber := c.requireNatural_agree (X := X) h
  simp only [checkDownstream, hnumber]

lemma syncFromDownstream_agree (h : c.event.Agree e) :
    (syncFromDownstream : Handler X).run c = syncFromDownstream.run { c with event := e } := by
  have hbranch : (c.requireText ["msg", "commit", "branch"] : Job X String) =
      { c with event := e }.requireText ["msg", "commit", "branch"] :=
    c.requireText_agree h (by simp [Event.textFields])
  simp only [syncFromDownstream, hbranch]

lemma buildRelease_agree (h : c.event.Agree e) :
    (buildRelease c : Job X Unit) = buildRelease { c with event := e } := by
  have htext : ∀ path ∈ Event.textFields,
      (c.requireText path : Job X String) = { c with event := e }.requireText path :=
    fun _ => c.requireText_agree h
  rw [buildRelease, htext ["repository", "clone_url"] (by simp [Event.textFields]),
    htext ["release", "tag_name"] (by simp [Event.textFields])]
  rfl

lemma buildPullRequest_agree (h : c.event.Agree e) :
    (buildPullRequest c : Job X Unit) = buildPullRequest { c with event := e } := by
  have htext : ∀ path ∈ Event.textFields,
      (c.requireText path : Job X String) = { c with event := e }.requireText path :=
    fun _ => c.requireText_agree h
  have hnumber := c.requireNatural_agree (X := X) h
  rw [buildPullRequest, hnumber,
    htext ["pull_request", "head", "repo", "clone_url"] (by simp [Event.textFields]),
    htext ["pull_request", "head", "sha"] (by simp [Event.textFields]),
    htext ["pull_request", "base", "repo", "owner", "login"] (by simp [Event.textFields]),
    htext ["pull_request", "base", "repo", "name"] (by simp [Event.textFields])]
  rfl

lemma coprBuild_agree (h : c.event.Agree e) :
    (coprBuild : Handler X).run c = coprBuild.run { c with event := e } := by
  simp only [coprBuild]
  cases c.trigger with
  | pullRequest => exact buildPullRequest_agree h
  | release => exact buildRelease_agree h
  | commit => rfl

end Handler

lemma Builtin.run_agree {t : Trigger} {j : JobType} {handler : Handler X}
    (hb : Builtin t j handler) (h : c.event.Agree e) :
    handler.run c = handler.run { c with event := e } := by
  cases hb with
  | proposeDownstream => exact proposeDownstream_agree h
  | buildRelease | buildPullRequest => exact coprBuild_agree h
  | checkDownstream => exact checkDownstream_agree h
  | syncFromDownstream => exact syncFromDownstream_agree h

end Handlers

lemma Event.classify_eq :
    ∃ f : Option Recognized → Job X (Option Classified), f none = pure none ∧
      ∀ e : Event, e.classify = Job.tell e.recognized >>= f := by
  refine ⟨_, ?_, fun _ => rfl⟩
  rfl

lemma Dispatcher.dispatch_eq_bind {d : Dispatcher X} {topic : Option String}
    (ht : ¬ d.drops topic = true) :
    ∃ g : Event → Option Classified → Job X Unit,
      (∀ e, d.dispatch e topic = e.classify >>= g e) ∧ (∀ e e', g e none = g e' none) ∧
        ∀ e c, g e (some c) = d.runJobs c e := by
  refine ⟨_, fun e => if_neg ht, ?_, ?_⟩
  · exact fun _ _ => rfl
  · exact fun _ _ => rfl

section Runs

variable {β : Type} {k : Collaborators X (StateM σ)} {s : σ}

lemma Program.runs_write (rs : List Log.Record) :
    (write rs : Program X Unit).Runs k s () (k, s) (records rs) := by
  induction rs with
  | nil => exact runs_done ()
  | cons r rs ih => exact ih.log r

lemma Job.runs_tell (x : Logged α) :
    (tell x : Job X α).run.Runs k s (.ok x.value) (k, s) (records x.log) := by
  have hx : (Program.ofLogged x : Program X α).Runs k s x.value (k, s) (records x.log ++ []) :=
    (Program.runs_write x.log).bind (f := fun _ => .done x.value) (Program.runs_done x.value)
  have hr : (tell x : Job X α).run.Runs k s (.ok x.value) (k, s) (records x.log ++ [] ++ []) :=
    hx.bind (Program.runs_done (Except.ok x.value))
  simpa using hr

lemma Job.runs_tell_bind {x : Logged α} {g : α → Job X β} {r : Except JobError β}
    {left : Collaborators X (StateM σ) × σ} {ss : List (Step X)}
    (h : (g x.value).run.Runs k s r left ss) :
    (tell x >>= g).run.Runs k s r left (records x.log ++ ss) := by
  rw [ExceptT.run_bind, Program.bind_eq]
  exact (runs_tell x).bind h

end Runs

def Step.isRecord : Step X → Bool
  | .logged _ => true
  | _ => false

lemma filter_records (rs : List Log.Record) :
    (records rs : List (Step X)).filter (fun st => !st.isRecord) = [] := by
  rw [List.filter_eq_nil_iff]
  intro st hst
  obtain ⟨rec, -, rfl⟩ := List.mem_map.mp hst
  simp [Step.isRecord]

namespace Turn

def exchanges (d : Dispatcher X) (t : Turn X σ) : List (Step X) :=
  (t.steps d).filter fun st => !st.isRecord

structure Matches (d : Dispatcher X) (t t' : Turn X σ) : Prop where
  result : t.result d = t'.result d
  left : t.left d = t'.left d
  exchanges : t.exchanges d = t'.exchanges d
  records : ∃ notes notes' rest, (∀ rec ∈ notes ++ notes', rec.part = .recognition) ∧
    t.steps d = records notes ++ rest ∧ t'.steps d = records notes' ++ rest

variable {d : Dispatcher X} {e e' : Event} {topic : Option String} {k : Collaborators X (StateM σ)}
  {s : σ}

lemma matches_of_steps {t t' : Turn X σ} {notes notes' : List Log.Record} {rest : List (Step X)}
    (hr : t.result d = t'.result d) (hl : t.left d = t'.left d)
    (hn : ∀ rec ∈ notes ++ notes', rec.part = .recognition)
    (hs : t.steps d = JobDispatch.records notes ++ rest)
    (hs' : t'.steps d = JobDispatch.records notes' ++ rest) : t.Matches d t' := by
  refine ⟨hr, hl, ?_, notes, notes', rest, hn, hs, hs'⟩
  rw [Turn.exchanges, Turn.exchanges, hs, hs', List.filter_append, List.filter_append,
    filter_records, filter_records]

lemma matches_of_resume {g g' : Option Recognized → Job X Unit}
    (he : d.dispatch e topic = Job.tell e.recognized >>= g)
    (he' : d.dispatch e' topic = Job.tell e'.recognized >>= g')
    (hg : g e.recognized.value = g' e'.recognized.value) :
    Turn.Matches d ⟨(e, topic), k, s⟩ ⟨(e', topic), k, s⟩ := by
  obtain ⟨r, left, rest, hr⟩ : ∃ r left rest, (g e.recognized.value).run.Runs k s r left rest :=
    ⟨_, _, _, (g e.recognized.value).run.runs_self k s⟩
  have h := Job.runs_tell_bind hr
  have h' := Job.runs_tell_bind (hg ▸ hr)
  rw [← he] at h
  rw [← he'] at h'
  refine matches_of_steps (h.value.trans h'.value.symm) (h.left.trans h'.left.symm) ?_ h.steps
    h'.steps
  intro rec hm
  rcases List.mem_append.mp hm with hm | hm
  · exact (e.noted_of_mem_recognized_log hm).1
  · exact (e'.noted_of_mem_recognized_log hm).1

lemma matches_of_runJobs (hv : e.recognized.value = e'.recognized.value)
    (hj : e.recognized.value ≠ none → ∀ c, d.runJobs c e = d.runJobs c e') :
    Turn.Matches d ⟨(e, topic), k, s⟩ ⟨(e', topic), k, s⟩ := by
  by_cases ht : d.drops topic = true
  · have hd : d.dispatch e topic = d.dispatch e' topic := by
      rw [Dispatcher.dispatch, Dispatcher.dispatch, if_pos ht, if_pos ht]
    have hs : Turn.steps d ⟨(e, topic), k, s⟩ = Turn.steps d ⟨(e', topic), k, s⟩ := by
      simp only [Turn.steps, hd]
    have hr : Turn.result d ⟨(e, topic), k, s⟩ = Turn.result d ⟨(e', topic), k, s⟩ := by
      simp only [Turn.result, Turn.outcome, hd]
    have hl : Turn.left d ⟨(e, topic), k, s⟩ = Turn.left d ⟨(e', topic), k, s⟩ := by
      simp only [Turn.left, Turn.outcome, hd]
    have hn : ∀ rec ∈ ([] ++ [] : List Log.Record), rec.part = .recognition := by simp
    exact matches_of_steps hr hl hn rfl hs.symm
  · obtain ⟨f, hf, hc⟩ := Event.classify_eq (X := X)
    obtain ⟨g, hg, hnone, hsome⟩ := Dispatcher.dispatch_eq_bind ht
    have hd : ∀ e : Event,
        d.dispatch e topic = Job.tell e.recognized >>= fun r? => f r? >>= g e := by
      intro e
      rw [hg, hc, bind_assoc]
    refine matches_of_resume (hd e) (hd e') ?_
    rw [← hv]
    cases hr : e.recognized.value with
    | none =>
      -- Nothing comes of an unrecognized event, so that the jobs are not looked at.
      rw [hf, pure_bind, pure_bind]
      exact hnone e e'
    | some r =>
      have hjobs : g e = g e' := by
        funext c?
        cases c? with
        | none => exact hnone e e'
        | some c => rw [hsome, hsome, hj (by simp [hr])]
      rw [hjobs]

end Turn

namespace Dispatcher

variable {d : Dispatcher X} {e e' : Event} {c : Classified}

lemma runAll_agree (hd : Registry.standard.value = .ok d.registry) (h : e.Agree e')
    (jobs : List JobConfig) : d.runAll c e jobs = d.runAll c e' jobs := by
  induction jobs with
  | nil => rfl
  | cons job jobs ih =>
    have hjob : d.runJob c e job = d.runJob c e' job := by
      rw [runJob_eq, runJob_eq]
      cases hf : d.registry.fate c.trigger job with
      | skip warning => rfl
      | run job' handler =>
        obtain ⟨rfl, hj, ht⟩ := Registry.fate_eq_run_iff.mp hf
        have hb := Registry.standard_builtin hd hj ht
        exact congrArg (Job.log _ >>= fun _ => ·) (hb.run_agree (c := d.context c e job') h)
    rw [runAll, runAll, hjob, ih]

lemma matches_of_agree (hd : Registry.standard.value = .ok d.registry) (h : e.Agree e')
    (topic : Option String) (k : Collaborators X (StateM σ)) (s : σ) :
    Turn.Matches d ⟨(e, topic), k, s⟩ ⟨(e', topic), k, s⟩ :=
  Turn.matches_of_runJobs h.recognized fun _ _ => runAll_agree hd h _

lemma turns_agree (hd : Registry.standard.value = .ok d.registry)
    {ms ms' : List (Event × Option String)}
    (hm : List.Forall₂ (fun m m' => m.1.Agree m'.1 ∧ m.2 = m'.2) ms ms')
    (k : Collaborators X (StateM σ)) (s : σ) :
    List.Forall₂ (Turn.Matches d) (d.turns ms k s) (d.turns ms' k s) ∧
      d.afterAll ms k s = d.afterAll ms' k s := by
  induction hm generalizing k s with
  | nil => exact ⟨.nil, rfl⟩
  | @cons m m' ms ms' h _ ih =>
    obtain ⟨e, topic⟩ := m
    obtain ⟨e', topic'⟩ := m'
    obtain ⟨h, rfl⟩ : e.Agree e' ∧ topic = topic' := h
    have ht := matches_of_agree hd h topic k s
    have hl : Turn.left d ⟨(e, topic), k, s⟩ = Turn.left d ⟨(e', topic), k, s⟩ := ht.left
    obtain ⟨hturns, hafter⟩ := ih (Turn.left d ⟨(e, topic), k, s⟩).1
      (Turn.left d ⟨(e, topic), k, s⟩).2
    have hcons : ∀ (m : Event × Option String) ms, d.turns (m :: ms) k s =
        ⟨m, k, s⟩ :: d.turns ms (Turn.left d ⟨m, k, s⟩).1 (Turn.left d ⟨m, k, s⟩).2 :=
      fun _ _ => rfl
    have hcons' : ∀ (m : Event × Option String) ms, d.afterAll (m :: ms) k s =
        d.afterAll ms (Turn.left d ⟨m, k, s⟩).1 (Turn.left d ⟨m, k, s⟩).2 :=
      fun _ _ => rfl
    rw [hcons, hcons, hcons', hcons', ← hl]
    exact ⟨.cons ht hturns, hafter⟩

/-- With the built-in handlers a dispatch reads these fields of a payload and no others. -/
theorem dispatch_reads (hd : Registry.standard.value = .ok d.registry) (topic : Option String)
    (k : Collaborators X (StateM σ)) (s : σ) :
    let turn (e : Event) : Turn X σ := ⟨(e, topic), k, s⟩
    (∀ e e', e.Agree e' → (turn e).Matches d (turn e')) ∧
      (∀ e e' f places,
        (∀ path ∈ ["number"] :: Event.textFields, ¬ places <+: path.map Json.Place.member) →
        Json.edit f places (some e.payload) = some e'.payload →
        (turn e).Matches d (turn e')) ∧
      (∀ e e', e.isEmpty = true → e'.isEmpty = false → e'.recognized.value = none →
        (turn e).Matches d (turn e')) ∧
      ∀ ms ms', List.Forall₂ (fun m m' => m.1.Agree m'.1 ∧ m.2 = m'.2) ms ms' →
        List.Forall₂ (Turn.Matches d) (d.turns ms k s) (d.turns ms' k s) ∧
          d.afterAll ms k s = d.afterAll ms' k s := by
  intro turn
  refine ⟨fun e e' h => matches_of_agree hd h topic k s, ?_, ?_,
    fun _ _ hm => turns_agree hd hm k s⟩
  · intro e e' f places hp he
    exact matches_of_agree hd (Event.agree_of_edit hp he) topic k s
  · intro e e' he _ hn
    have he : e.recognized.value = none := by simp [Event.recognized, he]
    exact Turn.matches_of_runJobs (he.trans hn.symm) fun h => absurd he h

def publishedByOwner : Event where
  payload := .object [
    ("action", .text "published"),
    ("release", .object [("tag_name", .text "v1.0")]),
    ("repository", .object [
      ("clone_url", .text "https://forge.example/acme/widget.git"),
      ("name", .text "widget"),
      ("owner", .object [("id", Json.ofNat 7), ("login", .text "acme")])])]

theorem dispatch_reads_publishedByOwner :
    let d : Dispatcher Extras.none := standard
    let k : Collaborators Extras.none (StateM Unit) := .granting builtAndProposed
    let places : List Json.Place := [.member "repository", .member "owner", .member "id"]
    Registry.standard.value = .ok d.registry ∧
      (∀ path ∈ ["number"] :: Event.textFields, ¬ places <+: path.map Json.Place.member) ∧
      Json.edit (fun _ => some (Json.ofNat 7)) places (some published.payload) =
        some publishedByOwner.payload ∧
      Turn.Matches d ⟨(published, none), k, ()⟩ ⟨(publishedByOwner, none), k, ()⟩ := by
  intro d k places
  have hd : Registry.standard.value = .ok d.registry := Registry.standard_value
  have hp : ∀ path ∈ ["number"] :: Event.textFields,
      ¬ places <+: path.map Json.Place.member := by decide +kernel
  have he : Json.edit (fun _ => some (Json.ofNat 7)) places (some published.payload) =
      some publishedByOwner.payload := by rfl
  obtain ⟨-, hedit, -, -⟩ := dispatch_reads hd none k ()
  exact ⟨hd, hp, he, hedit _ _ _ _ hp he⟩

end Dispatcher

end JobDispatch
