import JobDispatch.Proofs.Calls
import JobDispatch.Proofs.Leads
import JobDispatch.Proofs.Listener
import JobDispatch.Proofs.MissingField
import JobDispatch.Proofs.Replay

namespace JobDispatch

open EventStream

variable {X : Extras}

def Step.Comments : Step X → Prop
  | .askedForge _ (.comment ..) _ _ => True
  | _ => False

def JobConfig.HasTarget (job : JobConfig) (target : String) : Prop :=
  target ≠ "" ∧ (job.metadata.lookup "targets" = some (.text target) ∨
    ∃ items, job.metadata.lookup "targets" = some (.array items) ∧ .text target ∈ items)

lemma Json.asText?_eq_some_iff {v : Json} {s : String} : v.asText? = some s ↔ v = .text s := by
  cases v <;> simp [asText?]

lemma JobConfig.mem_texts_iff {job : JobConfig} {target : String} :
    target ∈ job.texts "targets" ↔ job.HasTarget target := by
  rw [texts, HasTarget]
  cases job.metadata.lookup "targets" with
  | none => simp
  | some v =>
    cases v with
    | text s =>
      simp only [Option.some.injEq, Json.text.injEq, reduceCtorEq, false_and, exists_false,
        or_false]
      split_ifs with hs
      · have hs : s = "" := String.isEmpty_iff.mp hs
        constructor
        · exact nofun
        · rintro ⟨hne, rfl⟩
          exact absurd hs hne
      · have hs : s ≠ "" := fun h => hs (String.isEmpty_iff.mpr h)
        rw [List.mem_singleton]
        constructor
        · rintro rfl
          exact ⟨hs, rfl⟩
        · rintro ⟨-, rfl⟩
          rfl
    | array items => simp [Json.asText?_eq_some_iff, and_comm]
    | _ => simp

namespace Replay

variable (files : Files Id) (configDir : String)

inductive JobFails (e : Event) (r : Recognized) (package : PackageConfig) (job : JobConfig) : Prop
  | untagged : r.trigger = .release → job.job = .coprBuild → JobFails e r package job
  | missing {path : List String} : r.trigger = .pullRequest → job.job = .coprBuild →
      path ∈ Handler.pullRequestFields → (¬ ∃ s, e.HasText path s) → JobFails e r package job
  | untargeted : r.trigger = .pullRequest → job.job = .coprBuild →
      (¬ ∃ target, job.HasTarget target) → JobFails e r package job
  | sourceless : r.trigger = .commit → job.job = .syncFromDownstream →
      (¬ ∃ address source, SourceAt files configDir package r.project address ∧
        Address.ownerAndRepo? address = some source) → JobFails e r package job
  | upstreamless : r.trigger = .commit → job.job = .syncFromDownstream →
      ¬ Opens files configDir .upstream → JobFails e r package job

inductive Fails (e : Event) (r : Recognized) : Prop
  | unopened : ¬ Opens files configDir r.side → Fails e r
  | unconfigured : (∀ package, ¬ Holds files configDir r.side r.project package) → Fails e r
  | job {package : PackageConfig} {job : JobConfig} :
      Holds files configDir r.side r.project package → job ∈ package.jobs →
      job.trigger = r.trigger → JobFails files configDir e r package job → Fails e r

section Handlers

open Job Handler

variable {files configDir} {c : Context} {E : Prop}

abbrev Recorded (t : Trigger) (st : Step X) : Prop := st.Comments → t = .pullRequest

lemma leads_requireText {A : Answers} {P : Step X → Prop} {path : List String} {Q : String → Prop}
    (hE : (¬ ∃ s, c.event.HasText path s) → E) (h : ∀ s, c.event.HasText path s → Q s) :
    (c.requireText path : Job X String).Leads A P E Q := by
  by_cases hs : ∃ s, c.event.HasText path s
  · obtain ⟨s, hs⟩ := hs
    rw [Context.requireText_of_hasText hs]
    exact leads_pure (h s hs)
  · rw [Context.requireText_of_missing hs]
    exact leads_fail (hE hs)

lemma leads_record {A : Answers} {t : Trigger} {rec : Log.Record} {Q : Unit → Prop} (h : Q ()) :
    (log rec : Job X Unit).Leads A (Recorded t) E Q :=
  leads_log (fun hc => False.elim hc) h

lemma leads_submit {t : Trigger} {committish cloneUrl : String} {Q : CoprBuild → Prop}
    (hE : (¬ ∃ target, c.job.HasTarget target) → E)
    (h : ∀ build, (∃ target, c.job.HasTarget target) → Q build) :
    (submit c committish cloneUrl : Job X CoprBuild).Leads (answers files configDir)
      (Recorded t) E Q := by
  apply iteInduction (motive := fun j => Job.Leads _ _ E j Q)
  · intro ht
    refine leads_fail (hE ?_)
    rintro ⟨target, hm⟩
    rw [List.isEmpty_iff] at ht
    simp [← JobConfig.mem_texts_iff, ht] at hm
  · intro ht
    obtain ⟨target, hm⟩ := List.exists_mem_of_ne_nil _ (fun h => ht (List.isEmpty_iff.mpr h))
    refine .bind (leads_record (.bind (leads_askPackaging ?_ ?_ fun build _ => ?_)))
    · exact fun _ _ hc => False.elim hc
    · rintro err ⟨a, ha⟩
      cases ha
    · exact .bind (leads_record (leads_pure (h build ⟨target, JobConfig.mem_texts_iff.mp hm⟩)))

lemma leads_requireNatural {A : Answers} {P : Step X → Prop} {path : List String}
    {Q : UInt64 → Prop} {n : UInt64}
    (hn : c.event.payload.at? path = some (.number (.natural n))) (h : Q n) :
    (c.requireNatural path : Job X UInt64).Leads A P E Q := by
  rw [Context.requireNatural_of_natural hn]
  exact leads_pure h

lemma leads_proposeDownstream {tag : String} (ht : c.event.HasText ["release", "tag_name"] tag) :
    ((proposeDownstream : Handler X).run c).Leads (answers files configDir) (Recorded c.trigger)
      False fun _ => True := by
  refine .bind (leads_requireText (fun h => h ⟨tag, ht⟩) fun version _ => ?_)
  refine .bind (leads_record ?_)
  refine leads_askPackaging (fun _ _ hc => False.elim hc) ?_ fun _ _ => trivial
  rintro err ⟨a, ha⟩
  cases ha

lemma leads_checkDownstream {n : UInt64}
    (hn : c.event.payload.at? ["number"] = some (.number (.natural n))) :
    ((checkDownstream : Handler X).run c).Leads (answers files configDir) (Recorded c.trigger)
      False fun _ => True := by
  refine .bind (leads_requireNatural hn (.bind (leads_record ?_)))
  refine leads_askPackaging (fun _ _ hc => False.elim hc) ?_ fun _ _ => trivial
  rintro err ⟨a, ha⟩
  cases ha

lemma leads_buildRelease :
    (buildRelease c : Job X Unit).Leads (answers files configDir) (Recorded c.trigger)
      True fun _ => False := by
  have hr : ∀ outcome log, Recorded c.trigger (.attempted .upstream outcome log : Step X) :=
    fun _ _ hc => False.elim hc
  rw [buildRelease_eq]
  refine .bind (leads_requireText (fun _ => trivial) fun cloneUrl _ => ?_)
  refine .bind (leads_requireText (fun _ => trivial) fun tag _ => ?_)
  refine .bind (leads_reach hr (fun _ _ => trivial) fun _ _ => ?_)
  refine .bind (leads_submit (fun _ => trivial) fun build _ => ?_)
  refine .bind (leads_askForge hr (fun _ _ hc => False.elim hc) (fun _ _ => trivial) ?_)
  rintro sha ⟨err, h⟩
  cases h

lemma leads_buildPullRequest {n : UInt64}
    (hn : c.event.payload.at? ["number"] = some (.number (.natural n)))
    (ht : c.trigger = .pullRequest) (ho : Opens files configDir .upstream)
    (hE : E ↔ (∃ path ∈ pullRequestFields, ¬ ∃ s, c.event.HasText path s) ∨
      ¬ ∃ target, c.job.HasTarget target) :
    (buildPullRequest c : Job X Unit).Leads (answers files configDir) (Recorded c.trigger)
      E fun _ => ¬ E := by
  have hr : ∀ outcome log, Recorded c.trigger (.attempted .upstream outcome log : Step X) :=
    fun _ _ hc => False.elim hc
  have hm : ∀ path ∈ pullRequestFields, (¬ ∃ s, c.event.HasText path s) → E :=
    fun path hp hs => hE.mpr (.inl ⟨path, hp, hs⟩)
  rw [buildPullRequest_eq]
  refine .bind (leads_requireText (hm _ (by simp [pullRequestFields])) fun cloneUrl h₁ => ?_)
  refine .bind (leads_requireText (hm _ (by simp [pullRequestFields])) fun sha h₂ => ?_)
  refine .bind (leads_requireNatural hn ?_)
  refine .bind (leads_requireText (hm _ (by simp [pullRequestFields])) fun owner h₃ => ?_)
  refine .bind (leads_requireText (hm _ (by simp [pullRequestFields])) fun repo h₄ => ?_)
  refine .bind (leads_reach hr (fun _ h => absurd ho h) fun kind _ => ?_)
  refine .bind (leads_submit (fun h => hE.mpr (.inr h)) fun build htarget => ?_)
  refine .bind (leads_record ?_)
  refine leads_askForge hr (fun _ _ _ => ht) ?_ fun _ _ => ?_
  · rintro err (h | h)
    · exact absurd ho h
    · cases h
  · rw [hE]
    rintro (⟨path, hp, hs⟩ | hs)
    · simp only [pullRequestFields, List.mem_cons, List.not_mem_nil, or_false] at hp
      rcases hp with rfl | rfl | rfl | rfl
      · exact hs ⟨_, h₁⟩
      · exact hs ⟨_, h₂⟩
      · exact hs ⟨_, h₃⟩
      · exact hs ⟨_, h₄⟩
    · exact hs htarget

lemma leads_sourceOf {A : Answers} {P : Step X → Prop} {url : Option String}
    {Q : String × String → Prop}
    (hE : (¬ ∃ address source, url = some address ∧
      Address.ownerAndRepo? address = some source) → E)
    (h : ∀ address source, url = some address → Address.ownerAndRepo? address = some source →
      Q source) : (sourceOf url : Job X (String × String)).Leads A P E Q := by
  cases url with
  | none => exact leads_fail (hE (by simp))
  | some address =>
    rw [sourceOf]
    cases hs : Address.ownerAndRepo? address with
    | none => exact leads_fail (hE (by simp [hs]))
    | some source => exact leads_pure (h address source rfl hs)

lemma leads_syncFromDownstream {branch : String}
    (hb : c.event.HasText ["msg", "commit", "branch"] branch)
    (hE : E ↔ (¬ ∃ address source, SourceAt files configDir c.package c.project address ∧
        Address.ownerAndRepo? address = some source) ∨ ¬ Opens files configDir .upstream) :
    ((syncFromDownstream : Handler X).run c).Leads (answers files configDir) (Recorded c.trigger)
      E fun _ => ¬ E := by
  refine .bind (leads_requireText (fun h => absurd ⟨branch, hb⟩ h) fun branch _ => ?_)
  refine .bind (leads_askPackaging (fun _ _ hc => False.elim hc) ?_ fun url hurl => ?_)
  · intro err herr
    refine hE.mpr (.inl ?_)
    rintro ⟨address, source, hs, -⟩
    cases (herr address).mpr hs
  refine .bind (leads_sourceOf ?_ fun address source hu hs => ?_)
  · intro hn
    refine hE.mpr (.inl ?_)
    rintro ⟨address, source, ha, hs⟩
    exact hn ⟨address, source, Except.ok.inj ((hurl address).mpr ha), hs⟩
  refine .bind (leads_reach (fun _ _ hc => False.elim hc) (fun _ ho => hE.mpr (.inr ho)) ?_)
  rintro kind ⟨-, ho⟩
  refine .bind (leads_record ?_)
  refine leads_askPackaging (fun _ _ hc => False.elim hc) ?_ fun _ _ => ?_
  · rintro err ⟨a, ha⟩
    cases ha
  · rw [hE]
    rintro (hn | hn)
    · exact hn ⟨address, source, (hurl address).mp (by rw [hu]), hs⟩
    · exact hn ho

lemma leads_builtin {d : Dispatcher X} {e : Event} {r : Recognized} {package : PackageConfig}
    {job : JobConfig} {h : Handler X} (hb : Builtin r.trigger job.job h) (hr : e.Describes r)
    (ho : Opens files configDir r.side) :
    (h.run (d.context (r.classified r.side package) e job)).Leads (answers files configDir)
      (Recorded r.trigger) (JobFails files configDir e r package job)
      fun _ => ¬ JobFails files configDir e r package job := by
  generalize hj : job.job = j at hb
  cases hr with
  | release hr _ =>
    have hb : Builtin .release j h := hb
    cases hb with
    | proposeDownstream =>
      refine (leads_proposeDownstream hr.tag).imp False.elim fun _ _ hf => ?_
      cases hf with
      | untagged _ h => simp [hj] at h
      | missing h | untargeted h | sourceless h | upstreamless h => cases h
    | buildRelease =>
      exact leads_buildRelease.imp (fun _ => .untagged rfl hj) fun _ h => False.elim h
  | pullRequest hr _ =>
    have hb : Builtin .pullRequest j h := hb
    cases hb with
    | checkDownstream =>
      refine (leads_checkDownstream hr.number).imp False.elim fun _ _ hf => ?_
      cases hf with
      | missing _ h | untargeted _ h => simp [hj] at h
      | untagged h | sourceless h | upstreamless h => cases h
    | buildPullRequest =>
      refine leads_buildPullRequest hr.number rfl ho ⟨fun hf => ?_, ?_⟩
      · cases hf with
        | missing _ _ hm hs => exact .inl ⟨_, hm, hs⟩
        | untargeted _ _ h => exact .inr h
        | untagged h | sourceless h | upstreamless h => cases h
      · rintro (⟨path, hm, hs⟩ | h)
        · exact .missing rfl hj hm hs
        · exact .untargeted rfl hj h
  | distGitCommit hr _ _ =>
    have hb : Builtin .commit j h := hb
    cases hb with
    | syncFromDownstream =>
      refine leads_syncFromDownstream hr.branch ⟨fun hf => ?_, ?_⟩
      · cases hf with
        | sourceless _ _ h => exact .inl h
        | upstreamless _ _ h => exact .inr h
        | untagged h | missing h | untargeted h => cases h
      · rintro (h | h)
        · exact .sourceless rfl hj h
        · exact .upstreamless rfl hj h

end Handlers

section Dispatch

variable {files configDir} {d : Dispatcher X} {e : Event} {r : Recognized} {package : PackageConfig}

lemma JobFails.served {job : JobConfig} (h : JobFails files configDir e r package job) :
    ∃ handler : Handler X, Registry.builtin? job.job = some handler ∧
      r.trigger ∈ handler.triggers := by
  cases h with
  | untagged ht hj | missing ht hj | untargeted ht hj | sourceless ht hj | upstreamless ht hj =>
    rw [ht, hj]
    exact ⟨_, rfl, by simp [Handler.coprBuild, Handler.syncFromDownstream]⟩

lemma not_comments_records {rs : List Log.Record} : ∀ st ∈ (records rs : List (Step X)),
    ¬ st.Comments := by
  intro st hst
  obtain ⟨rec, -, rfl⟩ := List.mem_map.mp hst
  exact id

lemma not_comments_reaches {κ κ' : Contacts} {side : Side} {rs : List (Step X)}
    {x : Except ForgeError Side} (h : Reaches κ side rs x κ') : ∀ st ∈ rs, ¬ st.Comments := by
  intro st hst
  obtain ⟨outcome, log, rfl⟩ := h.attempted hst
  exact id

lemma classification {κ κ' : Contacts} {ss : List (Step X)}
    {x : Except JobError (Option Classified)} (h : e.Classification κ ss x κ')
    (hκ : (answers files configDir).Known κ) (hs : ∀ st ∈ ss, (answers files configDir).Allow st) :
    (∀ st ∈ ss, ¬ st.Comments) ∧ (answers files configDir).Known κ' ∧
      match x with
      | .error _ => ∃ r, e.recognized.value = some r ∧ (¬ Opens files configDir r.side ∨
          ∀ package, ¬ Holds files configDir r.side r.project package)
      | .ok none => e.recognized.value = none
      | .ok (some c) => ∃ r package, e.recognized.value = some r ∧
          c = r.classified r.side package ∧ Opens files configDir r.side ∧
          ∀ other, Holds files configDir r.side r.project other ↔ other = package := by
  cases h with
  | unrecognized hr => exact ⟨not_comments_records, hκ, hr⟩
  | @unreached r rs err κ₁ hr hx =>
    obtain ⟨-, hrs⟩ := List.forall_mem_append.mp hs
    refine ⟨List.forall_mem_append.mpr ⟨not_comments_records, not_comments_reaches hx⟩,
      hx.known hκ hrs, r, hr, .inl ?_⟩
    exact hx.allowed (hκ r.side) hrs
  | @unfetched r rs kind err log κ₁ hr hx =>
    obtain ⟨hrs, hask⟩ := List.forall_mem_append.mp hs
    obtain ⟨-, hrs⟩ := List.forall_mem_append.mp hrs
    obtain ⟨rfl, -⟩ := hx.allowed (hκ r.side) hrs
    have hf : ∀ package, (.error err : Except ForgeError PackageConfig) = .ok package ↔
        Holds files configDir r.side r.project package := hask _ (List.mem_singleton_self _)
    refine ⟨List.forall_mem_append.mpr ⟨List.forall_mem_append.mpr ⟨not_comments_records,
      not_comments_reaches hx⟩, List.forall_mem_singleton.mpr id⟩, hx.known hκ hrs, r, hr, .inr ?_⟩
    intro package hp
    cases (hf package).mpr hp
  | @classified r rs kind package log notes κ₁ hr hx =>
    obtain ⟨hrs, hask⟩ := List.forall_mem_append.mp hs
    obtain ⟨-, hrs⟩ := List.forall_mem_append.mp hrs
    obtain ⟨rfl, ho⟩ := hx.allowed (hκ r.side) hrs
    have hf : ∀ other, (.ok package : Except ForgeError PackageConfig) = .ok other ↔
        Holds files configDir r.side r.project other := hask _ (List.mem_cons_self ..)
    refine ⟨List.forall_mem_append.mpr ⟨List.forall_mem_append.mpr ⟨not_comments_records,
      not_comments_reaches hx⟩, List.forall_mem_cons.mpr ⟨id, not_comments_records⟩⟩,
      hx.known hκ hrs, r, package, hr, rfl, ho, fun other => ?_⟩
    rw [← hf other, Except.ok.injEq, eq_comm]

inductive Ends (files : Files Id) (configDir : String) (d : Dispatcher X) (e : Event)
    (topic : Option String) : List (Step X) → Except JobError Unit → Prop
  | passed {ss : List (Step X)} : d.drops topic = true ∨ e.recognized.value = none →
      Ends files configDir d e topic ss (.ok ())
  | barred {r : Recognized} {ss : List (Step X)} (err : JobError) : d.drops topic = false →
      e.recognized.value = some r →
      (¬ Opens files configDir r.side ∨
        ∀ package, ¬ Holds files configDir r.side r.project package) →
      Ends files configDir d e topic ss (.error err)
  | served {r : Recognized} {package : PackageConfig} {ss : List (Step X)} :
      d.drops topic = false → e.recognized.value = some r → Opens files configDir r.side →
      (∀ other, Holds files configDir r.side r.project other ↔ other = package) →
      (∀ job ∈ d.eligible r package, ¬ JobFails files configDir e r package job) →
      Ends files configDir d e topic ss (.ok ())
  | stopped {r : Recognized} {package : PackageConfig} {ss : List (Step X)} (err : JobError) :
      d.drops topic = false → e.recognized.value = some r → Opens files configDir r.side →
      (∀ other, Holds files configDir r.side r.project other ↔ other = package) →
      Dispatcher.StopsAtFirst (r.classified r.side package) (JobFails files configDir e r package)
        (d.eligible r package) ss →
      Ends files configDir d e topic ss (.error err)

lemma ends_of_path {topic : Option String} {κ κ' : Contacts} {ss : List (Step X)}
    {res : Except JobError Unit} (hd : Registry.standard.value = .ok d.registry)
    (h : d.DispatchPath e topic κ ss res κ') (hκ : (answers files configDir).Known κ)
    (hs : ∀ st ∈ ss, (answers files configDir).Allow st) :
    Ends files configDir d e topic ss res ∧
      ∀ st ∈ ss, st.Comments → ∃ r, e.recognized.value = some r ∧ r.trigger = .pullRequest := by
  cases h with
  | dropped note ht =>
    exact ⟨.passed (.inl ht), fun st hst hc => absurd hc (not_comments_records st hst)⟩
  | unrecognized note ht hr =>
    exact ⟨.passed (.inr hr), fun st hst hc => absurd hc (not_comments_records st hst)⟩
  | unclassified ht hc =>
    obtain ⟨hcomments, -, r, hr, hf⟩ := classification hc hκ hs
    exact ⟨.barred _ ht hr hf, fun st hst hc => absurd hc (hcomments st hst)⟩
  | @classified c ss₁ ss₂ _ κ₁ _ ht hc hp =>
    obtain ⟨hs₁, hs₂⟩ := List.forall_mem_append.mp hs
    obtain ⟨hcomments, hκ₁, r, package, hr, rfl, ho, hpackage⟩ := classification hc hκ hs₁
    have helig : (d.registry.plan r.trigger (r.located package).jobs).filterMap Fate.job? =
        d.eligible r package := by
      rw [Registry.jobs_plan, Recognized.located_jobs]
      rfl
    have hrun : ∀ job h, .run job h ∈ d.registry.plan r.trigger (r.located package).jobs →
        Builtin r.trigger job.job h := by
      intro job h hm
      obtain ⟨-, -, hj, ht⟩ := Registry.mem_plan_run_iff.mp hm
      exact Registry.standard_builtin hd hj ht
    obtain ⟨hsteps, hend⟩ := hp.leads hκ₁ hs₂ (fun rec hc => False.elim hc) fun job h hm =>
      ⟨leads_builtin (hrun job h hm) ((e.recognized_eq_some_iff r).mp hr) ho,
        (Builtin.takes (c := d.context (r.classified r.side package) e job) (hrun job h hm)).imp
          fun st hst c other hx => (hx ▸ hst).of_logged.2 rfl⟩
    refine ⟨?_, fun st hst hc => ?_⟩
    · rcases hend with ⟨rfl, hn⟩ | ⟨⟨err, rfl⟩, hstop⟩
      · exact .served ht hr ho hpackage (helig ▸ hn)
      · exact .stopped err ht hr ho hpackage (helig ▸ hstop.append_left ss₁)
    · rcases List.mem_append.mp hst with hst | hst
      · exact absurd hc (hcomments st hst)
      · exact ⟨r, hr, hsteps st hst hc⟩

lemma mem_eligible_iff (hd : Registry.standard.value = .ok d.registry) {r : Recognized}
    {package : PackageConfig} {job : JobConfig} (hf : JobFails files configDir e r package job) :
    job ∈ d.eligible r package ↔ job ∈ package.jobs ∧ job.trigger = r.trigger := by
  obtain ⟨h, hj, ht⟩ := hf.served (X := X)
  have hreg : d.registry.handler? job.job = some h := by
    rw [← Except.ok.inj (Registry.standard_value.symm.trans hd)]
    exact hj
  simp only [Dispatcher.eligible, List.mem_filter, Registry.serves, decide_eq_true_eq]
  constructor
  · rintro ⟨hm, hjt, -⟩
    exact ⟨hm, hjt⟩
  · rintro ⟨hm, hjt⟩
    exact ⟨hm, hjt, h, hreg, ht⟩

namespace Ends

variable {topic : Option String} {ss : List (Step X)} {res : Except JobError Unit} {r : Recognized}

lemma error_iff (h : Ends files configDir d e topic ss res)
    (hd : Registry.standard.value = .ok d.registry) :
    (∃ err, res = .error err) ↔ d.drops topic = false ∧
      ∃ r, e.recognized.value = some r ∧ Fails files configDir e r := by
  cases h with
  | passed h =>
    refine ⟨nofun, ?_⟩
    rintro ⟨ht, r, hr, -⟩
    rcases h with h | h
    · simp [ht] at h
    · simp [hr] at h
  | barred err ht hr h =>
    exact ⟨fun _ => ⟨ht, _, hr, h.elim .unopened .unconfigured⟩, fun _ => ⟨err, rfl⟩⟩
  | @served r package _ ht hr ho hpackage hn =>
    refine ⟨nofun, ?_⟩
    rintro ⟨-, r', hr', hf⟩
    obtain rfl := Option.some.inj (hr.symm.trans hr')
    cases hf with
    | unopened h => exact absurd ho h
    | unconfigured h => exact absurd ((hpackage package).mpr rfl) (h package)
    | @job other job h hm hjt hf =>
      obtain rfl := (hpackage other).mp h
      exact absurd hf (hn job ((mem_eligible_iff hd hf).mpr ⟨hm, hjt⟩))
  | @stopped r package _ err ht hr ho hpackage hstop =>
    refine ⟨fun _ => ⟨ht, r, hr, ?_⟩, fun _ => ⟨err, rfl⟩⟩
    obtain ⟨job, hm, hf⟩ := hstop.exists_mem
    obtain ⟨hm, hjt⟩ := (mem_eligible_iff hd hf).mp hm
    exact .job ((hpackage package).mpr rfl) hm hjt hf

lemma stopsAtFirst (h : Ends files configDir d e topic ss res)
    (hd : Registry.standard.value = .ok d.registry) (ht : d.drops topic = false)
    (hr : e.recognized.value = some r) (ho : Opens files configDir r.side) {package : PackageConfig}
    (hp : Holds files configDir r.side r.project package) {job : JobConfig}
    (hm : job ∈ package.jobs) (hjt : job.trigger = r.trigger)
    (hf : JobFails files configDir e r package job) :
    Dispatcher.StopsAtFirst (r.classified r.side package) (JobFails files configDir e r package)
      (d.eligible r package) ss := by
  cases h with
  | passed h =>
    rcases h with h | h
    · simp [ht] at h
    · simp [hr] at h
  | barred err _ hr' h =>
    obtain rfl := Option.some.inj (hr.symm.trans hr')
    exact absurd hp (h.resolve_left (not_not_intro ho) package)
  | served _ hr' _ hpackage hn =>
    obtain rfl := Option.some.inj (hr.symm.trans hr')
    obtain rfl := (hpackage package).mp hp
    exact absurd hf (hn job ((mem_eligible_iff hd hf).mpr ⟨hm, hjt⟩))
  | stopped err _ hr' _ hpackage hstop =>
    obtain rfl := Option.some.inj (hr.symm.trans hr')
    obtain rfl := (hpackage package).mp hp
    exact hstop

end Ends

end Dispatch

theorem replay_fails_iff (files : Files Id) (configDir upstreamBranch : String)
    (earlier later : List Delivery) (i : Inbound) :
    ∃ d, (dispatcher upstreamBranch).value = .ok d ∧
      let now := (Listener.feed d {} earlier).run (collaborators files configDir) firstBuild
      let o := (d.dispatch i.event i.topic).run.run now.1.collaborators now.2
      let steps := (d.dispatch i.event i.topic).run.steps now.1.collaborators now.2
      Listener.run d (earlier ++ .event i :: later) = (Listener.feed d {} earlier).bind (fun
        | .ok s => (Listener.process d s i).bind fun s => Listener.runFrom d s later
        | .error e => .done (.error e)) ∧
      o.1.transcript = steps.flatMap Step.entries ∧
      ((∃ err, o.1.value = .error err) ↔ d.drops i.topic = false ∧
        ∃ r, i.event.recognized.value = some r ∧ Fails files configDir i.event r) ∧
      (∀ r package job, d.drops i.topic = false → i.event.recognized.value = some r →
        Opens files configDir r.side → Holds files configDir r.side r.project package →
        job ∈ package.jobs → job.trigger = r.trigger →
        JobFails files configDir i.event r package job →
        Dispatcher.StopsAtFirst (r.classified r.side package)
          (JobFails files configDir i.event r package) (d.eligible r package) steps) ∧
      ∀ st ∈ steps, st.Comments →
        ∃ r, i.event.recognized.value = some r ∧ r.trigger = .pullRequest := by
  let d : Dispatcher Extras.none := ⟨⟨upstreamBranch⟩, ⟨Registry.builtin?⟩⟩
  have hd : Registry.standard.value = .ok d.registry := Registry.standard_value
  refine ⟨d, by simp only [dispatcher, hd]; rfl, ?_⟩
  intro now o steps
  -- Of the deliveries before, only what they have connected is left, and the files answer for that.
  have hk : now.1.collaborators.Keep (answers files configDir) :=
    ((Listener.feed d {} earlier).steps_allowed (keep_answers files configDir) firstBuild).2
  obtain ⟨hp, ht⟩ := (d.dispatch i.event i.topic).run.run_path now.1.collaborators now.2
  obtain ⟨hs, -⟩ := (d.dispatch i.event i.topic).run.steps_allowed hk now.2
  obtain ⟨hends, hcomments⟩ :=
    ends_of_path hd (Dispatcher.path_dispatch hp) (fun _ _ => hk.contact) hs
  refine ⟨Listener.run_split d earlier later i, ht, hends.error_iff hd, ?_, hcomments⟩
  intro r package job hdrop hr ho hp hm hjt hf
  exact hends.stopsAtFirst hd hdrop hr ho hp hm hjt hf

end Replay

end JobDispatch
