import JobDispatch.Proofs.BuildReport
import JobDispatch.Proofs.Numbering
import JobDispatch.Proofs.Tally
import JobDispatch.Proofs.Trail

/-! What is noted of builds. Each build that is asked for takes the next number and is noted with
it, whatever comes after, and a comment on a pull request is noted right after the build that it
reports. -/

namespace JobDispatch

open Log.Record

variable {X : Extras} {σ α : Type}

namespace Log.Record

def isBuildNote (r : Log.Record) : Bool :=
  r.part = .offline ∧ r.message = "Recorded copr build"

def isCommentNote (r : Log.Record) : Bool :=
  r.part = .offline ∧ r.message = "Comment recorded"

def isNote (r : Log.Record) : Bool := r.isBuildNote || r.isCommentNote

end Log.Record

namespace Step

def marks : Step X → List Log.Record
  | .logged _ | .acted .. => []
  | .attempted _ _ log | .askedForge _ _ _ log | .askedPackaging _ _ log => log.filter isNote

def request? : Step X → Option CoprBuildRequest
  | .askedPackaging (.build _ _ request) _ _ => some request
  | _ => none

def Apart : Step X → Prop
  | .logged r => r.part ≠ .offline
  | _ => True

def Unmarked : Step X → Prop
  | .askedForge _ (.comment ..) _ _ | .askedPackaging (.build ..) _ _ => False
  | _ => True

/-- A step of a replay, before which the next build has the number `n`, and after which it has the
number `n'`. -/
def Numbers (n : UInt64) : Step X → UInt64 → Prop
  | .askedPackaging (.build _ p request) answer log, n' =>
    answer = .ok (Recorder.buildOf n request) ∧ log = [Recorder.buildNote p request n] ∧ n' = n + 1
  | .askedForge side (.comment p target body) answer log, n' =>
    answer = .ok () ∧ log = [ConfigForge.commentNote side p target body] ∧ n' = n
  | .askedForge _ (.taggedCommit ..) answer log, n' =>
    (∃ err, answer = .error err) ∧ log.filter isNote = [] ∧ n' = n
  | st, n' => st.marks = [] ∧ n' = n

lemma Numbers.of_unmarked {n n' : UInt64} {st : Step X} (h : st.Numbers n n') (hu : st.Unmarked) :
    st.marks = [] ∧ st.request? = none ∧ n' = n := by
  cases st with
  | logged r | attempted side outcome log | acted a answer => exact ⟨h.1, rfl, h.2⟩
  | askedForge side call answer log =>
    cases call with
    | packageConfig p ref => exact ⟨h.1, rfl, h.2⟩
    | taggedCommit p tag => exact ⟨h.2.1, rfl, h.2.2⟩
    | comment p target body => exact absurd hu id
  | askedPackaging call answer log =>
    cases call with
    | build package p request => exact absurd hu id
    | sourceUrl | carryBack | checkPullRequest | proposeRelease => exact ⟨h.1, rfl, h.2⟩

end Step

structure Work where
  context : Context
  source : BuildSource
  request : CoprBuildRequest

namespace Work

def buildNote (n : UInt64) (x : Work) : Log.Record :=
  Recorder.buildNote x.context.project x.request n

structure NotedBy (x : Work) (n : UInt64) (rec : Log.Record) : Prop where
  isBuildNote : rec.isBuildNote = true
  project : rec.fields.lookup "project" =
    some (x.context.project.owner ++ "/" ++ x.context.project.repo)
  owner : rec.fields.lookup "owner" = some x.request.owner
  coprProject : rec.fields.lookup "copr_project" = some x.request.project
  committish : rec.fields.lookup "committish" = some x.request.committish
  number : rec.fields.lookup "build_id" = some (toString n)

lemma notedBy_buildNote (n : UInt64) (x : Work) : x.NotedBy n (x.buildNote n) :=
  ⟨rfl, rfl, rfl, rfl, rfl, rfl⟩

structure ReportedBy (x : Work) (n : UInt64) (rec : Log.Record) : Prop where
  source : ∃ cloneUrl sha number owner repo,
    x.source = .pullRequest cloneUrl sha number owner repo ∧
      rec.fields.lookup "project" = some (owner ++ "/" ++ repo) ∧
      rec.fields.lookup "target" =
        some ("PullRequest(PullRequestNumber(" ++ toString number ++ "))")
  body : rec.fields.lookup "body" = some ("Triggered copr build (ID:" ++ toString n ++
    ").\nMore info: " ++ ("offline://copr/" ++ x.request.owner ++ "/" ++ x.request.project ++
      "/build/" ++ toString n))

def comments (n : UInt64) (x : Work) : List Log.Record :=
  match x.source with
  | .release .. => []
  | .pullRequest _ _ number owner repo =>
    [ConfigForge.commentNote .upstream ⟨owner, repo, .upstream⟩ (.pullRequest number)
      (Handler.pullRequestComment (Recorder.buildOf n x.request))]

lemma reportedBy_of_mem_comments {n : UInt64} {x : Work} {rec : Log.Record}
    (h : rec ∈ x.comments n) : x.ReportedBy n rec := by
  cases hs : x.source with
  | release cloneUrl tag => simp [comments, hs] at h
  | pullRequest cloneUrl sha number owner repo =>
    simp only [comments, hs] at h
    obtain rfl := List.mem_singleton.mp h
    exact ⟨⟨_, _, _, _, _, hs, rfl, rfl⟩, rfl⟩

def notes (n : UInt64) (x : Work) : List Log.Record := x.buildNote n :: x.comments n

def Asked (x : Work) : Prop :=
  x.context.Sourced x.source ∧ x.context.Requests x.source x.request

end Work

/-- The steps ask for these builds, which are numbered from `n` on, and note each as it comes. -/
structure Works (n : UInt64) (ss : List (Step X)) (xs : List Work) (n' : UInt64) : Prop where
  marks : ss.flatMap Step.marks = (numbered Work.notes n xs).flatten
  requests : ss.filterMap Step.request? = xs.map Work.request
  next : n' = n + .ofNat xs.length

def Covers (jobs : List JobConfig) (xs : List Work) (r : Except JobError Unit) : Prop :=
  let builds := jobs.filter fun job => job.job = .coprBuild
  xs.map (fun x => x.context.job) <+: builds ∧
    (r = .ok () → xs.map (fun x => x.context.job) = builds)

namespace Works

variable {n n₁ n' : UInt64} {ss ss' : List (Step X)} {xs ys : List Work}

lemma append (h : Works n ss xs n₁) (h' : Works n₁ ss' ys n') :
    Works n (ss ++ ss') (xs ++ ys) n' := by
  obtain ⟨hm, hr, rfl⟩ := h
  obtain ⟨hm', hr', rfl⟩ := h'
  refine ⟨?_, ?_, ?_⟩
  · rw [List.flatMap_append, hm, hm', numbered_append, List.flatten_append]
  · rw [List.filterMap_append, hr, hr', List.map_append]
  · rw [List.length_append, UInt64.ofNat_add, UInt64.add_assoc]

lemma of_unmarked (h : Trail Step.Numbers n ss n') (hs : ∀ st ∈ ss, st.Unmarked) :
    Works n ss [] n' := by
  induction h with
  | nil n => exact ⟨rfl, rfl, (UInt64.add_zero n).symm⟩
  | @cons n n₁ n' st ss hst _ ih =>
    obtain ⟨hm, hr, rfl⟩ := hst.of_unmarked (hs st (List.mem_cons_self ..))
    obtain ⟨hm', hr', hn⟩ := ih fun st hst => hs st (List.mem_cons_of_mem _ hst)
    refine ⟨?_, ?_, hn⟩
    · rw [List.flatMap_cons, hm, hm', List.nil_append]
    · rw [List.filterMap_cons_none hr, hr']

end Works

lemma unmarked_records (rs : List Log.Record) :
    ∀ st ∈ (records rs : List (Step X)), st.Unmarked := by
  intro st hst
  obtain ⟨r, -, rfl⟩ := List.mem_map.mp hst
  trivial

lemma Reaches.unmarked {κ κ' : Contacts} {side : Side} {ss : List (Step X)}
    {x : Except ForgeError Side} (h : Reaches κ side ss x κ') : ∀ st ∈ ss, st.Unmarked := by
  intro st hst
  obtain ⟨outcome, log, rfl⟩ := h.attempted hst
  trivial

namespace Context

variable {c : Context} {src : BuildSource} {n n' : UInt64} {ss : List (Step X)}

lemma Submits.works {r : Except JobError CoprBuild} (h : c.Submits src ss r)
    (ht : Trail Step.Numbers n ss n') :
    ((∃ err, r = .error err) ∧ Works n ss [] n') ∨
      ∃ request, c.Requests src request ∧ r = .ok (Recorder.buildOf n request) ∧
        ss.flatMap Step.marks = [Recorder.buildNote c.project request n] ∧
        ss.filterMap Step.request? = [request] ∧ n' = n + 1 := by
  cases h with
  | untargeted => exact .inl ⟨⟨_, rfl⟩, .of_unmarked ht (by simp)⟩
  | refused err log hreq =>
    -- A recorder refuses nothing.
    obtain ⟨n₁, -, ht₁⟩ := Trail.cons_iff.mp ht
    obtain ⟨n₂, ⟨ha, -⟩, -⟩ := Trail.cons_iff.mp ht₁
    cases ha
  | submitted build log hreq =>
    obtain ⟨n₁, ⟨-, rfl⟩, ht₁⟩ := Trail.cons_iff.mp ht
    obtain ⟨n₂, ⟨ha, rfl, rfl⟩, ht₂⟩ := Trail.cons_iff.mp ht₁
    obtain ⟨n₃, ⟨-, rfl⟩, ht₃⟩ := Trail.cons_iff.mp ht₂
    obtain rfl := Trail.nil_iff.mp ht₃
    obtain rfl := Except.ok.inj ha
    exact .inr ⟨_, hreq, rfl, rfl, rfl, rfl⟩

lemma Reports.works {kind : Side} {request : CoprBuildRequest} {k : UInt64}
    {r : Except JobError Unit} (h : c.Reports kind (Recorder.buildOf k request) src ss r)
    (ht : Trail Step.Numbers n ss n') :
    ss.flatMap Step.marks = Work.comments k ⟨c, src, request⟩ ∧
      ss.filterMap Step.request? = [] ∧ n' = n := by
  cases h with
  | untagged err log =>
    obtain ⟨n₁, ⟨-, hl, rfl⟩, ht₁⟩ := Trail.cons_iff.mp ht
    obtain rfl := Trail.nil_iff.mp ht₁
    refine ⟨?_, rfl, rfl⟩
    rw [List.flatMap_singleton]
    exact hl
  | onCommit sha log answer log' =>
    obtain ⟨n₁, ⟨⟨err, ha⟩, -⟩, -⟩ := Trail.cons_iff.mp ht
    cases ha
  | onPullRequest answer log =>
    obtain ⟨n₁, ⟨-, rfl⟩, ht₁⟩ := Trail.cons_iff.mp ht
    obtain ⟨n₂, ⟨-, rfl, rfl⟩, ht₂⟩ := Trail.cons_iff.mp ht₁
    obtain rfl := Trail.nil_iff.mp ht₂
    exact ⟨rfl, rfl, rfl⟩

lemma Builds.works {κ κ' : Contacts} {r : Except JobError Unit} (h : c.Builds κ ss r κ')
    (ht : Trail Step.Numbers n ss n') :
    (∃ err, r = .error err) ∧ Works n ss [] n' ∨
      ∃ x : Work, x.context = c ∧ x.Asked ∧ Works n ss [x] n' := by
  cases h with
  | lacking => exact .inl ⟨⟨_, rfl⟩, .of_unmarked ht (by simp)⟩
  | unreached _ hr => exact .inl ⟨⟨_, rfl⟩, .of_unmarked ht hr.unmarked⟩
  | unsubmitted _ hr hs =>
    obtain ⟨n₁, ht₁, ht₂⟩ := Trail.append_iff.mp ht
    rcases hs.works ht₂ with ⟨-, hw⟩ | ⟨_, -, hx, -⟩
    · exact .inl ⟨⟨_, rfl⟩, (Works.of_unmarked ht₁ hr.unmarked).append hw⟩
    · cases hx
  | @reported src kind build rs ss₁ ss₂ r κ₁ hsrc hr hs hrep =>
    obtain ⟨n₁, ht₁, ht⟩ := Trail.append_iff.mp ht
    obtain ⟨n₂, ht₂, ht₃⟩ := Trail.append_iff.mp ht
    rcases hs.works ht₂ with ⟨⟨_, hx⟩, -⟩ | ⟨request, hreq, hx, hm, hq, rfl⟩
    · cases hx
    obtain rfl := Except.ok.inj hx
    obtain ⟨hm', hq', rfl⟩ := hrep.works ht₃
    -- The number is taken when the build is asked for, so that it is kept if the report fails.
    have hw : Works n₁ (ss₁ ++ ss₂) [⟨c, src, request⟩] (n₁ + 1) := by
      refine ⟨?_, ?_, rfl⟩
      · rw [List.flatMap_append, hm, hm']
        simp [Work.notes, Work.buildNote]
      · rw [List.filterMap_append, hq, hq']
        rfl
    exact .inr ⟨⟨c, src, request⟩, rfl, ⟨hsrc, hreq⟩,
      (Works.of_unmarked ht₁ hr.unmarked).append hw⟩

end Context

lemma Builtin.works {c : Context} {h : Handler X} {n n' : UInt64} {κ κ' : Contacts}
    {ss : List (Step X)} {r : Except JobError Unit} (hb : Builtin c.trigger c.job.job h)
    (hp : Program.Path κ (h.run c).run ss r κ') (ht : Trail Step.Numbers n ss n') :
    ∃ xs, Works n ss xs n' ∧ (∀ x ∈ xs, x.context = c ∧ x.Asked) ∧ Covers [c.job] xs r := by
  by_cases hj : c.job.job = .coprBuild
  · have hf : [c.job].filter (fun job => job.job = .coprBuild) = [c.job] := by simp [hj]
    have hbuilds : c.Builds κ ss r κ' := by
      generalize htrig : c.trigger = t at hb
      rw [hj] at hb
      cases hb with
      | buildRelease => exact Handler.builds_of_path (.inl htrig) hp
      | buildPullRequest => exact Handler.builds_of_path (.inr htrig) hp
    rcases hbuilds.works ht with ⟨⟨err, rfl⟩, hw⟩ | ⟨x, rfl, hx, hw⟩
    · exact ⟨[], hw, by simp, List.nil_prefix, nofun⟩
    · exact ⟨[x], hw, by simp [hx], by simp [hf], fun _ => by simp [hf]⟩
  · have hf : [c.job].filter (fun job => job.job = .coprBuild) = [] := by simp [hj]
    have hs : ∀ st ∈ ss, st.Unmarked := by
      intro st hst
      have htakes := hb.takes hp st hst
      generalize c.job.job = j at hj htakes
      cases htakes with
      | builtRelease | builtPullRequest | reportedRelease | reportedPullRequest =>
        exact absurd rfl hj
      | logged | proposed | checked | located | carried | reached | tagged => trivial
    exact ⟨[], .of_unmarked ht hs, by simp, List.nil_prefix, fun _ => hf.symm⟩

lemma Covers.append {jobs jobs' : List JobConfig} {xs ys : List Work} {r : Except JobError Unit}
    (h : Covers jobs xs (.ok ())) (h' : Covers jobs' ys r) :
    Covers (jobs ++ jobs') (xs ++ ys) r := by
  have hxs := h.2 rfl
  refine ⟨?_, fun hr => ?_⟩
  · rw [List.map_append, List.filter_append, hxs, List.prefix_append_right_inj]
    exact h'.1
  · rw [List.map_append, List.filter_append, hxs, h'.2 hr]

lemma Covers.append_error {jobs jobs' : List JobConfig} {xs : List Work} {err : JobError}
    (h : Covers jobs xs (.error err)) : Covers (jobs ++ jobs') xs (.error err) := by
  refine ⟨?_, nofun⟩
  rw [List.filter_append]
  exact h.1.trans (List.prefix_append ..)

namespace Dispatcher

variable {d : Dispatcher X} {c : Classified} {e : Event} {n n' : UInt64} {κ κ' : Contacts}
  {ss : List (Step X)} {r : Except JobError Unit}

def Owns (d : Dispatcher X) (c : Classified) (e : Event) (x : Work) : Prop :=
  x.context = ⟨d.config, c.package, e, c.project, x.context.job, c.trigger⟩ ∧ x.Asked

lemma PlanPath.works {plan : List (Fate X)} (h : d.PlanPath c e κ plan ss r κ')
    (hrun : ∀ job h, .run job h ∈ plan → Builtin c.trigger job.job h)
    (ht : Trail Step.Numbers n ss n') :
    ∃ xs, Works n ss xs n' ∧ (∀ x ∈ xs, d.Owns c e x) ∧
      Covers (plan.filterMap Fate.job?) xs r := by
  induction h generalizing n with
  | done => exact ⟨[], .of_unmarked ht (by simp), by simp, List.nil_prefix, fun _ => rfl⟩
  | skip _ ih =>
    obtain ⟨n₁, ⟨-, rfl⟩, ht₁⟩ := Trail.cons_iff.mp ht
    obtain ⟨xs, hw, hx, hc⟩ := ih (fun job h hm => hrun job h (List.mem_cons_of_mem _ hm)) ht₁
    exact ⟨xs, ⟨hw.marks, hw.requests, hw.next⟩, hx, hc⟩
  | @run κ κ₁ κ' job h rest ss₁ ss₂ r hp _ ih =>
    obtain ⟨n₂, ht, ht₂⟩ := Trail.append_iff.mp ht
    obtain ⟨n₁, ⟨-, rfl⟩, ht₁⟩ := Trail.cons_iff.mp ht
    have hb : Builtin (d.context c e job).trigger (d.context c e job).job.job h :=
      hrun job h (List.mem_cons_self ..)
    obtain ⟨xs, hw, hx, hc⟩ := hb.works hp ht₁
    obtain ⟨ys, hw', hy, hc'⟩ := ih (fun job h hm => hrun job h (List.mem_cons_of_mem _ hm)) ht₂
    have hx : ∀ x ∈ xs, d.Owns c e x := by
      intro x hm
      obtain ⟨hcx, hasked⟩ := hx x hm
      exact ⟨by rw [hcx]; rfl, hasked⟩
    have hw : Works n₁ (.logged (running c job) :: ss₁) xs n₂ :=
      ⟨hw.marks, hw.requests, hw.next⟩
    exact ⟨xs ++ ys, hw.append hw', List.forall_mem_append.mpr ⟨hx, hy⟩, hc.append hc'⟩
  | @fail κ κ' job h rest ss err hp =>
    obtain ⟨n₁, ⟨-, rfl⟩, ht₁⟩ := Trail.cons_iff.mp ht
    have hb : Builtin (d.context c e job).trigger (d.context c e job).job.job h :=
      hrun job h (List.mem_cons_self ..)
    obtain ⟨xs, hw, hx, hc⟩ := hb.works hp ht₁
    refine ⟨xs, ⟨hw.marks, hw.requests, hw.next⟩, fun x hm => ?_, hc.append_error⟩
    obtain ⟨hcx, hasked⟩ := hx x hm
    exact ⟨by rw [hcx]; rfl, hasked⟩

inductive Undertakes (d : Dispatcher X) (e : Event) (ss : List (Step X))
    (res : Except JobError Unit) : List Work → Prop
  | nothing : (∀ r, e.recognized.value = some r → ∀ package after,
      ¬ r.Asks ss (.ok package) after) → Undertakes d e ss res []
  | declared {r : Recognized} {kind : Side} {package : PackageConfig} {after : List (Step X)}
      {xs : List Work} : e.recognized.value = some r → r.Asks ss (.ok package) after →
      (∀ x ∈ xs, d.Owns (r.classified kind package) e x) → Covers (d.eligible r package) xs res →
      Undertakes d e ss res xs

lemma undertakes_of_calls_eq_nil (h : calls ss = []) : d.Undertakes e ss r [] :=
  .nothing fun _ _ _ _ ha => ha.calls_ne_nil h

lemma DispatchPath.works {topic : Option String} (hd : Registry.standard.value = .ok d.registry)
    (h : d.DispatchPath e topic κ ss r κ') (ht : Trail Step.Numbers n ss n') :
    ∃ xs, Works n ss xs n' ∧ d.Undertakes e ss r xs := by
  cases h with
  | dropped | unrecognized =>
    exact ⟨[], .of_unmarked ht (unmarked_records _), undertakes_of_calls_eq_nil (calls_records _)⟩
  | unclassified _ hc =>
    cases hc with
    | unreached _ hr =>
      refine ⟨[], .of_unmarked ht ?_, undertakes_of_calls_eq_nil (hr.calls_records_append _)⟩
      exact List.forall_mem_append.mpr ⟨unmarked_records _, hr.unmarked⟩
    | @unfetched r rs kind err log _ hv hr =>
      have ha : r.Asks (records e.recognized.log ++ rs ++
          [.askedForge r.side (r.configCall kind) (.error err) log]) (.error err) [] :=
        ⟨_, kind, log, hr.calls_records_append _, rfl⟩
      refine ⟨[], .of_unmarked ht ?_, .nothing fun r' hv' package after ha' => ?_⟩
      · refine List.forall_mem_append.mpr ⟨List.forall_mem_append.mpr ?_, ?_⟩
        · exact ⟨unmarked_records _, hr.unmarked⟩
        · exact List.forall_mem_singleton.mpr trivial
      · obtain rfl := Option.some.inj (hv.symm.trans hv')
        obtain ⟨hx, -⟩ := ha.unique ha'
        cases hx
  | @classified c ss₁ ss₂ _ κ₁ _ _ hc hp =>
    cases hc with
    | @classified r rs kind package log notes _ hv hr =>
      obtain ⟨n₁, ht₁, ht₂⟩ := Trail.append_iff.mp ht
      have hs : ∀ st ∈ records e.recognized.log ++ rs ++
          .askedForge r.side (r.configCall kind) (.ok package) log :: records notes,
          st.Unmarked := by
        refine List.forall_mem_append.mpr ⟨List.forall_mem_append.mpr ?_, ?_⟩
        · exact ⟨unmarked_records _, hr.unmarked⟩
        · exact List.forall_mem_cons.mpr ⟨trivial, unmarked_records _⟩
      have hrun : ∀ job h, .run job h ∈ d.registry.plan r.trigger (r.located package).jobs →
          Builtin r.trigger job.job h := by
        intro job h hm
        obtain ⟨-, -, hh, ht⟩ := Registry.mem_plan_run_iff.mp hm
        exact Registry.standard_builtin hd hh ht
      have hj : (d.registry.plan r.trigger (r.located package).jobs).filterMap Fate.job? =
          d.eligible r package := by
        rw [Registry.jobs_plan, Recognized.located_jobs]
        rfl
      have ha : r.Asks (records e.recognized.log ++ rs ++
          .askedForge r.side (r.configCall kind) (.ok package) log :: records notes ++ ss₂)
          (.ok package) (records notes ++ ss₂) :=
        ⟨_, kind, log, hr.calls_records_append _, List.append_assoc ..⟩
      obtain ⟨xs, hw, hx, hcover⟩ := hp.works hrun ht₂
      exact ⟨xs, (Works.of_unmarked ht₁ hs).append hw, .declared hv ha hx (hj ▸ hcover)⟩

end Dispatcher

structure Turn.Builds (d : Dispatcher X) (t : Turn X σ) (xs : List Work) : Prop where
  requests : (t.steps d).filterMap Step.request? = xs.map Work.request
  undertakes : d.Undertakes t.message.1 (t.steps d) (t.result d) xs

lemma Turn.works {d : Dispatcher X} (hd : Registry.standard.value = .ok d.registry)
    (t : Turn X σ) {n n' : UInt64} (ht : Trail Step.Numbers n (t.told d) n') :
    ∃ xs, Works n (t.told d) xs n' ∧ t.Builds d xs := by
  obtain ⟨n₁, ⟨-, rfl⟩, ht₁⟩ := Trail.cons_iff.mp ht
  obtain ⟨n₂, ht₂, ht₃⟩ := Trail.append_iff.mp ht₁
  obtain ⟨hp, -⟩ := (d.dispatch t.message.1 t.message.2).run.run_path t.collaborators t.state
  obtain ⟨xs, hw, hu⟩ := (Dispatcher.path_dispatch hp).works hd ht₂
  have hr : ∀ st ∈ t.report d, st.Unmarked := by
    intro st hst
    rw [report] at hst
    split at hst
    · cases hst
    · obtain rfl := List.mem_singleton.mp hst
      trivial
  have hw' := hw.append (Works.of_unmarked ht₃ hr)
  rw [List.append_nil] at hw'
  exact ⟨xs, ⟨hw'.marks, hw'.requests, hw'.next⟩, hw.requests, hu⟩

open EventStream in
lemma Listener.told_works {d : Dispatcher X} (hd : Registry.standard.value = .ok d.registry)
    {xs : List Delivery} (hx : Sound xs) (k : Collaborators X (StateM σ)) (s : σ) {n n' : UInt64}
    (ht : Trail Step.Numbers n (told d xs k s) n') :
    ∃ works, List.Forall₂ (Turn.Builds d) (d.turns (messages xs) k s) works ∧
      Works n (told d xs k s) works.flatten n' := by
  induction xs generalizing k s n with
  | nil => exact ⟨[], .nil, .of_unmarked ht (by simp [told])⟩
  | cons x xs ih =>
    cases x with
    | event i =>
      let t : Turn X σ := ⟨(i.event, i.topic), k, s⟩
      obtain ⟨n₁, ht₁, ht₂⟩ := Trail.append_iff.mp ht
      obtain ⟨ys, hy, hb⟩ := t.works hd ht₁
      obtain ⟨works, hbs, hw⟩ := ih hx.of_cons _ _ ht₂
      exact ⟨ys :: works, .cons hb hbs, hy.append hw⟩
    | malformed line =>
      obtain ⟨n₁, ⟨-, rfl⟩, ht₁⟩ := Trail.cons_iff.mp ht
      obtain ⟨works, hbs, hw⟩ := ih hx.of_cons _ _ ht₁
      exact ⟨works, hbs, hw.marks, hw.requests, hw.next⟩
    | failure e => exact absurd (List.mem_cons_self ..) (hx e)

section Apart

open Job Handler

lemma apart_info {part : Log.Part} (message : String) (fields : List (String × String))
    (hp : part ≠ .offline) :
    EachStep Step.Apart (log (.info part message fields) : Job X Unit) :=
  eachStep_log hp

lemma apart_submit (c : Context) (committish cloneUrl : String) :
    EachStep Step.Apart (submit c committish cloneUrl : Job X CoprBuild) := by
  apply iteInduction (motive := EachStep Step.Apart)
  · intro _
    exact eachStep_fail _
  · intro _
    refine (apart_info _ _ (by decide)).bind fun _ => ?_
    refine (eachStep_askPackaging fun _ _ => trivial).bind fun build => ?_
    exact (apart_info _ _ (by decide)).bind fun _ => eachStep_pure _

lemma apart_coprBuild {c : Context} (ht : c.trigger ≠ .commit) :
    EachStep Step.Apart ((coprBuild : Handler X).run c) := by
  have hr : ∀ outcome log, (Step.attempted .upstream outcome log : Step X).Apart :=
    fun _ _ => trivial
  cases htrig : c.trigger with
  | commit => exact absurd htrig ht
  | release =>
    simp only [coprBuild, htrig, buildRelease_eq]
    refine (c.eachStep_requireText _).bind fun url => (c.eachStep_requireText _).bind fun tag => ?_
    refine (eachStep_reach hr).bind fun _ => (apart_submit c tag url).bind fun build => ?_
    refine (eachStep_askForge hr fun _ _ => trivial).bind fun sha => ?_
    exact eachStep_askForge hr fun _ _ => trivial
  | pullRequest =>
    simp only [coprBuild, htrig, buildPullRequest_eq]
    refine (c.eachStep_requireText _).bind fun url => (c.eachStep_requireText _).bind fun sha => ?_
    refine (c.eachStep_requireNatural _).bind fun _ => (c.eachStep_requireText _).bind fun _ => ?_
    refine (c.eachStep_requireText _).bind fun _ => (eachStep_reach hr).bind fun _ => ?_
    refine (apart_submit c sha url).bind fun build => (apart_info _ _ (by decide)).bind fun _ => ?_
    exact eachStep_askForge hr fun _ _ => trivial

lemma Builtin.apart {c : Context} {j : JobType} {h : Handler X} (hb : Builtin c.trigger j h) :
    EachStep Step.Apart (h.run c) := by
  generalize ht : c.trigger = t at hb
  cases hb with
  | buildRelease | buildPullRequest => exact apart_coprBuild (by simp [ht])
  | proposeDownstream =>
    refine (c.eachStep_requireText _).bind fun _ => (apart_info _ _ (by decide)).bind fun _ => ?_
    exact eachStep_askPackaging fun _ _ => trivial
  | checkDownstream =>
    refine (c.eachStep_requireNatural _).bind fun _ => (apart_info _ _ (by decide)).bind fun _ => ?_
    exact eachStep_askPackaging fun _ _ => trivial
  | syncFromDownstream =>
    refine (c.eachStep_requireText _).bind fun _ => ?_
    refine (eachStep_askPackaging fun _ _ => trivial).bind fun url => ?_
    refine (eachStep_sourceOf url).bind ?_
    rintro ⟨owner, repo⟩
    refine (eachStep_reach fun _ _ => trivial).bind fun _ => ?_
    refine (apart_info _ _ (by decide)).bind fun _ => eachStep_askPackaging fun _ _ => trivial

variable {d : Dispatcher X}

lemma Turn.apart (hd : Registry.standard.value = .ok d.registry) (t : Turn X σ) :
    ∀ st ∈ t.told d, st.Apart := by
  have hdispatch : EachStep Step.Apart (d.dispatch t.message.1 t.message.2) := by
    refine Dispatcher.eachStep_dispatch ?_ (fun _ _ _ => trivial) (fun _ _ _ _ => trivial) ?_ _
    · rintro rec (hp | hp) - <;> simp [Step.Apart, hp]
    · intro c job h hj ht
      exact Builtin.apart (c := d.context c t.message.1 job) (Registry.standard_builtin hd hj ht)
  obtain ⟨hp, -⟩ := (d.dispatch t.message.1 t.message.2).run.run_path t.collaborators t.state
  refine List.forall_mem_cons.mpr ⟨?_, List.forall_mem_append.mpr ⟨hdispatch hp, ?_⟩⟩
  · exact (by decide : Log.Part.listener ≠ .offline)
  · intro st hst
    rw [report] at hst
    split at hst
    · cases hst
    · obtain rfl := List.mem_singleton.mp hst
      exact (by decide : Log.Part.listener ≠ .offline)

open EventStream in
lemma Listener.told_apart (hd : Registry.standard.value = .ok d.registry) (xs : List Delivery)
    (k : Collaborators X (StateM σ)) (s : σ) : ∀ st ∈ told d xs k s, st.Apart := by
  induction xs generalizing k s with
  | nil => simp [told]
  | cons x xs ih =>
    cases x with
    | event i => exact List.forall_mem_append.mpr ⟨Turn.apart hd _, ih _ _⟩
    | malformed line =>
      exact List.forall_mem_cons.mpr ⟨(by decide : Log.Part.listener ≠ .offline), ih k s⟩
    | failure e => simp [told]

end Apart

section Logs

variable {m : Type → Type} {n : UInt64} {xs : List Work}

lemma filterMap_logged (rs : List Log.Record) :
    (rs.map Entry.logged : List (Entry X)).filterMap (fun
      | .logged r => some r
      | _ => none) = rs := by
  induction rs with
  | nil => rfl
  | cons r rs ih => exact congrArg (r :: ·) ih

lemma Outcome.filter_log {o : Outcome X m α} {ss : List (Step X)}
    (ho : o.transcript = ss.flatMap Step.entries) (hs : ∀ st ∈ ss, st.Apart) :
    o.log.filter isNote = ss.flatMap Step.marks := by
  rw [log, ho]
  clear ho
  induction ss with
  | nil => rfl
  | cons st ss ih =>
    obtain ⟨hst, hss⟩ := List.forall_mem_cons.mp hs
    rw [List.flatMap_cons, List.flatMap_cons, List.filterMap_append, List.filter_append, ih hss]
    congr 1
    cases st with
    | logged r =>
      have hr : r.part ≠ .offline := hst
      simp [Step.entries, Step.marks, isNote, isBuildNote, isCommentNote, hr]
    | attempted _ _ log | askedForge _ _ _ log | askedPackaging _ _ log =>
      exact congrArg (List.filter isNote) (filterMap_logged log)
    | acted a answer => rfl

lemma filter_isBuildNote_notes :
    (numbered Work.notes n xs).flatten.filter isBuildNote = numbered Work.buildNote n xs := by
  induction xs generalizing n with
  | nil => rfl
  | cons x xs ih =>
    have hc : (x.comments n).filter isBuildNote = [] := by
      rw [Work.comments]
      cases x.source <;> rfl
    rw [numbered_cons, numbered_cons, List.flatten_cons, List.filter_append, ih, Work.notes,
      List.filter_cons_of_pos rfl, hc, List.singleton_append]

lemma comment_of_notes {before after : List Log.Record} {rec : Log.Record}
    (h : (numbered Work.notes n xs).flatten = before ++ rec :: after)
    (hc : rec.isCommentNote = true) :
    ∃ earlier x k, x ∈ xs ∧ before = earlier ++ [x.buildNote k] ∧ rec ∈ x.comments k := by
  induction xs generalizing n before with
  | nil => simp at h
  | cons x xs ih =>
    have later : ∀ seen tail : List Log.Record, before = seen ++ tail →
        (numbered Work.notes (n + 1) xs).flatten = tail ++ rec :: after →
        ∃ earlier y k, y ∈ x :: xs ∧ before = earlier ++ [y.buildNote k] ∧ rec ∈ y.comments k := by
      intro seen tail hb ht
      obtain ⟨earlier, y, k, hy, rfl, hrec⟩ := ih ht
      exact ⟨seen ++ earlier, y, k, List.mem_cons_of_mem _ hy, by rw [hb, List.append_assoc], hrec⟩
    rw [numbered_cons, List.flatten_cons, Work.notes, List.cons_append] at h
    cases before with
    | nil =>
      obtain ⟨rfl, -⟩ := List.cons_eq_cons.mp h
      exact absurd hc (by decide : ¬ false = true)
    | cons b before =>
      obtain ⟨rfl, h₁⟩ := List.cons_eq_cons.mp h
      cases hs : x.source with
      | release cloneUrl tag =>
        simp only [Work.comments, hs, List.nil_append] at h₁
        exact later [_] _ rfl h₁
      | pullRequest cloneUrl sha number owner repo =>
        obtain ⟨note, hm⟩ : ∃ note, x.comments n = [note] := by
          rw [Work.comments, hs]
          exact ⟨_, rfl⟩
        rw [hm, List.singleton_append] at h₁
        cases before with
        | nil =>
          obtain ⟨rfl, -⟩ := List.cons_eq_cons.mp h₁
          exact ⟨[], x, n, List.mem_cons_self .., rfl, hm ▸ List.mem_singleton_self _⟩
        | cons b before =>
          obtain ⟨rfl, h₂⟩ := List.cons_eq_cons.mp h₁
          exact later [_, _] _ rfl h₂

end Logs

end JobDispatch
