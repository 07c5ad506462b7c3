import JobDispatch.Proofs.Calls
import JobDispatch.Proofs.Sparing

/-! Which forge a dispatch does not depend on. The built-in handlers spare the downstream forge.
The one that serves dist-git commits spares the upstream forge too, until it knows where the source
is. -/

namespace JobDispatch

variable {X : Extras} {σ : Type}

def PackagingCall.Locates : PackagingAnswer
  | .sourceUrl .., x =>
    ∃ address source, x = .ok (some address) ∧ Address.ownerAndRepo? address = some source
  | .carryBack .., _ | .checkPullRequest .., _ | .proposeRelease .., _ | .build .., _ => False

lemma Context.Takes.of_locates {c : Context} {j : JobType} {call : PackagingCall}
    {answer : Except PackagingError call.Result} {log : List Log.Record}
    (h : c.Takes j (.askedPackaging call answer log : Step X)) (hl : call.Locates answer) :
    ∃ address source, j = .syncFromDownstream ∧ Address.ownerAndRepo? address = some source ∧
      (.askedPackaging call answer log : Step X) =
        .askedPackaging (.sourceUrl c.package c.project) (.ok (some address)) log := by
  cases h with
  | located =>
    obtain ⟨address, source, rfl, hs⟩ := hl
    exact ⟨address, source, rfl, hs, rfl⟩
  | proposed | checked | carried | builtRelease | builtPullRequest => exact hl.elim

section Handlers

open Job Handler

variable {Q : PackagingAnswer} {side : Side} {c : Context}

lemma Context.spares_requireText {path : List String} {P : String → Prop} (h : ∀ s, P s) :
    (c.requireText path : Job X String).Spares Q side P := by
  rw [requireText]
  cases c.event.text? path with
  | none => exact spares_fail
  | some s => exact spares_pure (h s)

lemma Context.spares_requireNatural {path : List String} {P : UInt64 → Prop}
    (h : ∀ n, P n) : (c.requireNatural path : Job X UInt64).Spares Q side P := by
  rw [requireNatural]
  cases c.event.natural? path with
  | none => exact spares_fail
  | some n => exact spares_pure (h n)

namespace Handler

lemma spares_submit {committish cloneUrl : String} {P : CoprBuild → Prop}
    (h : ∀ build, P build) :
    (submit c committish cloneUrl : Job X CoprBuild).Spares Q side P := by
  apply iteInduction (motive := Job.Spares Q side P)
  · intro _
    exact spares_fail
  · intro _
    refine .bind (spares_log (.bind (spares_askPackaging fun build => .inr ?_)))
    exact .bind (spares_log (spares_pure (h build)))

lemma spares_sourceOf {url : Option String} {P : String × String → Prop}
    (h : ∀ address source, url = some address → Address.ownerAndRepo? address = some source →
      P source) : (sourceOf url : Job X (String × String)).Spares Q side P := by
  cases url with
  | none => exact spares_fail
  | some address =>
    rw [sourceOf]
    cases hs : Address.ownerAndRepo? address with
    | none => exact spares_fail
    | some source => exact spares_pure (h address source rfl hs)

lemma spares_proposeDownstream (c : Context) :
    ((proposeDownstream : Handler X).run c).Spares Q side fun _ => True := by
  refine .bind (c.spares_requireText fun version => .bind (spares_log ?_))
  exact spares_askPackaging fun _ => .inr trivial

lemma spares_checkDownstream (c : Context) :
    ((checkDownstream : Handler X).run c).Spares Q side fun _ => True := by
  refine .bind (c.spares_requireNatural fun number => .bind (spares_log ?_))
  exact spares_askPackaging fun _ => .inr trivial

lemma spares_buildRelease (c : Context) :
    (buildRelease c : Job X Unit).Spares Q .downstream fun _ => True := by
  rw [buildRelease_eq]
  refine .bind (c.spares_requireText fun cloneUrl => .bind (c.spares_requireText fun tag => ?_))
  refine .bind (spares_reach (by decide) fun _ => .bind (spares_submit fun build => ?_))
  refine .bind (spares_askForge (by decide) fun sha => ?_)
  exact spares_askForge (by decide) fun _ => trivial

lemma spares_buildPullRequest (c : Context) :
    (buildPullRequest c : Job X Unit).Spares Q .downstream fun _ => True := by
  rw [buildPullRequest_eq]
  refine .bind (c.spares_requireText fun cloneUrl => .bind (c.spares_requireText fun sha => ?_))
  refine .bind (c.spares_requireNatural fun number => .bind (c.spares_requireText fun owner => ?_))
  refine .bind (c.spares_requireText fun repo => .bind (spares_reach (by decide) fun kind => ?_))
  refine .bind (spares_submit fun build => .bind (spares_log ?_))
  exact spares_askForge (by decide) fun _ => trivial

lemma spares_coprBuild (c : Context) :
    ((coprBuild : Handler X).run c).Spares Q .downstream fun _ => True := by
  simp only [coprBuild]
  cases c.trigger with
  | pullRequest => exact spares_buildPullRequest c
  | release => exact spares_buildRelease c
  | commit => exact spares_log (P := fun _ => True) trivial

lemma spares_syncFromDownstream (c : Context)
    (h : ∀ address source, Address.ownerAndRepo? address = some source →
      Q (.sourceUrl c.package c.project) (.ok (some address)) ∨ .upstream ≠ side) :
    ((syncFromDownstream : Handler X).run c).Spares Q side fun _ => True := by
  refine .bind (c.spares_requireText fun branch => .bind (spares_askPackaging fun url => ?_))
  by_cases hq : Q (.sourceUrl c.package c.project) (.ok url)
  · exact .inl hq
  · refine .inr (.bind (spares_sourceOf fun address source hu hs => ?_))
    have ho : Side.upstream ≠ side := (h address source hs).resolve_left (hu ▸ hq)
    refine .bind (spares_reach ho fun kind => .bind (spares_log ?_))
    exact spares_askPackaging fun _ => .inr trivial

end Handler

lemma Builtin.spares_downstream {t : Trigger} {j : JobType} {h : Handler X} (hb : Builtin t j h) :
    (h.run c).Spares Q .downstream fun _ => True := by
  cases hb with
  | proposeDownstream => exact spares_proposeDownstream c
  | checkDownstream => exact spares_checkDownstream c
  | buildRelease | buildPullRequest => exact spares_coprBuild c
  | syncFromDownstream => exact spares_syncFromDownstream c fun _ _ _ => .inr (by decide)

end Handlers

section Dispatch

open Job

variable {Q : PackagingAnswer} {side : Side} {r : Recognized} {e : Event} {d : Dispatcher X}
  {c : Classified}

lemma Recognized.spares_classify {kind : Side} {P : Classified → Prop} (ho : r.side ≠ side)
    (h : ∀ package, P (r.classified kind package)) :
    (r.classify r.side kind : Job X Classified).Spares Q side P := by
  refine .bind (spares_askForge ho fun package => ?_)
  have hp := h package
  cases hu : r.url? with
  | some url => exact spares_pure (by simpa [classified, located, hu] using hp)
  | none => exact .bind (spares_log (spares_pure (by simpa [classified, located, hu] using hp)))

lemma Event.spares_classify {P : Option Classified → Prop} (hr : e.recognized.value = some r)
    (ho : r.side ≠ side) (h : ∀ kind package, P (some (r.classified kind package))) :
    (e.classify : Job X (Option Classified)).Spares Q side P := by
  refine .bind (spares_tell ?_)
  rw [hr]
  refine .bind (spares_reach ho fun kind => .bind (r.spares_classify ho fun package => ?_))
  exact .bind (spares_log (spares_pure (h kind package)))

namespace Dispatcher

lemma spares_runAll
    (hh : ∀ job h, d.registry.handler? job.job = some h → c.trigger ∈ h.triggers →
      (h.run (d.context c e job)).Spares Q side fun _ => True)
    (jobs : List JobConfig) : (d.runAll c e jobs).Spares Q side fun _ => True := by
  induction jobs with
  | nil => exact spares_pure (P := fun _ => True) trivial
  | cons job jobs ih =>
    refine .seq ?_ fun _ => ih
    rw [runJob_eq]
    cases hf : d.registry.fate c.trigger job with
    | skip warning => exact spares_log (P := fun _ => True) trivial
    | run job' h =>
      obtain ⟨rfl, hj, ht⟩ := Registry.fate_eq_run_iff.mp hf
      exact .bind (spares_log (hh job' h hj ht))

lemma spares_dispatch (hr : e.recognized.value = some r) (ho : r.side ≠ side)
    (hh : ∀ c job h, c.trigger = r.trigger → d.registry.handler? job.job = some h →
      c.trigger ∈ h.triggers → (h.run (d.context c e job)).Spares Q side fun _ => True)
    (topic : Option String) : (d.dispatch e topic).Spares Q side fun _ => True := by
  apply iteInduction (motive := Job.Spares Q side fun _ => True)
  · intro _
    exact spares_log (P := fun _ => True) trivial
  · intro _
    refine .bind (Event.spares_classify hr ho fun kind package => ?_)
    exact spares_runAll (fun job h => hh _ job h rfl) _

lemma spares_downstream (hd : Registry.standard.value = .ok d.registry)
    (hr : e.recognized.value = some r) (hrt : r.trigger ≠ .commit) (topic : Option String) :
    (d.dispatch e topic).Spares (fun _ _ => False) .downstream fun _ => True := by
  have ho : r.side ≠ .downstream := by
    cases r with
    | release | pullRequest => simp [Recognized.side]
    | distGitCommit => exact absurd rfl hrt
  exact spares_dispatch hr ho (fun c job h _ hj hm =>
    (Registry.standard_builtin hd hj hm).spares_downstream) topic

lemma spares_upstream (hd : Registry.standard.value = .ok d.registry)
    (hr : e.recognized.value = some r) (hrt : r.trigger = .commit) (topic : Option String) :
    (d.dispatch e topic).Spares PackagingCall.Locates .upstream fun _ => True := by
  have ho : r.side ≠ .upstream := by
    cases r with
    | release | pullRequest => cases hrt
    | distGitCommit => simp [Recognized.side]
  refine spares_dispatch hr ho (fun c job h hc hj hm => ?_) topic
  have hb := Registry.standard_builtin hd hj hm
  rw [hc, hrt] at hb
  generalize job.job = j at hb
  cases hb with
  | syncFromDownstream =>
    exact Handler.spares_syncFromDownstream _ fun address source ha =>
      .inl ⟨address, source, rfl, ha⟩

def Located (d : Dispatcher X) (r : Recognized) (ss : List (Step X)) : Prop :=
  ∃ kind package fetched job earlier between address source log since,
    ss = earlier ++ .logged (running (r.classified kind package) job) :: (between ++
      .askedPackaging (.sourceUrl (r.located package) ⟨r.owner, r.repo, kind⟩)
        (.ok (some address)) log :: since) ∧
    .askedForge r.side (r.configCall kind) (.ok package) fetched ∈ earlier ∧
    (∀ c other, .logged (running c other) ∉ between) ∧
    job ∈ d.eligible r package ∧ job.job = .syncFromDownstream ∧
    Address.ownerAndRepo? address = some source

section Origin

variable {topic : Option String} {κ κ' : Contacts} {ss : List (Step X)} {res : Except JobError Unit}

lemma DispatchPath.located {begun rest : List (Step X)} {call : PackagingCall}
    {answer : Except PackagingError call.Result} {log : List Log.Record}
    (h : d.DispatchPath e topic κ ss res κ') (hd : Registry.standard.value = .ok d.registry)
    (hr : e.recognized.value = some r) (hss : ss = begun ++ rest)
    (hm : .askedPackaging call answer log ∈ begun) (hl : call.Locates answer) :
    d.Located r begun := by
  obtain ⟨before, after, rfl⟩ := List.append_of_mem hm
  obtain ⟨kind, package, fetched, job, handler, earlier, since, -, rfl, hfetched, hsince, hm, hjt,
    hj, ht, htakes⟩ := h.askedPackaging hd hr (hss.trans (List.append_assoc ..))
  obtain ⟨address, source, hsync, ha, hs⟩ := htakes.of_locates hl
  have hserves : d.registry.serves r.trigger job = true := by
    simp only [Registry.serves, decide_eq_true_eq]
    exact ⟨hjt, handler, hj, ht⟩
  refine ⟨kind, package, fetched, job, earlier, since, address, source, log, after, ?_, hfetched,
    hsince, List.mem_filter.mpr ⟨hm, hserves⟩, hsync, ha⟩
  rw [hs]
  simp [context, Recognized.classified]

lemma DispatchPath.askedForge_side {side : Side} {call : ForgeCall}
    {answer : Except ForgeError call.Result} {log : List Log.Record}
    (h : d.DispatchPath e topic κ ss res κ') (hd : Registry.standard.value = .ok d.registry)
    (hr : e.recognized.value = some r) (hrt : r.trigger = .commit)
    (hm : .askedForge side call answer log ∈ ss) : side = r.side := by
  obtain ⟨kind, -, ⟨hside, -⟩ | ⟨package, job, handler, hb, htakes⟩⟩ := h.askedForge hd hr hm
  · exact hside
  · rw [hrt] at hb
    generalize job.job = j at hb htakes
    cases hb
    cases htakes

end Origin

/-- A release and a pull request make no use of the downstream link. A commit makes none of the
upstream forge, and of the link to it only once a source has been found. -/
theorem dispatch_spares (hd : Registry.standard.value = .ok d.registry)
    (hr : e.recognized.value = some r) (topic : Option String) (k : Collaborators X (StateM σ))
    (s : σ) :
    let run := (d.dispatch e topic).run.run
    let steps := (d.dispatch e topic).run.steps k s
    (run k s).1.transcript = steps.flatMap Step.entries ∧
      (r.trigger ≠ .commit →
        (∀ l, run (k.setLink .downstream l) s =
          ((run k s).1.withLink .downstream l, (run k s).2)) ∧
        (run k s).1.collaborators.downstream = k.downstream ∧
        ∀ st ∈ steps, st.side? ≠ some .downstream) ∧
      (r.trigger = .commit →
        (∀ call answer log, .askedForge .upstream call answer log ∉ steps) ∧
        (∀ before outcome log after, steps = before ++ .attempted .upstream outcome log :: after →
          d.Located r before) ∧
        (¬ d.Located r steps → ∀ l, run (k.setLink .upstream l) s =
          ((run k s).1.withLink .upstream l, (run k s).2))) := by
  intro run steps
  obtain ⟨hp, ht⟩ := (d.dispatch e topic).run.run_path k s
  refine ⟨ht, fun hrt => ?_, fun hrt => ?_⟩
  · have hs := spares_downstream hd hr hrt topic
    refine ⟨fun l => hs.run_setLink (fun _ _ _ _ => not_false) l,
      hs.link_eq (fun _ _ _ _ => not_false), ?_⟩
    intro st hm hside
    obtain ⟨before, after, hsplit⟩ := List.append_of_mem hm
    obtain ⟨_, _, _, _, hf⟩ := hs.answered hp hsplit hside
    exact hf
  · have hs := spares_upstream hd hr hrt topic
    refine ⟨?_, ?_, ?_⟩
    · intro call answer log hm
      have hside := (path_dispatch hp).askedForge_side hd hr hrt hm
      cases r with
      | release | pullRequest => cases hrt
      | distGitCommit => cases hside
    · intro before outcome log after hsplit
      obtain ⟨call, x, log', hm, hl⟩ := hs.answered hp hsplit rfl
      exact (path_dispatch hp).located hd hr hsplit hm hl
    · intro hn l
      refine hs.run_setLink (fun call x log hm hl => hn ?_) l
      exact (path_dispatch hp).located hd hr (List.append_nil _).symm hm hl

theorem dispatch_spares_published :
    let k : Collaborators Extras.none (StateM Unit) := .granting builtAndProposed
    let run := (standard.dispatch published none).run.run
    let r : Recognized := .release "acme" "widget" "v1.0" none
    Registry.standard.value = .ok (standard : Dispatcher Extras.none).registry ∧
      published.recognized.value = some r ∧ r.trigger ≠ .commit ∧
      (calls ((standard.dispatch published none).run.steps k ())).length = 4 ∧
      ∀ l, run (k.setLink .downstream l) () = ((run k ()).1.withLink .downstream l, ()) := by
  intro k run r
  have hd : Registry.standard.value = .ok (standard : Dispatcher Extras.none).registry :=
    Registry.standard_value
  have hr : published.recognized.value = some r := by decide +kernel
  have ht : r.trigger ≠ .commit := by decide
  obtain ⟨-, hspares, -⟩ := dispatch_spares hd hr none k ()
  exact ⟨hd, hr, ht, by decide +kernel, (hspares ht).1⟩

end Dispatcher

end Dispatch

end JobDispatch
