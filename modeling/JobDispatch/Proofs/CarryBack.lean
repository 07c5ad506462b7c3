import JobDispatch.Proofs.Calls
import JobDispatch.Proofs.MissingField
import JobDispatch.Proofs.Origin
import JobDispatch.Proofs.Topic

namespace JobDispatch

variable {X : Extras} {σ : Type}

def Context.asksSource (c : Context) (answer : Except PackagingError (Option String))
    (log : List Log.Record) : Step X :=
  .askedPackaging (.sourceUrl c.package c.project) answer log

inductive Context.CarriesBack (c : Context) (branch : String) (κ : Contacts) :
    List (Step X) → Except JobError Unit → Contacts → Prop
  | refused (err : PackagingError) (log : List Log.Record) :
      CarriesBack c branch κ [c.asksSource (.error err) log] (.error (.packaging err)) κ
  | unset (log : List Log.Record) :
      CarriesBack c branch κ [c.asksSource (.ok none) log]
        (.error (.configuration
          "URL in specfile is not set; the upstream project location is unknown")) κ
  | unresolved {url : String} (log : List Log.Record) : Address.ownerAndRepo? url = none →
      CarriesBack c branch κ [c.asksSource (.ok (some url)) log]
        (.error (.configuration ("Cannot derive the upstream project from '" ++ url ++ "'"))) κ
  | unreached {url owner repo : String} {rs : List (Step X)} {err : ForgeError} {κ' : Contacts}
      (log : List Log.Record) : Address.ownerAndRepo? url = some (owner, repo) →
      Reaches κ .upstream rs (.error err) κ' →
      CarriesBack c branch κ (c.asksSource (.ok (some url)) log :: rs) (.error (.forge err)) κ'
  | carried {url owner repo : String} {rs : List (Step X)} {kind : Side} {κ' : Contacts}
      {fields : List (String × String)} (log : List Log.Record)
      (answer : Except PackagingError Unit) (log' : List Log.Record) :
      Address.ownerAndRepo? url = some (owner, repo) →
      Reaches κ .upstream rs (.ok kind) κ' →
      CarriesBack c branch κ
        (c.asksSource (.ok (some url)) log :: rs ++
          [.logged (.info .syncFromDownstream "Syncing downstream commits to upstream" fields),
            .askedPackaging (.carryBack { c.package with upstreamProjectUrl := some url }
              ⟨owner, repo, kind⟩ branch c.config.upstreamBranch) answer log'])
        (answer.mapError .packaging) κ'

namespace Handler

open Job Context

variable {c : Context} {branch : String} {κ κ' : Contacts} {ss : List (Step X)}
  {r : Except JobError Unit}

lemma carriesBack_of_path (hb : c.event.HasText ["msg", "commit", "branch"] branch)
    (h : Program.Path κ (syncFromDownstream.run c).run ss r κ') :
    c.CarriesBack branch κ ss r κ' := by
  simp only [syncFromDownstream, requireText_of_hasText hb, pure_bind] at h
  rcases path_askPackaging_bind.mp h with ⟨err, log, rfl, rfl, rfl⟩ | ⟨url, log, ss₁, rfl, h₁⟩
  · exact .refused err log
  cases url with
  | none =>
    obtain ⟨rfl, rfl, rfl⟩ := path_fail.mp h₁
    exact .unset log
  | some url =>
    rw [sourceOf] at h₁
    cases hu : Address.ownerAndRepo? url with
    | none =>
      simp only [hu, fail_bind] at h₁
      obtain ⟨rfl, rfl, rfl⟩ := path_fail.mp h₁
      exact .unresolved log hu
    | some source =>
      obtain ⟨owner, repo⟩ := source
      simp only [hu, pure_bind] at h₁
      rcases path_reach_bind.mp h₁ with ⟨err, hr, rfl⟩ | ⟨kind, κ₁, rs, ss₂, rfl, hr, h₂⟩
      · exact .unreached log hu hr
      obtain ⟨ss₃, rfl, h₃⟩ := path_log_bind.mp h₂
      obtain ⟨answer, log', rfl, rfl, rfl⟩ := path_askPackaging.mp h₃
      exact .carried log answer log' hu hr

end Handler

namespace Dispatcher

variable {d : Dispatcher X} {e : Event} {owner repo branch : String} {topic : Option String}

lemma DispatchPath.carriesBack {κ κ' : Contacts} {ss before after : List (Step X)}
    {res : Except JobError Unit} {call : PackagingCall}
    {answer : Except PackagingError call.Result} {log : List Log.Record}
    (h : d.DispatchPath e topic κ ss res κ') (hd : Registry.standard.value = .ok d.registry)
    (hr : e.recognized.value = some (.distGitCommit owner repo branch))
    (hs : ss = before ++ .askedPackaging call answer log :: after) :
    ∃ kind package fetched job start between since rest κ₁ x κ₂,
      before = start ++
        .askedForge .downstream (.packageConfig ⟨owner, repo, kind⟩ branch) (.ok package) fetched ::
          (between ++ .logged (running ⟨.commit, package, ⟨owner, repo, kind⟩⟩ job) :: since) ∧
        calls start = [] ∧ job ∈ package.jobs ∧ job.trigger = .commit ∧
        job.job = .syncFromDownstream ∧
        (d.context ⟨.commit, package, ⟨owner, repo, kind⟩⟩ e job).CarriesBack branch κ₁
          (since ++ .askedPackaging call answer log :: rest) x κ₂ := by
  obtain ⟨r, hr', ho⟩ := h.origin hs (by simp)
  obtain rfl := Option.some.inj (hr.symm.trans hr')
  have hb : e.HasText ["msg", "commit", "branch"] branch := by
    cases (e.recognized_eq_some_iff _).mp hr with
    | distGitCommit hc _ _ => exact hc.branch
  -- A dispatch itself asks nothing of the packaging service: a handler does.
  cases ho with
  | reached _ _ hs => cases hs
  | fetched _ _ _ _ hs => cases hs
  | @taken kind rs between since rest κ₁ κ₂ κ₃ package fetched job handler x hx _ hbefore hm hjt hj
      ht hrun =>
    have hbuiltin := Registry.standard_builtin hd hj ht
    have hcourse : job.job = .syncFromDownstream ∧
        (d.context ⟨.commit, package, ⟨owner, repo, kind⟩⟩ e job).CarriesBack branch κ₂
          (since ++ .askedPackaging call answer log :: rest) x κ₃ := by
      generalize job.job = j at hbuiltin
      cases hbuiltin with
      | syncFromDownstream => exact ⟨rfl, Handler.carriesBack_of_path hb hrun⟩
    exact ⟨kind, package, fetched, job, _, between, since, rest, κ₂, x, κ₃, hbefore,
      hx.calls_records_append _, hm, hjt, hcourse⟩

end Dispatcher

namespace Handler

open Dispatcher

theorem syncFromDownstream_carriesBack {c : Context} {branch : String}
    (hb : c.event.HasText ["msg", "commit", "branch"] branch)
    (k : Collaborators X (StateM σ)) (s : σ) :
    let o := ((syncFromDownstream.run c).run.run k s).1
    let steps := (syncFromDownstream.run c).run.steps k s
    o.transcript = steps.flatMap Step.entries ∧
      c.CarriesBack branch k.contacts steps o.value o.collaborators.contacts ∧
      ∀ (d : Dispatcher X) (topic : Option String) (owner repo : String),
        Registry.standard.value = .ok d.registry →
        c.event.recognized.value = some (.distGitCommit owner repo branch) →
        ∀ before call answer log after,
          (d.dispatch c.event topic).run.steps k s =
            before ++ .askedPackaging call answer log :: after →
          ∃ kind package fetched job start between since rest κ₁ x κ₂,
            before = start ++
              .askedForge .downstream (.packageConfig ⟨owner, repo, kind⟩ branch) (.ok package)
                  fetched ::
                (between ++
                  .logged (running ⟨.commit, package, ⟨owner, repo, kind⟩⟩ job) :: since) ∧
              calls start = [] ∧ job ∈ package.jobs ∧ job.trigger = .commit ∧
              job.job = .syncFromDownstream ∧
              Context.CarriesBack
                { config := d.config, package := package, event := c.event,
                  project := ⟨owner, repo, kind⟩, job := job, trigger := .commit }
                branch κ₁ (since ++ .askedPackaging call answer log :: rest) x κ₂ := by
  intro o steps
  obtain ⟨hp, ht⟩ := (syncFromDownstream.run c).run.run_path k s
  refine ⟨ht, carriesBack_of_path hb hp, ?_⟩
  intro d topic owner repo hd hr before call answer log after hs
  obtain ⟨hp, -⟩ := (d.dispatch c.event topic).run.run_path k s
  exact (path_dispatch hp).carriesBack hd hr hs

def carriedTwice : PackageConfig where
  jobs := [⟨.syncFromDownstream, .commit, []⟩, ⟨.syncFromDownstream, .commit, []⟩]
  upstreamProjectUrl := some "https://forge.example/acme/gadget"

theorem syncFromDownstream_carriesBack_pushed :
    let k : Collaborators Extras.none (StateM Unit) := .granting carriedTwice
    let d : Dispatcher Extras.none := standard
    let job : JobConfig := ⟨.syncFromDownstream, .commit, []⟩
    let c := d.context ⟨.commit, carriedTwice, ⟨"rpms", "widget", .downstream⟩⟩ pushed job
    let o := ((syncFromDownstream.run c).run.run k ()).1
    let steps := (syncFromDownstream.run c).run.steps k ()
    c.event.HasText ["msg", "commit", "branch"] "f40" ∧
      Registry.standard.value = .ok d.registry ∧
      pushed.recognized.value = some (.distGitCommit "rpms" "widget" "f40") ∧
      calls steps = granted [.sourceUrl, .carryBack] ∧
      calls ((d.dispatch pushed none).run.steps k ()) =
        granted [.packageConfig .downstream, .sourceUrl, .carryBack, .sourceUrl, .carryBack] ∧
      c.CarriesBack "f40" k.contacts steps o.value o.collaborators.contacts := by
  intro k d job c o steps
  have hb : c.event.HasText ["msg", "commit", "branch"] "f40" :=
    Event.text?_eq_some_iff.mp (by decide +kernel)
  obtain ⟨-, hc, -⟩ := syncFromDownstream_carriesBack hb k ()
  refine ⟨hb, Registry.standard_value, by decide +kernel, by decide +kernel, ?_, hc⟩
  decide +kernel

end Handler

end JobDispatch
