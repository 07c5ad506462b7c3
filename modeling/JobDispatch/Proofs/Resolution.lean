import JobDispatch.Proofs.Attempts
import JobDispatch.Proofs.Calls
import JobDispatch.Proofs.Payload
import JobDispatch.Proofs.Sparing

namespace JobDispatch

variable {X : Extras} {σ α β : Type}

namespace Job

variable {k : Collaborators X (StateM σ)} {s : σ} {left : Collaborators X (StateM σ) × σ}
  {ss : List (Step X)} {side : Side}

open Program

lemma runs_pure (a : α) : (pure a : Job X α).run.Runs k s (.ok a) (k, s) [] := runs_done _

lemma runs_log_bind {rec : Log.Record} {f : Unit → Job X α} {r : Except JobError α}
    (h : (f ()).run.Runs k s r left ss) :
    (log rec >>= f).run.Runs k s r left (.logged rec :: ss) :=
  h.log rec

lemma runs_reach {u : Use (StateM σ) (Forge (StateM σ)) × σ} (hu : (k.link side).use s = u) :
    (reach side : Job X Side).run.Runs k s ((u.1.result.map Forge.kind).mapError .forge)
      (k.setLink side u.1.link, u.2) (u.1.steps side) := by
  subst hu
  have h := runs_self (reach side : Job X Side).run k s
  rw [← List.append_nil (Use.steps _ side)]
  exact h

lemma runs_askForge {call : ForgeCall} {f : Forge (StateM σ)}
    {x : Logged (Except ForgeError call.Result) × σ} (hf : (k.link side).forge? = some f)
    (hx : f.ask call s = x) :
    (askForge side call : Job X call.Result).run.Runs k s (x.1.value.mapError .forge) (k, x.2)
      [.askedForge side call x.1.value x.1.log] := by
  subst hx
  have h := runs_self (askForge side call : Job X call.Result).run k s
  have hrun : (askForge side call : Job X call.Result).run =
    .askForge side call fun x => .done (x.mapError .forge) := rfl
  rw [hrun] at h ⊢
  simp only [run, steps, Link.use_of_forge hf, stateM_bind, stateM_pure, Use.steps,
    Collaborators.setLink_link] at h
  exact h

lemma runs_bind {j : Job X α} {f : α → Job X β} {a : α} {r : Except JobError β}
    {mid : Collaborators X (StateM σ) × σ} {ss' : List (Step X)}
    (h : j.run.Runs k s (.ok a) mid ss) (hf : (f a).run.Runs mid.1 mid.2 r left ss') :
    (j >>= f).run.Runs k s r left (ss ++ ss') := by
  rw [ExceptT.run_bind, bind_eq]
  exact h.bind hf

lemma runs_bind_error {j : Job X α} {f : α → Job X β} {err : JobError}
    (h : j.run.Runs k s (.error err) left ss) : (j >>= f).run.Runs k s (.error err) left ss := by
  rw [ExceptT.run_bind, bind_eq, ← List.append_nil ss]
  exact h.bind (runs_done _)

end Job

structure Subject where
  side : Side
  owner : String
  repo : String
  ref : String
  trigger : Trigger

def Recognized.subject : Recognized → Subject
  | .release owner repo tag _ => ⟨.upstream, owner, repo, tag, .release⟩
  | .pullRequest owner repo headRef _ _ => ⟨.upstream, owner, repo, headRef, .pullRequest⟩
  | .distGitCommit owner repo branch => ⟨.downstream, owner, repo, branch, .commit⟩

lemma Recognized.subject_eq (r : Recognized) :
    r.subject = ⟨r.side, r.owner, r.repo, r.ref, r.trigger⟩ := by
  cases r <;> rfl

namespace Event

def About (e : Event) (p : Subject) : Prop :=
  ∃ r, e.recognized.value = some r ∧ r.subject = p

inductive SourceUrl (e : Event) (t : Trigger) (configured : Option String) : Option String → Prop
  | given {url : String} : t ≠ .commit → e.HasText ["repository", "html_url"] url →
      SourceUrl e t configured (some url)
  | notGiven : (¬ ∃ url, e.HasText ["repository", "html_url"] url) →
      SourceUrl e t configured configured
  | commit : t = .commit → SourceUrl e t configured configured

variable {e : Event} {r : Recognized}

lemma located_eq (hr : e.recognized.value = some r) (package : PackageConfig) :
    ∃ url, e.SourceUrl r.trigger package.upstreamProjectUrl url ∧
      r.located package = { package with upstreamProjectUrl := url } := by
  have source {url? : Option String} (hr : r.trigger ≠ .commit) (hu : r.url? = url?)
      (htext : ∀ t, url? = some t ↔ e.HasText ["repository", "html_url"] t) :
      ∃ url, e.SourceUrl r.trigger package.upstreamProjectUrl url ∧
        r.located package = { package with upstreamProjectUrl := url } := by
    cases url? with
    | some url =>
      exact ⟨some url, .given hr ((htext url).mp rfl), by simp [Recognized.located, hu]⟩
    | none =>
      refine ⟨_, .notGiven ?_, by simp [Recognized.located, hu]⟩
      rintro ⟨t, ht⟩
      simpa using (htext t).mpr ht
  cases (e.recognized_eq_some_iff r).mp hr with
  | release _ hu => exact source (by simp [Recognized.trigger]) rfl hu
  | pullRequest _ hu => exact source (by simp [Recognized.trigger]) rfl hu
  | distGitCommit => exact ⟨_, .commit rfl, rfl⟩

inductive Resolves (e : Event) (k : Collaborators X (StateM σ)) (s : σ) :
    Except JobError (Option Classified) → Collaborators X (StateM σ) × σ → List (Step X) → Prop
  | unrecognized : e.recognized.value = none →
      Resolves e k s (.ok none) (k, s) (records e.recognized.log)
  | unreached {p : Subject} {u : Use (StateM σ) (Forge (StateM σ)) × σ} {err : ForgeError} :
      e.About p → (k.link p.side).use s = u → u.1.result = .error err →
      Resolves e k s (.error (.forge err)) (k.setLink p.side u.1.link, u.2)
        (records e.recognized.log ++ u.1.steps p.side)
  | unfetched {p : Subject} {u : Use (StateM σ) (Forge (StateM σ)) × σ} {f : Forge (StateM σ)}
      {x : Logged (Except ForgeError PackageConfig) × σ} {err : ForgeError} :
      e.About p → (k.link p.side).use s = u → u.1.result = .ok f →
      f.ask (.packageConfig ⟨p.owner, p.repo, f.kind⟩ p.ref) u.2 = x → x.1.value = .error err →
      Resolves e k s (.error (.forge err)) (k.setLink p.side u.1.link, x.2)
        (records e.recognized.log ++ u.1.steps p.side ++
          [.askedForge p.side (.packageConfig ⟨p.owner, p.repo, f.kind⟩ p.ref) (.error err)
            x.1.log])
  | classified {p : Subject} {u : Use (StateM σ) (Forge (StateM σ)) × σ} {f : Forge (StateM σ)}
      {x : Logged (Except ForgeError PackageConfig) × σ} {package : PackageConfig}
      {url : Option String} (notes : List Log.Record) :
      e.About p → (k.link p.side).use s = u → u.1.result = .ok f →
      f.ask (.packageConfig ⟨p.owner, p.repo, f.kind⟩ p.ref) u.2 = x → x.1.value = .ok package →
      e.SourceUrl p.trigger package.upstreamProjectUrl url →
      Resolves e k s
        (.ok (some ⟨p.trigger, { package with upstreamProjectUrl := url },
          ⟨p.owner, p.repo, f.kind⟩⟩))
        (k.setLink p.side u.1.link, x.2)
        (records e.recognized.log ++ u.1.steps p.side ++
          .askedForge p.side (.packageConfig ⟨p.owner, p.repo, f.kind⟩ p.ref) (.ok package)
            x.1.log :: records notes)

end Event

namespace Recognized

open Job

variable {k : Collaborators X (StateM σ)} {s : σ} {r : Recognized} {side : Side}
  {f : Forge (StateM σ)} {x : Logged (Except ForgeError PackageConfig) × σ}

lemma runs_classify_error {err : ForgeError} (hf : (k.link side).forge? = some f)
    (hx : f.ask (.packageConfig ⟨r.owner, r.repo, f.kind⟩ r.ref) s = x)
    (he : x.1.value = .error err) :
    (r.classify side f.kind : Job X Classified).run.Runs k s (.error (.forge err)) (k, x.2)
      [.askedForge side (.packageConfig ⟨r.owner, r.repo, f.kind⟩ r.ref) (.error err) x.1.log] := by
  have hask := runs_askForge (X := X) hf hx
  rw [he] at hask
  exact runs_bind_error hask

lemma runs_classify_ok {package : PackageConfig} (hf : (k.link side).forge? = some f)
    (hx : f.ask (.packageConfig ⟨r.owner, r.repo, f.kind⟩ r.ref) s = x)
    (hp : x.1.value = .ok package) :
    ∃ notes, (r.classify side f.kind : Job X Classified).run.Runs k s
      (.ok (r.classified f.kind package)) (k, x.2)
      (.askedForge side (.packageConfig ⟨r.owner, r.repo, f.kind⟩ r.ref) (.ok package) x.1.log ::
        records notes) := by
  have hask := runs_askForge (X := X) hf hx
  rw [hp] at hask
  cases hu : r.url? with
  | some url =>
    refine ⟨[], runs_bind hask ?_⟩
    simp only [hu, classified, located]
    exact runs_pure _
  | none =>
    let note : Log.Record := .debug .recognition
      "Event has no repository URL, keeping the configured upstream URL"
      [("project", (Project.mk r.owner r.repo f.kind).text)]
    refine ⟨[note], runs_bind hask ?_⟩
    simp only [hu, classified, located]
    exact runs_log_bind (runs_pure _)

end Recognized

namespace Event

open Job

lemma exists_resolves (e : Event) (k : Collaborators X (StateM σ)) (s : σ) :
    ∃ x left ss, e.Resolves k s x left ss ∧
      (e.classify : Job X (Option Classified)).run.Runs k s x left ss := by
  cases hr : e.recognized.value with
  | none =>
    refine ⟨_, _, _, .unrecognized hr, ?_⟩
    rw [← List.append_nil (records _)]
    refine runs_tell_bind ?_
    simp only [hr]
    exact runs_pure none
  | some r =>
    have hp : e.About ⟨r.side, r.owner, r.repo, r.ref, r.trigger⟩ := ⟨r, hr, r.subject_eq⟩
    obtain ⟨u, hu⟩ : ∃ u, (k.link r.side).use s = u := ⟨_, rfl⟩
    have hreach := runs_reach (X := X) hu
    cases hres : u.1.result with
    | error err =>
      refine ⟨_, _, _, .unreached hp hu hres, runs_tell_bind ?_⟩
      simp only [hr]
      rw [hres] at hreach
      exact runs_bind_error hreach
    | ok f =>
      rw [hres] at hreach
      have hf : ((k.setLink r.side u.1.link).link r.side).forge? = some f := by
        rw [Collaborators.link_setLink, if_pos rfl]
        subst hu
        exact Link.forge?_use hres
      obtain ⟨y, hy⟩ : ∃ y, f.ask (.packageConfig ⟨r.owner, r.repo, f.kind⟩ r.ref) u.2 = y :=
        ⟨_, rfl⟩
      cases hv : y.1.value with
      | error err =>
        refine ⟨_, _, _, .unfetched hp hu hres hy hv, ?_⟩
        rw [List.append_assoc]
        refine runs_tell_bind ?_
        simp only [hr]
        exact runs_bind hreach (runs_bind_error (r.runs_classify_error hf hy hv))
      | ok package =>
        obtain ⟨url, hurl, hlocated⟩ := located_eq hr package
        have hclassified : r.classified f.kind package = ⟨r.trigger,
            { package with upstreamProjectUrl := url }, ⟨r.owner, r.repo, f.kind⟩⟩ := by
          rw [← hlocated]
          rfl
        obtain ⟨notes, hc⟩ := r.runs_classify_ok (X := X) hf hy hv
        let c := r.classified f.kind package
        let note : Log.Record := .info .dispatch "Event classified" [("trigger", c.trigger.name),
          ("project", c.project.text), ("jobs", toString c.package.jobs.length)]
        refine ⟨_, _, _, .classified (notes ++ [note]) hp hu hres hy hv hurl, ?_⟩
        rw [List.append_assoc, ← records_append_logged, ← hclassified]
        refine runs_tell_bind ?_
        simp only [hr]
        exact runs_bind hreach (runs_bind hc (runs_log_bind (runs_pure _)))

section Resolves

variable {e : Event} {k : Collaborators X (StateM σ)} {s : σ}
  {x : Except JobError (Option Classified)} {left : Collaborators X (StateM σ) × σ}
  {ss : List (Step X)} {side : Side}

lemma attempts_records (rs : List Log.Record) :
    attempts side (records rs : List (Step X)) = [] := by
  simp [attempts, records, Step.attempt?]

lemma Resolves.eq_none_iff (h : e.Resolves k s x left ss) :
    x = .ok none ↔ e.recognized.value = none := by
  cases h with
  | unrecognized hr => exact iff_of_true rfl hr
  | unreached hp | unfetched hp | classified _ hp =>
    obtain ⟨r, hr, -⟩ := hp
    simp [hr]

lemma Resolves.spares (h : e.Resolves k s x left ss)
    (hside : ∀ p, e.About p → p.side ≠ side) :
    attempts side ss = [] ∧ left.1.link side = k.link side := by
  have hlink {p : Subject} (hp : e.About p) (l : Link (StateM σ) (Forge (StateM σ))) :
      (k.setLink p.side l).link side = k.link side := by
    rw [Collaborators.link_setLink, if_neg (hside p hp).symm]
  have hattempts {p : Subject} {u : Use (StateM σ) (Forge (StateM σ)) × σ} (hp : e.About p)
      (hu : (k.link p.side).use s = u) : attempts side (u.1.steps p.side : List (Step X)) = [] := by
    subst hu
    exact Link.attempts_use_other (hside p hp) s
  cases h with
  | unrecognized => exact ⟨attempts_records _, rfl⟩
  | unreached hp hu =>
    refine ⟨?_, hlink hp _⟩
    rw [attempts_append, attempts_records, hattempts hp hu, List.nil_append]
  | unfetched hp hu =>
    refine ⟨?_, hlink hp _⟩
    rw [attempts_append, attempts_append, attempts_records, hattempts hp hu]
    rfl
  | classified notes hp hu =>
    refine ⟨?_, hlink hp _⟩
    rw [attempts_append, attempts_append, attempts_records, hattempts hp hu]
    exact attempts_records notes

lemma Resolves.calls_eq (h : e.Resolves k s x left ss) :
    calls ss = [] ∨ ∃ p ok, e.About p ∧ calls ss = [⟨.packageConfig p.side, ok⟩] := by
  have huse {side : Side} {u : Use (StateM σ) (Forge (StateM σ)) × σ}
      (hu : (k.link side).use s = u) : calls (u.1.steps side : List (Step X)) = [] := by
    subst hu
    exact (Link.use_reaches k side s).1.calls_eq_nil
  cases h with
  | unrecognized => exact .inl (calls_records _)
  | unreached _ hu =>
    left
    rw [calls_append, calls_records, huse hu, List.nil_append]
  | @unfetched p _ _ _ _ hp hu =>
    refine .inr ⟨p, false, hp, ?_⟩
    rw [calls_append, calls_append, calls_records, huse hu]
    rfl
  | @classified p _ _ _ _ _ notes hp hu =>
    refine .inr ⟨p, true, hp, ?_⟩
    rw [calls_append, calls_append, calls_records, huse hu]
    exact congrArg (_ :: ·) (calls_records notes)

end Resolves

theorem classify_resolves (e : Event) (k : Collaborators X (StateM σ)) (s : σ) :
    let o := (e.classify : Job X (Option Classified)).run.run k s
    let ss := (e.classify : Job X (Option Classified)).run.steps k s
    o.1.transcript = ss.flatMap Step.entries ∧
      e.Resolves k s o.1.value (o.1.collaborators, o.2) ss ∧
      (o.1.value = .ok none ↔ e.recognized.value = none) ∧
      (∀ side, (∀ p, e.About p → p.side ≠ side) →
        attempts side ss = [] ∧ o.1.collaborators.link side = k.link side) ∧
      (calls ss = [] ∨ ∃ p ok, e.About p ∧ calls ss = [⟨.packageConfig p.side, ok⟩]) := by
  intro o ss
  obtain ⟨_, _, _, hx, rfl, rfl, rfl, ht⟩ := e.exists_resolves k s
  exact ⟨ht, hx, hx.eq_none_iff, fun _ hside => hx.spares hside, hx.calls_eq⟩

end Event

end JobDispatch
