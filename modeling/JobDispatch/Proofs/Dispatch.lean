import JobDispatch.Proofs.Path
import JobDispatch.Proofs.Plan
import JobDispatch.Proofs.Recognition

namespace JobDispatch

open Log.Record

variable {X : Extras}

def Recognized.located (r : Recognized) (package : PackageConfig) : PackageConfig :=
  match r.url? with
  | some url => { package with upstreamProjectUrl := some url }
  | none => package

@[simp] lemma Recognized.located_jobs (r : Recognized) (package : PackageConfig) :
    (r.located package).jobs = package.jobs := by
  cases h : r.url? <;> simp [located, h]

def Recognized.project (r : Recognized) : Project := ⟨r.owner, r.repo, r.side⟩

def Recognized.configCall (r : Recognized) (kind : Side) : ForgeCall :=
  .packageConfig ⟨r.owner, r.repo, kind⟩ r.ref

def Recognized.classified (r : Recognized) (kind : Side) (package : PackageConfig) : Classified :=
  ⟨r.trigger, r.located package, ⟨r.owner, r.repo, kind⟩⟩

def records (rs : List Log.Record) : List (Step X) := rs.map .logged

lemma records_append_logged (rs : List Log.Record) (r : Log.Record) :
    (records rs ++ [.logged r] : List (Step X)) = records (rs ++ [r]) := by
  simp [records]

inductive Event.Classification (e : Event) (κ : Contacts) :
    List (Step X) → Except JobError (Option Classified) → Contacts → Prop
  | unrecognized : e.recognized.value = none →
      Classification e κ (records e.recognized.log) (.ok none) κ
  | unreached {r : Recognized} {ss : List (Step X)} {err : ForgeError} {κ' : Contacts} :
      e.recognized.value = some r → Reaches κ r.side ss (.error err) κ' →
      Classification e κ (records e.recognized.log ++ ss) (.error (.forge err)) κ'
  | unfetched {r : Recognized} {ss : List (Step X)} {kind : Side} (err : ForgeError)
      (log : List Log.Record) {κ' : Contacts} :
      e.recognized.value = some r → Reaches κ r.side ss (.ok kind) κ' →
      Classification e κ
        (records e.recognized.log ++ ss ++
          [.askedForge r.side (r.configCall kind) (.error err) log])
        (.error (.forge err)) κ'
  | classified {r : Recognized} {ss : List (Step X)} {kind : Side} (package : PackageConfig)
      (log notes : List Log.Record) {κ' : Contacts} :
      e.recognized.value = some r → Reaches κ r.side ss (.ok kind) κ' →
      Classification e κ
        (records e.recognized.log ++ ss ++
          .askedForge r.side (r.configCall kind) (.ok package) log :: records notes)
        (.ok (some (r.classified kind package))) κ'

open Job in
lemma Recognized.path_classify {r : Recognized} {side kind : Side} {κ κ' : Contacts}
    {ss : List (Step X)} {x : Except JobError Classified} (hκ : κ side = some kind)
    (h : Program.Path κ (r.classify side kind : Job X Classified).run ss x κ') :
    κ' = κ ∧
      ((∃ err log, ss = [.askedForge side (r.configCall kind) (.error err) log] ∧
          x = .error (.forge err)) ∨
        ∃ (package : PackageConfig) (log notes : List Log.Record),
          ss = .askedForge side (r.configCall kind) (.ok package) log :: records notes ∧
            x = .ok (r.classified kind package)) := by
  -- The forge is in contact by now, so that no attempt comes before the question.
  rw [classify] at h
  rcases path_askForge_bind_of_contact hκ h with
    ⟨err, log, rfl, rfl, rfl⟩ | ⟨package, log, ss', rfl, h'⟩
  · exact ⟨rfl, .inl ⟨err, log, rfl, rfl⟩⟩
  cases hu : r.url? with
  | some url =>
    simp only [hu] at h'
    obtain ⟨rfl, rfl, rfl⟩ := path_pure.mp h'
    exact ⟨rfl, .inr ⟨package, log, [], rfl, by simp [classified, located, hu]⟩⟩
  | none =>
    simp only [hu] at h'
    obtain ⟨ss₁, rfl, hp⟩ := path_log_bind.mp h'
    obtain ⟨rfl, rfl, rfl⟩ := path_pure.mp hp
    exact ⟨rfl, .inr ⟨package, log, [_], rfl, by simp [classified, located, hu]⟩⟩

open Job in
lemma Event.path_classify {e : Event} {κ κ' : Contacts} {ss : List (Step X)}
    {x : Except JobError (Option Classified)}
    (h : Program.Path κ (e.classify : Job X (Option Classified)).run ss x κ') :
    e.Classification κ ss x κ' := by
  rw [classify] at h
  obtain ⟨ss₁, rfl, h₁⟩ := path_tell_bind.mp h
  cases hv : e.recognized.value with
  | none =>
    simp only [hv] at h₁
    obtain ⟨rfl, rfl, rfl⟩ := path_pure.mp h₁
    rw [List.append_nil]
    exact .unrecognized hv
  | some r =>
    simp only [hv] at h₁
    rcases path_reach_bind.mp h₁ with ⟨err, hr, rfl⟩ | ⟨kind, κ₁, rs, ss₂, rfl, hr, h₂⟩
    · exact .unreached hv hr
    rcases path_bind.mp h₂ with ⟨_, rfl, hc⟩ | ⟨c, κ₂, ss₃, ss₄, rfl, hc, hl⟩
    · obtain ⟨rfl, ⟨err, log, rfl, hx⟩ | ⟨_, _, _, _, hx⟩⟩ := r.path_classify hr.contact hc
      · cases hx
        rw [← List.append_assoc]
        exact .unfetched err log hv hr
      · simp at hx
    · obtain ⟨rfl, ⟨_, _, _, hx⟩ | ⟨package, log, notes, rfl, hx⟩⟩ :=
        r.path_classify hr.contact hc
      · simp at hx
      · cases hx
        obtain ⟨ss₅, rfl, hp⟩ := path_log_bind.mp hl
        obtain ⟨rfl, rfl, rfl⟩ := path_pure.mp hp
        rw [← List.append_assoc, List.cons_append, records_append_logged]
        exact .classified package log _ hv hr

inductive Dispatcher.PlanPath (d : Dispatcher X) (c : Classified) (e : Event) :
    Contacts → List (Fate X) → List (Step X) → Except JobError Unit → Contacts → Prop
  | done {κ : Contacts} : PlanPath d c e κ [] [] (.ok ()) κ
  | skip {κ κ' : Contacts} {warning : Log.Record} {rest : List (Fate X)} {ss : List (Step X)}
      {r : Except JobError Unit} :
      PlanPath d c e κ rest ss r κ' →
      PlanPath d c e κ (.skip warning :: rest) (.logged warning :: ss) r κ'
  | run {κ κ₁ κ' : Contacts} {job : JobConfig} {h : Handler X} {rest : List (Fate X)}
      {ss₁ ss₂ : List (Step X)} {r : Except JobError Unit} :
      Program.Path κ (h.run (d.context c e job)).run ss₁ (.ok ()) κ₁ →
      PlanPath d c e κ₁ rest ss₂ r κ' →
      PlanPath d c e κ (.run job h :: rest) (.logged (running c job) :: ss₁ ++ ss₂) r κ'
  | fail {κ κ' : Contacts} {job : JobConfig} {h : Handler X} {rest : List (Fate X)}
      {ss : List (Step X)} {err : JobError} :
      Program.Path κ (h.run (d.context c e job)).run ss (.error err) κ' →
      PlanPath d c e κ (.run job h :: rest) (.logged (running c job) :: ss) (.error err) κ'

inductive Dispatcher.DispatchPath (d : Dispatcher X) (e : Event) (topic : Option String)
    (κ : Contacts) : List (Step X) → Except JobError Unit → Contacts → Prop
  | dropped (note : Log.Record) : d.drops topic = true →
      DispatchPath d e topic κ (records [note]) (.ok ()) κ
  | unrecognized (note : Log.Record) : d.drops topic = false → e.recognized.value = none →
      DispatchPath d e topic κ (records (e.recognized.log ++ [note])) (.ok ()) κ
  | unclassified {ss : List (Step X)} {err : JobError} {κ' : Contacts} :
      d.drops topic = false → e.Classification κ ss (.error err) κ' →
      DispatchPath d e topic κ ss (.error err) κ'
  | classified {c : Classified} {ss₁ ss₂ : List (Step X)} {r : Except JobError Unit}
      {κ₁ κ' : Contacts} :
      d.drops topic = false → e.Classification κ ss₁ (.ok (some c)) κ₁ →
      d.PlanPath c e κ₁ (d.registry.plan c.trigger c.package.jobs) ss₂ r κ' →
      DispatchPath d e topic κ (ss₁ ++ ss₂) r κ'

namespace Dispatcher

open Job

variable {d : Dispatcher X} {c : Classified} {e : Event}

lemma PlanPath.error {plan : List (Fate X)} {κ κ' : Contacts} {ss : List (Step X)} {err : JobError}
    (h : d.PlanPath c e κ plan ss (.error err) κ') :
    ∃ before job h κ₁ after,
      .run job h ∈ plan ∧ ss = before ++ .logged (running c job) :: after ∧
        Program.Path κ₁ (h.run (d.context c e job)).run after (.error err) κ' := by
  generalize hr : Except.error err = r at h
  induction h with
  | done => simp at hr
  | skip _ ih =>
    obtain ⟨before, job, h, κ₁, after, hm, rfl, hp⟩ := ih hr
    exact ⟨_ :: before, job, h, κ₁, after, List.mem_cons_of_mem _ hm, rfl, hp⟩
  | run _ _ ih =>
    obtain ⟨before, job, h, κ₁, after, hm, rfl, hp⟩ := ih hr
    exact ⟨_ ++ before, job, h, κ₁, after, List.mem_cons_of_mem _ hm, (List.append_assoc ..).symm,
      hp⟩
  | fail hp =>
    obtain rfl := Except.error.inj hr
    exact ⟨[], _, _, _, _, List.mem_cons_self .., rfl, hp⟩

lemma path_runAll {jobs : List JobConfig} {κ κ' : Contacts} {ss : List (Step X)}
    {r : Except JobError Unit}
    (h : Program.Path κ (d.runAll c e jobs).run ss r κ') :
    d.PlanPath c e κ (jobs.map (d.registry.fate c.trigger)) ss r κ' := by
  induction jobs generalizing κ ss with
  | nil =>
    obtain ⟨rfl, rfl, rfl⟩ := path_pure.mp h
    exact .done
  | cons job jobs ih =>
    rw [runAll, runJob_eq] at h
    rw [List.map_cons]
    cases hf : d.registry.fate c.trigger job with
    | skip warning =>
      simp only [hf] at h
      obtain ⟨ss', rfl, h'⟩ := path_log_bind.mp h
      exact .skip (ih h')
    | run job handler =>
      simp only [hf, bind_assoc] at h
      obtain ⟨ss', rfl, h'⟩ := path_log_bind.mp h
      rcases path_bind.mp h' with ⟨err, rfl, hrun⟩ | ⟨_, κ₁, ss₁, ss₂, rfl, hrun, hrest⟩
      · exact .fail hrun
      · exact .run hrun (ih hrest)

lemma path_dispatch {topic : Option String} {κ κ' : Contacts} {ss : List (Step X)}
    {r : Except JobError Unit} (h : Program.Path κ (d.dispatch e topic).run ss r κ') :
    d.DispatchPath e topic κ ss r κ' := by
  by_cases ht : d.drops topic = true
  · simp only [dispatch, ht, if_true, path_log] at h
    obtain ⟨rfl, rfl, rfl⟩ := h
    exact .dropped _ ht
  have hf : d.drops topic = false := by simpa using ht
  rw [dispatch, if_neg ht, path_bind] at h
  rcases h with ⟨err, rfl, h⟩ | ⟨c?, κ₁, ss₁, ss₂, rfl, h, h'⟩
  · exact .unclassified hf (Event.path_classify h)
  cases c? with
  | none =>
    simp only [path_log] at h'
    obtain ⟨rfl, rfl, rfl⟩ := h'
    cases Event.path_classify h with
    | unrecognized hv =>
      rw [records_append_logged]
      exact .unrecognized _ hf hv
  | some c => exact .classified hf (Event.path_classify h) (path_runAll h')

section EachStep

variable {P : Step X → Prop}

lemma eachStep_classify
    (hN : ∀ rec : Log.Record, rec.part = .dispatch ∨ rec.part = .recognition →
      rec.level ≠ .error → P (.logged rec))
    (hA : ∀ side outcome log, P (.attempted side outcome log))
    (hF : ∀ side call answer log, P (.askedForge side call answer log)) (e : Event) :
    EachStep P (e.classify : Job X (Option Classified)) := by
  refine (eachStep_tell fun rec hr => ?_).bind ?_
  · obtain ⟨hp, hl⟩ := e.noted_of_mem_recognized_log hr
    exact hN rec (.inr hp) hl
  rintro (_ | r)
  · exact eachStep_pure _
  refine (eachStep_reach (hA _)).bind fun kind => EachStep.bind ?_ fun c => ?_
  · refine (eachStep_askForge (hA _) (hF _ _)).bind fun package => ?_
    cases hu : r.url? with
    | some url => exact eachStep_pure _
    | none => exact (eachStep_log (hN _ (.inr rfl) (by simp [debug]))).bind fun _ => eachStep_pure _
  · exact (eachStep_log (hN _ (.inl rfl) (by simp [info]))).bind fun _ => eachStep_pure _

lemma eachStep_runAll
    (hN : ∀ rec : Log.Record, rec.part = .dispatch → rec.level ≠ .error → P (.logged rec))
    (hh : ∀ job h, d.registry.handler? job.job = some h → c.trigger ∈ h.triggers →
      EachStep P (h.run (d.context c e job)))
    (jobs : List JobConfig) : EachStep P (d.runAll c e jobs) := by
  induction jobs with
  | nil => exact eachStep_pure _
  | cons job jobs ih =>
    refine EachStep.bind ?_ fun _ => ih
    rw [runJob_eq]
    cases hf : d.registry.fate c.trigger job with
    | skip warning =>
      obtain ⟨hl, hp⟩ := Registry.fate_eq_skip hf
      exact eachStep_log (hN _ hp (by simp [hl]))
    | run job' h =>
      obtain ⟨rfl, hj, ht⟩ := Registry.fate_eq_run_iff.mp hf
      exact (eachStep_log (hN _ rfl (by simp [running, info]))).bind fun _ => hh job' h hj ht

lemma eachStep_dispatch
    (hN : ∀ rec : Log.Record, rec.part = .dispatch ∨ rec.part = .recognition →
      rec.level ≠ .error → P (.logged rec))
    (hA : ∀ side outcome log, P (.attempted side outcome log))
    (hF : ∀ side call answer log, P (.askedForge side call answer log))
    (hh : ∀ c job h, d.registry.handler? job.job = some h → c.trigger ∈ h.triggers →
      EachStep P (h.run (d.context c e job)))
    (topic : Option String) : EachStep P (d.dispatch e topic) := by
  by_cases ht : d.drops topic = true
  · simp only [dispatch, ht, if_true]
    exact eachStep_log (hN _ (.inl rfl) (by simp [debug]))
  simp only [dispatch, ht]
  refine (eachStep_classify hN hA hF e).bind ?_
  rintro (_ | c)
  · exact eachStep_log (hN _ (.inl rfl) (by simp [debug]))
  · exact eachStep_runAll (fun rec hp => hN rec (.inl hp)) (hh c) _

end EachStep

end Dispatcher

end JobDispatch
