import JobDispatch.Proofs.Builtins

namespace JobDispatch

variable {X : Extras} {α : Type}

lemma append_eq_split {xs ys before after : List α} {s : α}
    (h : xs ++ ys = before ++ s :: after) :
    (∃ rest, xs = before ++ s :: rest) ∨
      ∃ since, before = xs ++ since ∧ ys = since ++ s :: after := by
  rcases List.append_eq_append_iff.mp h with ⟨since, hb, hy⟩ | ⟨rest, hx, hy⟩
  · exact .inr ⟨since, hb, hy⟩
  · cases rest with
    | nil => exact .inr ⟨[], by simpa using hx.symm, by simpa using hy.symm⟩
    | cons t rest =>
      obtain ⟨rfl, -⟩ := List.cons_eq_cons.mp hy
      exact .inl ⟨rest, hx⟩

lemma cons_eq_split {xs before after : List α} {x s : α} (h : x :: xs = before ++ s :: after)
    (hs : s ≠ x) : ∃ since, before = x :: since ∧ xs = since ++ s :: after := by
  cases before with
  | nil => exact absurd (List.cons_eq_cons.mp h).1.symm hs
  | cons y since =>
    obtain ⟨rfl, hx⟩ := List.cons_eq_cons.mp h
    exact ⟨since, rfl, hx⟩

lemma not_mem_records {s : Step X} (hn : ∀ rec, s ≠ .logged rec) (rs : List Log.Record) :
    s ∉ records rs := by
  intro hm
  obtain ⟨rec, -, rfl⟩ := List.mem_map.mp hm
  exact hn rec rfl

lemma Reaches.mono {κ κ' : Contacts} {side other kind : Side} {ss : List (Step X)}
    {x : Except ForgeError Side} (h : Reaches κ side ss x κ') (hκ : κ other = some kind) :
    κ' other = some kind := by
  cases h with
  | connected => exact hκ
  | connects _ _ hn =>
    have ho : other ≠ side := by
      rintro rfl
      simp [hn] at hκ
    rwa [Function.update_of_ne ho]
  | fails => exact hκ

lemma Program.Path.mono {p : Program X α} {κ κ' : Contacts} {ss : List (Step X)} {a : α}
    {side kind : Side} (h : Program.Path κ p ss a κ') (hκ : κ side = some kind) :
    κ' side = some kind := by
  induction h with
  | done => exact hκ
  | log _ ih => exact ih hκ
  | reach hr _ ih => exact ih (hr.mono hκ)
  | unreached hr _ ih => exact ih (hr.mono hκ)
  | askForge _ _ hr _ ih => exact ih (hr.mono hκ)
  | askPackaging _ _ _ ih => exact ih hκ
  | act _ _ ih => exact ih hκ

namespace Dispatcher

variable {d : Dispatcher X} {c : Classified} {e : Event}

lemma PlanPath.mono {plan : List (Fate X)} {κ κ' : Contacts} {ss : List (Step X)}
    {r : Except JobError Unit} {side kind : Side} (h : d.PlanPath c e κ plan ss r κ')
    (hκ : κ side = some kind) : κ' side = some kind := by
  induction h with
  | done => exact hκ
  | skip _ ih => exact ih hκ
  | run hp _ ih => exact ih (hp.mono hκ)
  | fail hp => exact hp.mono hκ

lemma PlanPath.split {plan : List (Fate X)} {κ κ' : Contacts} {ss before after : List (Step X)}
    {r : Except JobError Unit} {s : Step X} (h : d.PlanPath c e κ plan ss r κ')
    (hs : ss = before ++ s :: after) (hn : ∀ rec, s ≠ .logged rec) :
    ∃ job h κ₁ κ₂ x earlier since rest, .run job h ∈ plan ∧
      before = earlier ++ .logged (running c job) :: since ∧
      Program.Path κ₁ (h.run (d.context c e job)).run (since ++ s :: rest) x κ₂ := by
  induction h generalizing before with
  | done => simp at hs
  | skip _ ih =>
    obtain ⟨since, rfl, hx⟩ := cons_eq_split hs (hn _)
    obtain ⟨job, h, κ₁, κ₂, x, earlier, since, rest, hm, rfl, hp⟩ := ih hx
    exact ⟨job, h, κ₁, κ₂, x, _ :: earlier, since, rest, List.mem_cons_of_mem _ hm, rfl, hp⟩
  | @run _ _ _ job h _ ss₁ _ _ hp _ ih =>
    rcases append_eq_split hs with ⟨rest, hx⟩ | ⟨later, rfl, hx⟩
    · obtain ⟨since, rfl, rfl⟩ := cons_eq_split hx (hn _)
      exact ⟨job, h, _, _, _, [], since, rest, List.mem_cons_self .., rfl, hp⟩
    · obtain ⟨job', h', κ₁, κ₂, x, earlier, since, rest, hm, rfl, hp⟩ := ih hx
      exact ⟨job', h', κ₁, κ₂, x, .logged (running c job) :: ss₁ ++ earlier, since, rest,
        List.mem_cons_of_mem _ hm, (List.append_assoc ..).symm, hp⟩
  | @fail _ _ job h _ ss _ hp =>
    obtain ⟨since, rfl, rfl⟩ := cons_eq_split hs (hn _)
    exact ⟨job, h, _, _, _, [], since, after, List.mem_cons_self .., rfl, hp⟩

inductive Origin (d : Dispatcher X) (e : Event) (r : Recognized) (κ κ' : Contacts)
    (before : List (Step X)) (s : Step X) : Prop
  | reached (outcome : Except ForgeError Side) (log : List Log.Record) :
      s = .attempted r.side outcome log → Origin d e r κ κ' before s
  | fetched {kind : Side} {rs : List (Step X)} {κ₁ : Contacts}
      (answer : Except ForgeError PackageConfig) (log : List Log.Record) :
      Reaches κ r.side rs (.ok kind) κ₁ → before = records e.recognized.log ++ rs →
      s = .askedForge r.side (r.configCall kind) answer log → Origin d e r κ κ' before s
  | taken {kind : Side} {rs between since after : List (Step X)} {κ₁ κ₂ κ₃ : Contacts}
      {package : PackageConfig} {log : List Log.Record} {job : JobConfig} {h : Handler X}
      {x : Except JobError Unit} :
      Reaches κ r.side rs (.ok kind) κ₁ → κ' r.side = some kind →
      before = (records e.recognized.log ++ rs) ++
        .askedForge r.side (r.configCall kind) (.ok package) log ::
          (between ++ .logged (running (r.classified kind package) job) :: since) →
      job ∈ package.jobs → job.trigger = r.trigger →
      d.registry.handler? job.job = some h → r.trigger ∈ h.triggers →
      Program.Path κ₂ (h.run (d.context (r.classified kind package) e job)).run
        (since ++ s :: after) x κ₃ → Origin d e r κ κ' before s

lemma reached_of_mem {r : Recognized} {κ κ₁ κ' : Contacts} {rs before : List (Step X)}
    {x : Except ForgeError Side} {s : Step X} (hx : Reaches κ r.side rs x κ₁)
    (hn : ∀ rec, s ≠ .logged rec) (hm : s ∈ records e.recognized.log ++ rs) :
    d.Origin e r κ κ' before s := by
  rcases List.mem_append.mp hm with hm | hm
  · exact absurd hm (not_mem_records hn _)
  · obtain ⟨outcome, log, rfl⟩ := hx.attempted hm
    exact .reached outcome log rfl

lemma DispatchPath.origin {topic : Option String} {κ κ' : Contacts}
    {ss before after : List (Step X)} {res : Except JobError Unit} {s : Step X}
    (h : d.DispatchPath e topic κ ss res κ') (hs : ss = before ++ s :: after)
    (hn : ∀ rec, s ≠ .logged rec) :
    ∃ r, e.recognized.value = some r ∧ d.Origin e r κ κ' before s := by
  have hr := not_mem_records hn
  have hm : s ∈ ss := hs ▸ List.mem_append_right before (List.mem_cons_self ..)
  cases h with
  | dropped => exact absurd hm (hr _)
  | unrecognized => exact absurd hm (hr _)
  | unclassified _ hc =>
    cases hc with
    | @unreached r _ _ _ hv hx =>
      exact ⟨r, hv, reached_of_mem hx hn hm⟩
    | @unfetched r rs kind err log _ hv hx =>
      refine ⟨r, hv, ?_⟩
      rcases append_eq_split hs with ⟨rest, h⟩ | ⟨since, rfl, h⟩
      · exact reached_of_mem hx hn (h ▸ List.mem_append_right before (List.mem_cons_self ..))
      · cases since with
        | nil =>
          obtain ⟨rfl, -⟩ := List.cons_eq_cons.mp h
          exact .fetched (.error err) log hx (List.append_nil _) rfl
        | cons t since => simp at h
  | @classified c ss₁ ss₂ _ _ _ _ hc hp =>
    cases hc with
    | @classified r rs kind package log notes κ₁ hv hx =>
      refine ⟨r, hv, ?_⟩
      rcases append_eq_split hs with ⟨rest, h⟩ | ⟨since, rfl, h⟩
      · rcases append_eq_split h with ⟨rest, h'⟩ | ⟨since, rfl, h'⟩
        · exact reached_of_mem hx hn (h' ▸ List.mem_append_right before (List.mem_cons_self ..))
        · cases since with
          | nil =>
            obtain ⟨rfl, -⟩ := List.cons_eq_cons.mp h'
            exact .fetched (.ok package) log hx (List.append_nil _) rfl
          | cons t since =>
            have hm : s ∈ records notes := by
              rw [(List.cons_eq_cons.mp h').2]
              simp
            exact absurd hm (hr _)
      · obtain ⟨job, handler, κ₂, κ₃, x, earlier, since, rest, hm, rfl, hrun⟩ := hp.split h hn
        obtain ⟨hm, hjt, hj, ht⟩ := Registry.mem_plan_run_iff.mp hm
        rw [Recognized.classified, Recognized.located_jobs] at hm
        have hb : records e.recognized.log ++ rs ++
            .askedForge r.side (r.configCall kind) (.ok package) log :: records notes ++
              (earlier ++ .logged (running (r.classified kind package) job) :: since) =
            (records e.recognized.log ++ rs) ++
              .askedForge r.side (r.configCall kind) (.ok package) log ::
                ((records notes ++ earlier) ++
                  .logged (running (r.classified kind package) job) :: since) := by simp
        exact .taken hx (hp.mono hx.contact) hb hm hjt hj ht hrun

def Reported (e : Event) (r : Recognized) (κ : Contacts) (ss : List (Step X)) (kind : Side) :
    Prop :=
  ∃ rs κ₁ rest, Reaches κ r.side rs (.ok kind) κ₁ ∧ ss = records e.recognized.log ++ rs ++ rest

section Builtins

variable {r : Recognized} {topic : Option String} {κ κ' : Contacts} {ss : List (Step X)}
  {res : Except JobError Unit}

lemma DispatchPath.askedForge {side : Side} {call : ForgeCall}
    {answer : Except ForgeError call.Result} {log : List Log.Record}
    (h : d.DispatchPath e topic κ ss res κ') (hd : Registry.standard.value = .ok d.registry)
    (hr : e.recognized.value = some r) (hm : .askedForge side call answer log ∈ ss) :
    ∃ kind, Reported e r κ ss kind ∧ (side = r.side ∧ call = r.configCall kind ∨
      ∃ (package : PackageConfig) (job : JobConfig) (handler : Handler X),
        Builtin r.trigger job.job handler ∧
          (d.context (r.classified kind package) e job).Takes job.job
            (.askedForge side call answer log : Step X)) := by
  obtain ⟨before, after, rfl⟩ := List.append_of_mem hm
  obtain ⟨r', hr', ho⟩ := h.origin rfl (by simp)
  obtain rfl := Option.some.inj (hr.symm.trans hr')
  cases ho with
  | reached _ _ hs => cases hs
  | @fetched kind rs κ₁ _ _ hx hb hs =>
    injection hs with hside hcall
    exact ⟨kind, ⟨rs, κ₁, _, hx, by rw [hb]⟩, .inl ⟨hside, hcall⟩⟩
  | @taken kind rs _ _ _ κ₁ _ _ package _ job handler _ hx _ hb _ _ hj ht hrun =>
    have hbuiltin := Registry.standard_builtin hd hj ht
    have htakes := Builtin.takes (c := d.context (r.classified kind package) e job) hbuiltin hrun
    refine ⟨kind, ⟨rs, κ₁, _, hx, by rw [hb, List.append_assoc]⟩, .inr ⟨package, job, handler,
      hbuiltin, htakes _ (List.mem_append_right _ (List.mem_cons_self ..))⟩⟩

lemma DispatchPath.askedPackaging {call : PackagingCall} {before after : List (Step X)}
    {answer : Except PackagingError call.Result} {log : List Log.Record}
    (h : d.DispatchPath e topic κ ss res κ') (hd : Registry.standard.value = .ok d.registry)
    (hr : e.recognized.value = some r)
    (hs : ss = before ++ .askedPackaging call answer log :: after) :
    ∃ kind package fetched job handler earlier since, Reported e r κ ss kind ∧
      before = earlier ++ .logged (running (r.classified kind package) job) :: since ∧
      .askedForge r.side (r.configCall kind) (.ok package) fetched ∈ earlier ∧
      (∀ c other, .logged (running c other) ∉ since) ∧
      job ∈ package.jobs ∧ job.trigger = r.trigger ∧
      d.registry.handler? job.job = some handler ∧ r.trigger ∈ handler.triggers ∧
      (d.context (r.classified kind package) e job).Takes job.job
        (.askedPackaging call answer log : Step X) := by
  obtain ⟨r', hr', ho⟩ := h.origin hs (by simp)
  obtain rfl := Option.some.inj (hr.symm.trans hr')
  cases ho with
  | reached _ _ hs => cases hs
  | fetched _ _ _ _ hs => cases hs
  | @taken kind rs between since _ κ₁ _ _ package fetched job handler _ hx _ hb hm hjt hj ht hrun =>
    have htakes := Builtin.takes (c := d.context (r.classified kind package) e job)
      (Registry.standard_builtin hd hj ht) hrun
    refine ⟨kind, package, fetched, job, handler, records e.recognized.log ++ rs ++
      .askedForge r.side (r.configCall kind) (.ok package) fetched :: between, since,
      ⟨rs, κ₁, _, hx, hs.trans (by rw [hb, List.append_assoc])⟩, by simp [hb], by simp, ?_, hm, hjt,
      hj, ht, htakes _ (List.mem_append_right _ (List.mem_cons_self ..))⟩
    intro c other hmem
    exact (htakes _ (List.mem_append_left _ hmem)).of_logged.2 rfl

end Builtins

end Dispatcher

end JobDispatch
