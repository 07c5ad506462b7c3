import JobDispatch.Proofs.BuildNotes
import JobDispatch.Proofs.Change

namespace JobDispatch.Replay

open EventStream Log.Record

variable {ω : Type} (files : Files (StateM ω)) (configDir : String)

def paired : Collaborators Extras.none (StateM (UInt64 × ω)) :=
  (collaborators files configDir).change (.pairing UInt64 ω)

lemma stateT_bind {α β : Type} (x : StateT UInt64 (StateM ω) α)
    (f : α → StateT UInt64 (StateM ω) β) (n : UInt64) (w : ω) :
    (x >>= f) n w = f (x n w).1.1 (x n w).1.2 (x n w).2 := rfl

lemma connect_link (side : Side) (n : UInt64) (w : ω) :
    let x := (link files configDir side).connect n w
    x.1.2 = n ∧ x.1.1.log.filter isNote = [] ∧ ∀ f, x.1.1.value = .ok f →
      f = ConfigForge.forge files.lift ⟨side, joinPath configDir side.name⟩ := by
  simp only [link, ConfigForge.connect, stateT_bind]
  generalize hx : (files.lift : Files (StateT UInt64 (StateM ω))).isDirectory
    (joinPath configDir side.name) n w = x
  have hn : x.1.2 = n := by
    rw [← hx]
    rfl
  cases hopen : x.1.1 with
  | true =>
    refine ⟨hn, rfl, ?_⟩
    intro f hf
    exact (Except.ok.inj hf).symm
  | false =>
    refine ⟨hn, rfl, ?_⟩
    intro f hf
    cases hf

lemma readText_lift (path : String) (n : UInt64) (w : ω) :
    ((files.lift : Files (StateT UInt64 (StateM ω))).readText path n w).1.2 = n := by
  simp only [Files.readText, stateT_bind]
  generalize hx : (files.lift : Files (StateT UInt64 (StateM ω))).read path n w = x
  have hn : x.1.2 = n := by
    rw [← hx]
    rfl
  cases x.1.1 <;> exact hn

lemma numbers_forge (side : Side) (root : String) (call : ForgeCall) (n : UInt64) (w : ω) :
    let x := ConfigForge.ask (files.lift : Files (StateT UInt64 (StateM ω))) ⟨side, root⟩ call n w
    (Step.askedForge side call x.1.1.value x.1.1.log : Step Extras.none).Numbers n x.1.2 := by
  cases call with
  | packageConfig p ref => exact ⟨rfl, readText_lift files _ n w⟩
  | taggedCommit p tag => exact ⟨⟨_, rfl⟩, rfl, rfl⟩
  | comment p target body => exact ⟨rfl, rfl, rfl⟩

lemma marks_urlOf (package : PackageConfig) (path : String) (x : Except FileError String) :
    (Recorder.urlOf package path x).log.filter isNote = [] := by
  cases x with
  | ok content => rfl
  | error e => cases e <;> rfl

lemma numbers_packaging (r : Recorder) (call : PackagingCall) (n : UInt64) (w : ω) :
    let x := r.ask files call n w
    (Step.askedPackaging call x.1.1.value x.1.1.log : Step Extras.none).Numbers n x.1.2 := by
  cases call with
  | build package p request => exact ⟨rfl, rfl, rfl⟩
  | carryBack | checkPullRequest | proposeRelease => exact ⟨rfl, rfl⟩
  | sourceUrl package p =>
    refine ⟨?_, r.ask_of_request?_none files rfl n w⟩
    cases hs : package.specfile? with
    | none =>
      simp only [Recorder.ask, hs]
      rfl
    | some specfile =>
      simp only [Recorder.ask, hs]
      exact marks_urlOf package _ _

lemma obey_paired :
    (paired files configDir).Obey fun s st s' => Step.Numbers s.1 st s'.1 := by
  have hl : ∀ side, (paired files configDir).link side =
      (link files configDir side).change (.pairing UInt64 ω) := by
    rintro (_ | _) <;> rfl
  refine ⟨fun _ _ => ⟨rfl, rfl⟩, ?_, ?_, ?_, nofun⟩
  · rintro side ⟨n, w⟩
    rw [hl]
    obtain ⟨hn, hm, -⟩ := connect_link files configDir side n w
    exact ⟨hm, hn⟩
  · rintro side f call ⟨n, w⟩ hf
    rw [hl] at hf
    obtain ⟨⟨n₀, w₀⟩, hf⟩ := hf
    have hf : ((link files configDir side).connect n₀ w₀).1.1.value.map
        (Forge.change (.pairing UInt64 ω)) = .ok f := hf
    obtain ⟨-, -, hg⟩ := connect_link files configDir side n₀ w₀
    cases hv : ((link files configDir side).connect n₀ w₀).1.1.value with
    | error err =>
      rw [hv] at hf
      cases hf
    | ok g =>
      obtain rfl := hg g hv
      rw [hv] at hf
      obtain rfl := Except.ok.inj hf
      exact numbers_forge files side _ call n w
  · rintro call ⟨n, w⟩
    exact numbers_packaging files _ call n w

lemma exists_heard (deliveries : List Delivery) :
    ∃ heard, Sound heard ∧
      (deliveries = heard ∨ ∃ e rest, deliveries = heard ++ .failure e :: rest) := by
  induction deliveries with
  | nil => exact ⟨[], by simp [Sound], .inl rfl⟩
  | cons x xs ih =>
    obtain ⟨heard, hs, hx⟩ := ih
    have hcons : ∀ {y : Delivery}, (∀ e, y ≠ .failure e) → Sound (y :: heard) := by
      intro y hy e he
      rcases List.mem_cons.mp he with he | he
      · exact hy e he.symm
      · exact hs e he
    have hlater : ∀ y : Delivery, y :: xs = y :: heard ∨
        ∃ e rest, y :: xs = y :: heard ++ .failure e :: rest := by
      intro y
      rcases hx with rfl | ⟨e, rest, rfl⟩
      · exact .inl rfl
      · exact .inr ⟨e, rest, rfl⟩
    cases x with
    | event i => exact ⟨.event i :: heard, hcons (by simp), hlater _⟩
    | malformed line => exact ⟨.malformed line :: heard, hcons (by simp), hlater _⟩
    | failure e => exact ⟨[], by simp [Sound], .inr ⟨e, xs, rfl⟩⟩

variable {d : Dispatcher Extras.none}

lemma run_log (deliveries : List Delivery) (w : ω) :
    (run files configDir d deliveries w).1.2 =
      ((Listener.run d deliveries).run (paired files configDir) (firstBuild, w)).1.log := by
  rw [paired, Program.run_change]
  rfl

lemma notes_run {deliveries heard : List Delivery} (hs : Sound heard)
    (hx : deliveries = heard ∨ ∃ e rest, deliveries = heard ++ .failure e :: rest)
    (hd : Registry.standard.value = .ok d.registry) (w : ω) :
    let told := Listener.told d heard (paired files configDir) (firstBuild, w)
    (run files configDir d deliveries w).1.2.filter isNote = told.flatMap Step.marks ∧
      ∃ n, Trail Step.Numbers firstBuild told n := by
  intro told
  have htold : ∀ st ∈ told, st.Apart := Listener.told_apart hd heard _ _
  let k := paired files configDir
  have htrail : Trail Step.Numbers firstBuild ((Listener.run d deliveries).steps k (firstBuild, w))
      ((Listener.run d deliveries).run k (firstBuild, w)).2.1 :=
    ((Listener.run d deliveries).steps_trail (obey_paired files configDir) (firstBuild, w)).map
      (f := Prod.fst) fun _ _ _ h => h
  rw [run_log]
  rcases hx with rfl | ⟨e, rest, rfl⟩
  · have hruns := Listener.run_runs d k (firstBuild, w) hs
    rw [hruns.steps] at htrail
    obtain ⟨n, ht, -⟩ := Trail.append_iff.mp htrail
    refine ⟨?_, n, ht⟩
    rw [Outcome.filter_log hruns.transcript, List.flatMap_append]
    · exact List.append_nil _
    · refine List.forall_mem_append.mpr ⟨htold, List.forall_mem_singleton.mpr ?_⟩
      exact (by decide : Log.Part.listener ≠ .offline)
  · have hruns := Listener.run_runs_failure d k (firstBuild, w) hs e rest
    rw [hruns.steps] at htrail
    exact ⟨Outcome.filter_log hruns.transcript htold, _, htrail⟩

open Recorder in
/-- Builds are numbered in the order in which they are asked for, over all events of a replay, and a
comment tells the number of the build that is noted right before it. -/
theorem builds_numbered {ω : Type} (files : Files (StateM ω)) :
    (∀ (r : Recorder) (calls : List PackagingCall) (w : ω),
      let o := (r.answers files calls firstBuild w).1
      o.1.map Answered.call = calls ∧ o.1.filterMap Answered.build? = (builds calls).map .ok ∧
        o.2 = .ofNat ((builds calls).length + 1) ∧
        (∀ b ∈ builds calls, ∃ front, b.infoUrl = front ++ "/build/" ++ toString b.buildId) ∧
        ((builds calls).take UInt64.size).Pairwise fun b b' =>
          b.buildId ≠ b'.buildId ∧ b.infoUrl ≠ b'.infoUrl) ∧
    ∀ configDir upstreamBranch, ∃ d, (dispatcher upstreamBranch).value = .ok d ∧
      ∀ deliveries w,
        let log := (run files configDir d deliveries w).1.2
        let k := paired files configDir
        log = ((Listener.run d deliveries).run k (firstBuild, w)).1.log ∧
          ∃ heard works, Sound heard ∧
            (deliveries = heard ∨ ∃ e rest, deliveries = heard ++ .failure e :: rest) ∧
            List.Forall₂ (Turn.Builds d) (d.turns (messages heard) k (firstBuild, w)) works ∧
            List.Forall₂ (fun x rec => x.1.NotedBy (.ofNat (x.2 + 1)) rec) works.flatten.zipIdx
              (log.filter isBuildNote) ∧
            ∀ before rec after, log = before ++ rec :: after → rec.isCommentNote = true →
              ∃ earlier note x n, before.filter isNote = earlier ++ [note] ∧ x ∈ works.flatten ∧
                x.NotedBy n note ∧ x.ReportedBy n rec := by
  refine ⟨fun r calls w => ?_, fun configDir upstreamBranch => ?_⟩
  · obtain ⟨hcalls, hbuilds, hnext⟩ := r.answers_first files calls w
    exact ⟨hcalls, hbuilds, hnext, fun b => infoUrl_of_mem_builds, builds_distinct calls⟩
  let d : Dispatcher Extras.none := ⟨⟨upstreamBranch⟩, ⟨Registry.builtin?⟩⟩
  have hd : Registry.standard.value = .ok d.registry := Registry.standard_value
  refine ⟨d, by simp only [dispatcher, hd]; rfl, fun deliveries w => ?_⟩
  intro log k
  obtain ⟨heard, hs, hx⟩ := exists_heard deliveries
  obtain ⟨hnotes, n, ht⟩ := notes_run files configDir hs hx hd w
  obtain ⟨works, hbuilds, hw⟩ := Listener.told_works hd hs k (firstBuild, w) ht
  have hlog : log.filter isNote = (numbered Work.notes firstBuild works.flatten).flatten :=
    hnotes.trans hw.marks
  refine ⟨run_log files configDir deliveries w, heard, works, hs, hx, hbuilds, ?_, ?_⟩
  · have hb : log.filter isBuildNote = (log.filter isNote).filter isBuildNote := by
      rw [List.filter_filter]
      congr 1
      funext rec
      simp only [isNote]
      cases rec.isBuildNote <;> rfl
    have hfirst : firstBuild = 1 := rfl
    rw [hb, hlog, filter_isBuildNote_notes, hfirst, numbered_one, List.mapIdx_eq_zipIdx_map,
      List.forall₂_map_right_iff, List.forall₂_same]
    exact fun x _ => x.1.notedBy_buildNote _
  · intro before rec after hsplit hc
    have hsplit' : (numbered Work.notes firstBuild works.flatten).flatten =
        before.filter isNote ++ rec :: after.filter isNote := by
      rw [← hlog, hsplit, List.filter_append, List.filter_cons_of_pos (by simp [isNote, hc])]
    obtain ⟨earlier, x, n, hx, hb, hrec⟩ := comment_of_notes hsplit' hc
    exact ⟨earlier, _, x, n, hb, hx, x.notedBy_buildNote n, x.reportedBy_of_mem_comments hrec⟩

def declaringBuilds : Files (StateM Unit) where
  isDirectory _ := pure true
  read path :=
    let trigger := if path = "/upstream/acme/widget.json" then "release" else "pull_request"
    let config := "\x7b\"jobs\":[\x7b\"job\":\"copr_build\",\"trigger\":\"" ++ trigger ++
      "\",\"metadata\":\x7b\"targets\":\"f40\"\x7d\x7d]\x7d"
    pure (.ok config.toUTF8.toList)

-- The release fails, as no tag is known, but its build has been noted and keeps its number.
example :
    let deliveries : List Delivery :=
      [.event ⟨Dispatcher.published, none⟩, .event ⟨Dispatcher.opened, none⟩]
    let o := (run declaringBuilds "/" .standard deliveries ()).1
    o.1 = .ok ⟨2, 1⟩ ∧ (o.2.filter isNote).map (fun rec => rec.fields.getLast?) =
      [some ("build_id", "1"), some ("build_id", "2"), some ("body",
        "Triggered copr build (ID:2).\nMore info: offline://copr/packit/fork-widget/build/2")] := by
  decide +kernel

end JobDispatch.Replay
